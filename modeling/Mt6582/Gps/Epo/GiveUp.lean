import Mathlib.Data.List.TakeWhile
import Mt6582.Gps.Calendar
import Mt6582.Gps.Epo.Steps

/-! # Giving up a failed EPO download

The retry branch counts in `retry_time` how often the piece `file_retrying` has been resumed in vain, and gives the
download up at ten. Both variables are static: they outlive the failure they were counted in, and a success in between
does not clear them. A give-up is preceded by ten resumptions in vain as long as no resumption starts from a
count that an earlier failure, or a piece downloaded since, has left behind.
-/

namespace Mt6582.Gps

open Machine

variable {F : Type} (pf : Platform F) (type : EpoType)

/-- `gps_epo_file_count` before and after a resumption. -/
abbrev EpoAttempt := Nat × Nat

/-- The resumptions of the current failure, the last one first. A failure ends when `epo_download_failed` is cleared and
starts afresh when a session is requested or its download fails. -/
def failureAttempts (s : EpoState) (a : EpoAction) (next : EpoState) (attempts : List EpoAttempt) : List EpoAttempt :=
  if next.downloadFailed = false then []
  else match a with
    | .download _ _ _ => if s.dataUpdated then [] else attempts
    | .resume flags _ => if Resumes s flags then (s.fileCount, next.fileCount) :: attempts else attempts
    | .downloadEpo _ => []
    | _ => attempts

/-- The thread together with the resumptions of the current failure. -/
def epoFailures : System (EpoState × List EpoAttempt) EpoAction EpoEvent where
  step s a := (threadEpoFileUpdateStep pf type s.1 a).map fun next =>
    ((next.1, failureAttempts s.1 a next.1 s.2), next.2)

/-- `file_retrying` during a resumption. -/
def EpoState.retrying (s : EpoState) : Nat := if s.fileRetrying = firstRestore then s.fileCount else s.fileRetrying

/-- `retry_time` after a resumption in vain. -/
def EpoState.retries (s : EpoState) : Nat := if s.retrying = s.fileCount then s.retryTime + 1 else 0

/-- The branch of a resumption that gives up: the counter is where it was, and `retry_time` has reached ten. -/
def GivesUp (s : EpoState) (a : EpoAction) (next : EpoState) : Prop :=
  match a with
  | .resume flags _ => Resumes s flags ∧ next.fileCount = s.fileCount ∧ 10 ≤ s.retries
  | _ => False

/-- The resumptions right before, of the same failure, that have left the counter at its present value. -/
def stuckAttempts (s : EpoState) (attempts : List EpoAttempt) : Nat :=
  (attempts.takeWhile (· = (s.fileCount, s.fileCount))).length

/-- The first of a row of resumptions in vain does not find a count for its piece in the static variables. -/
def NoCountLeft (s : EpoState × List EpoAttempt) (_ : List EpoEvent) : EpoAction → Prop
  | .resume flags _ => Resumes s.1 flags → stuckAttempts s.1 s.2 = 0 → s.1.fileRetrying = s.1.fileCount → s.1.retryTime = 0
  | _ => True

/-- A give-up comes with the tenth resumption in a row, of the same failure, that leaves the counter where it is. -/
def GivesUpAfterTen (s : EpoState) (attempts : List EpoAttempt) (a : EpoAction) (next : EpoState) : Prop :=
  GivesUp s a next →
    List.replicate 10 (s.fileCount, s.fileCount) <+: (s.fileCount, next.fileCount) :: attempts

/-- The static variables at the start of the process. -/
structure EpoState.RetryInitial (s : EpoState) : Prop where
  fileCount : s.fileCount = 0
  fileRetrying : s.fileRetrying = firstRestore
  retryTime : s.retryTime = 0

section Frames

variable {pf type} {s next : EpoState} {a : EpoAction} {out : List EpoEvent} {attempts : List EpoAttempt}

theorem requestPiece_retry (pf : Platform F) (type : EpoType) (s : EpoState) (started : Bool)
    (outcome : EpoDownload) :
    (requestPiece pf type s started outcome).1.fileRetrying = s.fileRetrying ∧
    (requestPiece pf type s started outcome).1.retryTime = s.retryTime := by
  cases outcome with
  | noUrl => exact ⟨rfl, rfl⟩
  | failed => exact ⟨rfl, rfl⟩
  | done contents =>
    simp only [requestPiece, mtkGpsEpoFileUpdate, checkPiece, mtkGpsEpoServerDataIsChanged]
    generalize epoVerdict _ _ = verdict
    cases verdict with
    | changed => exact ⟨rfl, rfl⟩
    | rejected => exact ⟨rfl, rfl⟩
    | accepted =>
      dsimp only [acceptPiece]
      split <;> exact ⟨rfl, rfl⟩

theorem resumePiece_retry (pf : Platform F) (type : EpoType) (s : EpoState) (flags : EpoFlags)
    (outcome : EpoDownload) :
    (resumePiece pf type s flags outcome).1.fileRetrying = s.fileRetrying ∧
    (resumePiece pf type s flags outcome).1.retryTime = s.retryTime := by
  rw [resumePiece]
  split
  · exact ⟨rfl, rfl⟩
  · exact requestPiece_retry pf type s _ _

theorem downloadPart_retry (pf : Platform F) (type : EpoType) (s : EpoState) (days : Fin 31)
    (started : Bool) (outcome : EpoDownload) :
    (downloadPart pf type s days started outcome).1.fileRetrying = s.fileRetrying ∧
    (downloadPart pf type s days started outcome).1.retryTime = s.retryTime := by
  rw [downloadPart]
  dsimp only
  split
  · split <;> exact requestPiece_retry pf type _ _ _
  · exact ⟨rfl, rfl⟩

/-- What a resumption does to the static variables. -/
inductive Retried (s next : EpoState) : Prop
  | moved (count : next.fileCount ≠ s.fileCount) (retrying : next.fileRetrying = s.retrying)
      (time : next.retryTime = s.retryTime)
  | counted (count : next.fileCount = s.fileCount) (few : s.retries < 10) (retrying : next.fileRetrying = s.fileCount)
      (time : next.retryTime = s.retries)
  | gaveUp (count : next.fileCount = s.fileCount) (ten : 10 ≤ s.retries) (failed : next.downloadFailed = false)
      (retrying : next.fileRetrying = firstRestore) (time : next.retryTime = 0)

theorem countRetry_retried {resumed : EpoState} (retrying : resumed.fileRetrying = s.retrying)
    (time : resumed.retryTime = s.retryTime) : Retried s (countRetry s.fileCount resumed) := by
  rw [countRetry]
  split
  · next same =>
    have counts :
        s.retries =
        if resumed.fileRetrying = resumed.fileCount then resumed.retryTime + 1 else 0 := by
      rw [EpoState.retries, ← retrying, ← time, ← same]
    rcases eq_or_ne resumed.fileRetrying resumed.fileCount with again | other
    · rw [if_pos again] at counts
      simp only [if_pos again]
      split
      · next few => exact .counted same.symm (counts ▸ few) (again.trans same.symm) counts.symm
      · next ten => exact .gaveUp same.symm (by omega) rfl rfl rfl
    · rw [if_neg other] at counts
      simp only [if_neg other]
      exact .counted same.symm (by omega) same.symm counts.symm
  · next moved => exact .moved (Ne.symm moved) retrying time

theorem resumePart_retried {flags : EpoFlags} (resumes : Resumes s flags) (outcome : EpoDownload) :
    Retried s (resumePart pf type s flags outcome).1 := by
  obtain ⟨retrying, time⟩ :=
    resumePiece_retry pf type { s with fileRetrying := s.retrying } flags outcome
  rw [resumePart]
  rw [if_pos resumes]
  exact countRetry_retried retrying time

theorem Retried.atMode {mode : EpoMode} (retried : Retried s next) :
    Retried s { next with mode := mode } := by
  cases retried with
  | moved count retrying time => exact .moved count retrying time
  | counted count few retrying time => exact .counted count few retrying time
  | gaveUp count ten failed retrying time => exact .gaveUp count ten failed retrying time

/-- The step leaves the static variables alone, and the resumptions and the counter too unless the failure is over. -/
def RetriesKept (s next : EpoState × List EpoAttempt) : Prop :=
  next.1.fileRetrying = s.1.fileRetrying ∧ next.1.retryTime = s.1.retryTime ∧
    (next.2 = [] ∨ next.2 = s.2 ∧ next.1.fileCount = s.1.fileCount)

theorem threadEpoFileUpdate_inside (inside : s.fileCount < 10)
    (stepped : (threadEpoFileUpdate pf type).step s a = some (next, out)) :
    next.fileCount < 10 := by
  have step := (threadEpoFileUpdate_step inside stepped).2
  generalize s.request pf a = request at step
  cases step with
  | request requested => exact requested.inside inside
  | restart count => omega
  | quiet count => omega

/-- A step keeps the counts or is a resumption. -/
theorem epoFailures_step {s next : EpoState × List EpoAttempt}
    (moved : (epoFailures pf type).step s a = some (next, out)) :
    RetriesKept s next ∨ ∃ flags outcome, a = .resume flags outcome ∧ Resumes s.1 flags ∧
      Retried s.1 next.1 ∧
      next.2 = if next.1.downloadFailed = false then [] else (s.1.fileCount, next.1.fileCount) :: s.2 := by
  obtain ⟨s, attempts⟩ := s
  obtain ⟨⟨last, shown⟩, stepped, same⟩ := Option.map_eq_some_iff.mp moved
  cases same
  dsimp only at stepped ⊢
  have attemptsKept : ∀ kept : List EpoAttempt, ∀ failed : Bool,
      (if failed = false then [] else kept) = [] ∨
        (if failed = false then [] else kept) = kept := by
    intro kept failed
    cases failed
    · exact Or.inl rfl
    · exact Or.inr rfl
  cases a with
  | download days started outcome =>
    apply Or.inl
    simp only [threadEpoFileUpdateStep] at stepped
    split at stepped
    · cases stepped
      obtain ⟨retrying, time⟩ := downloadPart_retry pf type s days started outcome
      refine ⟨retrying, time, ?_⟩
      simp only [failureAttempts]
      split
      · exact Or.inl rfl
      · split
        · exact Or.inl rfl
        · next idle =>
            exact Or.inr ⟨rfl, by rw [show downloadPart pf type s days started outcome = _ from if_neg idle]⟩
    · contradiction
  | resume flags outcome =>
    simp only [threadEpoFileUpdateStep] at stepped
    split at stepped
    · cases stepped
      rcases Decidable.em (Resumes s flags) with resumes | idle
      · simp only [failureAttempts, if_pos resumes]
        exact Or.inr ⟨flags, outcome, rfl, resumes, (resumePart_retried resumes outcome).atMode, trivial⟩
      · have unchanged : resumePart pf type s flags outcome = (s, []) := if_neg idle
        simp only [failureAttempts, if_neg idle, unchanged]
        exact Or.inl ⟨rfl, rfl, (attemptsKept _ _).imp id fun same => ⟨same, rfl⟩⟩
    · contradiction
  | trigger flags wifiTrigger enable wifiEpoPeriod =>
    apply Or.inl
    simp only [threadEpoFileUpdateStep] at stepped
    split at stepped
    · cases stepped
      simp only [triggerPart, failureAttempts]
      split
      · next starts => exact ⟨rfl, rfl, Or.inl (if_pos starts.2.2.2.1)⟩
      · exact ⟨rfl, rfl, (attemptsKept _ _).imp id fun same => ⟨same, rfl⟩⟩
    · contradiction
  | downloadEpo expired =>
    cases stepped
    refine Or.inl ⟨?_, ?_, Or.inl ?_⟩
    · cases expired <;> rfl
    · cases expired <;> rfl
    · exact ite_self _
  | retryAlarm =>
    cases stepped
    exact Or.inl ⟨rfl, rfl, (attemptsKept _ _).imp id fun same => ⟨same, rfl⟩⟩
  | updateDone =>
    cases stepped
    refine Or.inl ⟨?_, ?_, (attemptsKept _ _).imp id fun same => ⟨same, ?_⟩⟩
    all_goals split <;> rfl

end Frames

section Run

variable {pf type} {s next : EpoState × List EpoAttempt} {a : EpoAction} {history out : List EpoEvent}

/-- Without a piece being retried nothing is counted, and in a row of resumptions in vain no more is counted than the
row has. -/
structure RetryInvariant (s : EpoState × List EpoAttempt) : Prop where
  inside : s.1.fileCount < 10
  first : s.1.fileRetrying = firstRestore → s.1.retryTime = 0
  counted : 0 < stuckAttempts s.1 s.2 → s.1.fileRetrying = s.1.fileCount ∧ s.1.retryTime ≤ stuckAttempts s.1 s.2

theorem stuckAttempts_nil (s : EpoState) : stuckAttempts s [] = 0 := rfl

theorem stuckAttempts_cons {s next : EpoState} (count : next.fileCount = s.fileCount)
    (attempts : List EpoAttempt) :
    stuckAttempts next ((s.fileCount, next.fileCount) :: attempts) =
      stuckAttempts s attempts + 1 := by
  simp [stuckAttempts, count]

/-- A resumption in vain counts at most itself on top of the row before it. -/
theorem retries_le {flags : EpoFlags} {outcome : EpoDownload} (inv : RetryInvariant s)
    (clean : NoCountLeft s history (.resume flags outcome)) (resumes : Resumes s.1 flags) :
    s.1.retries ≤ stuckAttempts s.1 s.2 + 1 := by
  have time : s.1.retrying = s.1.fileCount → s.1.retryTime ≤ stuckAttempts s.1 s.2 := by
    intro same
    rcases Nat.eq_zero_or_pos (stuckAttempts s.1 s.2) with none | some
    · rw [EpoState.retrying] at same
      split at same
      · next first => rw [inv.first first]; exact Nat.zero_le _
      · rw [clean resumes none same]
        exact Nat.zero_le _
    · exact (inv.counted some).2
  rw [EpoState.retries]
  split
  · next same => exact Nat.succ_le_succ (time same)
  · exact Nat.zero_le _

theorem RetryInvariant.kept (inv : RetryInvariant s) (clean : NoCountLeft s history a)
    (stepped : (epoFailures pf type).step s a = some (next, out)) : RetryInvariant next := by
  have inside : next.1.fileCount < 10 := by
    obtain ⟨⟨last, shown⟩, moved, same⟩ := Option.map_eq_some_iff.mp stepped
    cases same
    exact threadEpoFileUpdate_inside inv.inside moved
  rcases epoFailures_step stepped with ⟨retrying, time, attempts⟩ | ⟨flags, outcome, rfl, resumes, retried, attempts⟩
  · refine ⟨inside, fun first => time.trans (inv.first (retrying.symm.trans first)), fun some => ?_⟩
    rcases attempts with none | ⟨same, count⟩
    · rw [none, stuckAttempts_nil] at some
      omega
    · have row :
          stuckAttempts next.1 next.2 = stuckAttempts s.1 s.2 := by
        rw [stuckAttempts, stuckAttempts, same, count]
      rw [row] at some ⊢
      rw [retrying, time, count]
      exact inv.counted some
  · have fewer := retries_le inv clean resumes
    cases retried with
    | moved count retrying time =>
      have chosen : s.1.retrying ≠ firstRestore := by
        rw [EpoState.retrying]
        split
        · exact (Nat.lt_trans inv.inside (by decide)).ne
        · assumption
      have none : stuckAttempts next.1 next.2 = 0 := by
        rw [attempts]
        split
        · rfl
        · simp [stuckAttempts, Ne.symm count]
      exact ⟨inside, fun first => absurd (retrying.symm.trans first) chosen, fun some => by omega⟩
    | counted count few retrying time =>
      have chosen : next.1.fileRetrying ≠ firstRestore :=
        retrying ▸ (Nat.lt_trans inv.inside (by decide)).ne
      refine ⟨inside, fun first => absurd first chosen, fun some => ⟨retrying.trans count.symm, ?_⟩⟩
      rw [attempts] at some ⊢
      split at some
      · rw [stuckAttempts_nil] at some
        omega
      · next failed => rw [if_neg failed, stuckAttempts_cons count, time]; exact fewer
    | gaveUp count ten failed retrying time =>
      rw [if_pos failed] at attempts
      refine ⟨inside, fun _ => time, fun some => ?_⟩
      rw [attempts, stuckAttempts_nil] at some
      omega

/-- The row of resumptions in vain is at the front of the list. -/
theorem replicate_stuckAttempts (s : EpoState) {n : Nat} {attempts : List EpoAttempt}
    (row : n ≤ stuckAttempts s attempts) :
    List.replicate n (s.fileCount, s.fileCount) <+: attempts := by
  have front : attempts.takeWhile (· = (s.fileCount, s.fileCount)) =
      List.replicate (stuckAttempts s attempts) (s.fileCount, s.fileCount) := by
    apply List.eq_replicate_of_mem
    intro attempt member
    exact by simpa using List.mem_takeWhile_imp member
  have shorter : List.replicate n (s.fileCount, s.fileCount) <+:
      List.replicate (stuckAttempts s attempts) (s.fileCount, s.fileCount) := by
    rw [List.prefix_replicate_iff, List.length_replicate]
    exact ⟨row, rfl⟩
  exact (front ▸ shorter).trans (List.takeWhile_prefix _)

theorem RetryInvariant.givesUpAfterTen (inv : RetryInvariant s) (clean : NoCountLeft s history a)
    (stepped : (epoFailures pf type).step s a = some (next, out)) :
    GivesUpAfterTen s.1 s.2 a next.1 := by
  intro givesUp
  cases a with
  | resume flags outcome =>
    obtain ⟨resumes, count, ten⟩ := givesUp
    have fewer := retries_le inv clean resumes
    have row := stuckAttempts_cons count s.2
    have front :=
      replicate_stuckAttempts next.1 (show 10 ≤ stuckAttempts next.1 ((s.1.fileCount, next.1.fileCount) :: s.2) by
      omega)
    rwa [count] at front ⊢
  | download | trigger | downloadEpo | retryAlarm | updateDone => exact givesUp.elim

/-- In every run in which no resumption starts from a count left behind, a download is given up only after ten
resumptions in a row, of that failure, that leave the counter where it is. -/
theorem epoFailures_givesUp (pf : Platform F) (type : EpoType) {s : EpoState} {t : EpoState × List EpoAttempt}
    {tape : List EpoAction} {trace : List EpoEvent} (initial : s.RetryInitial)
    (clean : (epoFailures pf type).Permitted NoCountLeft (s, []) [] tape)
    (ran : (epoFailures pf type).run (s, []) tape = some (t, trace)) :
    ∀ a next out, NoCountLeft t trace a → (epoFailures pf type).step t a = some (next, out) →
      GivesUpAfterTen t.1 t.2 a next.1 := by
  have start : RetryInvariant (s, []) :=
    ⟨initial.fileCount ▸ Nat.succ_pos 9, fun _ => initial.retryTime, nofun⟩
  have kept : ∀ s history a next out, RetryInvariant s → NoCountLeft s history a →
      (epoFailures pf type).step s a = some (next, out) → RetryInvariant next :=
    fun s history a next out inv clean stepped => inv.kept clean stepped
  have inv : RetryInvariant t := System.run_invariant kept start clean ran
  exact fun a next out clean stepped => inv.givesUpAfterTen clean stepped

end Run

section Restart

def onlineFlags : EpoFlags := ⟨true, false, true, 0⟩

/-- An iteration of the loop whose resumption, if there is one, is in vain; the timer fires after it. -/
def vainRound : List EpoAction :=
  [.download (Fin.last 30) true .noUrl, .resume onlineFlags .noUrl, .trigger onlineFlags false false 1, .retryAlarm]

/-- A requested download that fails, and is resumed in vain as many times. -/
def failingSession (rounds : Nat) : List EpoAction := .downloadEpo false :: (List.replicate rounds vainRound).flatten

instance (s : EpoState × List EpoAttempt) (history : List EpoEvent) : (a : EpoAction) → Decidable (NoCountLeft s history a)
  | .resume flags _ => inferInstanceAs (Decidable (Resumes s.1 flags → stuckAttempts s.1 s.2 = 0 →
      s.1.fileRetrying = s.1.fileCount → s.1.retryTime = 0))
  | .download .. | .trigger .. | .downloadEpo _ | .retryAlarm | .updateDone => .isTrue trivial

instance (s next : EpoState) : (a : EpoAction) → Decidable (GivesUp s a next)
  | .resume flags _ => inferInstanceAs (Decidable (Resumes s flags ∧ next.fileCount = s.fileCount ∧ 10 ≤ s.retries))
  | .download .. | .trigger .. | .downloadEpo _ | .retryAlarm | .updateDone => .isFalse id

instance (s : EpoState) (attempts : List EpoAttempt) (a : EpoAction) (next : EpoState) :
    Decidable (GivesUpAfterTen s attempts a next) :=
  inferInstanceAs (Decidable (_ → _))

theorem freshEpo_retryInitial : freshEpo.RetryInitial := ⟨rfl, rfl, rfl⟩

/-- What can be checked of a step after a run. -/
private theorem exists_step (pf : Platform F) (tape : List EpoAction) (a : EpoAction)
    (check : EpoState × List EpoAttempt → EpoState → Prop) [∀ t next, Decidable (check t next)]
    (found : (((epoFailures pf .gpsOnly).run (freshEpo, []) tape).any fun last =>
      ((epoFailures pf .gpsOnly).step last.1 a).any fun next => check last.1 next.1.1) = true) :
    ∃ t trace next out, (epoFailures pf .gpsOnly).run (freshEpo, []) tape = some (t, trace) ∧
      (epoFailures pf .gpsOnly).step t a = some (next, out) ∧ check t next.1 := by
  obtain ⟨⟨t, trace⟩, ran, rest⟩ := Option.any_eq_true _ _ |>.mp found
  obtain ⟨⟨next, out⟩, stepped, holds⟩ := Option.any_eq_true _ _ |>.mp rest
  exact ⟨t, trace, next, out, ran, stepped, of_decide_eq_true holds⟩

/-- A download that is given up with its tenth resumption. -/
theorem epoFailures_givesUp_tenth : ∃ t trace next out,
    (epoFailures Platform.civil .gpsOnly).run (freshEpo, []) (failingSession 9 ++ [.download (Fin.last 30) true .noUrl]) =
      some (t, trace) ∧
    (epoFailures Platform.civil .gpsOnly).step t (.resume onlineFlags .noUrl) = some (next, out) ∧
    GivesUp t.1 (.resume onlineFlags .noUrl) next.1 ∧
    List.replicate 10 (t.1.fileCount, t.1.fileCount) <+: (t.1.fileCount, next.1.fileCount) :: t.2 := by
  have clean : (epoFailures Platform.civil .gpsOnly).Permitted NoCountLeft (freshEpo, []) []
      (failingSession 9 ++ [.download (Fin.last 30) true .noUrl]) := by decide +kernel
  obtain ⟨t, trace, next, out, ran, stepped, now, givesUp⟩ := exists_step Platform.civil
    (failingSession 9 ++ [.download (Fin.last 30) true .noUrl]) (.resume onlineFlags .noUrl)
    (fun t next => NoCountLeft t [] (.resume onlineFlags .noUrl) ∧ GivesUp t.1 (.resume onlineFlags .noUrl) next)
    (by decide +kernel)
  refine ⟨t, trace, next, out, ran, stepped, givesUp, ?_⟩
  exact epoFailures_givesUp Platform.civil .gpsOnly freshEpo_retryInitial clean ran (.resume onlineFlags .noUrl) next out
    now stepped givesUp

/-- Nine resumptions in vain, then a new download: it is given up with its first resumption. -/
theorem epoFailures_givesUp_first : ∃ t trace next out,
    (epoFailures Platform.civil .gpsOnly).run (freshEpo, [])
      (failingSession 9 ++ [.downloadEpo false, .download 30 true .noUrl]) = some (t, trace) ∧
    (epoFailures Platform.civil .gpsOnly).step t (.resume onlineFlags .noUrl) = some (next, out) ∧
    ¬ GivesUpAfterTen t.1 t.2 (.resume onlineFlags .noUrl) next.1 :=
  exists_step Platform.civil _ _ (fun t next => ¬ GivesUpAfterTen t.1 t.2 (.resume onlineFlags .noUrl) next)
    (by decide +kernel)

end Restart

end Mt6582.Gps

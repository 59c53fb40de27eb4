import Mt6582.Gps.Epo.Steps

/-! # Counting the EPO pieces

`gps_epo_file_count` stays inside the table of file names, a request is for the piece after the last accepted one
and otherwise for the same piece again, and a session is complete with the last of its pieces.
-/

namespace Mt6582.Gps

open Machine

variable {F : Type} {pf : Platform F} {type : EpoType}

/-- The index of the last piece for a number of days. -/
def lastPiece (days : Nat) : Nat := max 1 ((days + 2) / 3) - 1

/-- What one more event makes of the last request. -/
def noteRequest (last : Option (Nat × Bool)) (e : EpoEvent) : Option (Nat × Bool) :=
  match e with
  | .requested index _ => some (index, false)
  | .accepted _ _ => last.map fun request => (request.1, true)
  | e => if e.restarts then none else last

/-- The last request since the session was last restarted, and whether a piece has been accepted since. -/
def lastRequest (history : List EpoEvent) : Option (Nat × Bool) := history.foldl noteRequest none

/-- A request names the piece of its index and follows the request before it; a piece that is accepted was the
last one requested. -/
def RequestsInOrder (type : EpoType) (history : List EpoEvent) : EpoEvent → Prop
  | .requested index name => index < 10 ∧ name = pieceName type index ∧
      ∀ before accepted, lastRequest history = some (before, accepted) → index = if accepted then before + 1 else before
  | .accepted index _ => lastRequest history = some (index, false)
  | _ => True

/-- The session is completed, with the counter and the flags reset, exactly by the acceptance of its last piece. -/
structure CompletesWithLast (next : EpoState) (out : List EpoEvent) : Prop where
  exactly : .completed ∈ out ↔ ∃ contents, .accepted (lastPiece next.downloadDays) contents ∈ out
  reset : .completed ∈ out → next.fileCount = 0 ∧ next.dataUpdated = false ∧ next.downloadFailed = false

/-- `gps_epo_download_days` is kept while a session is past its first piece. -/
def DaysKept (s : EpoState) (_ : List EpoEvent) (a : EpoAction) : Prop :=
  0 < s.fileCount → s.Active → s.days a = s.downloadDays

instance (s : EpoState) (history : List EpoEvent) (a : EpoAction) : Decidable (DaysKept s history a) := by
  unfold DaysKept EpoState.Active
  infer_instance

structure CountInvariant (type : EpoType) (s : EpoState) (history : List EpoEvent) : Prop where
  ordered : Always (RequestsInOrder type) [] history
  inside : s.fileCount < 10
  few : s.downloadDays ≤ 30
  count : ∀ before accepted, lastRequest history = some (before, accepted) →
    s.fileCount = if accepted then before + 1 else before
  last : s.Active → s.fileCount ≤ lastPiece s.downloadDays

theorem lastRequest_append (history events : List EpoEvent) :
    lastRequest (history ++ events) = events.foldl noteRequest (lastRequest history) :=
  List.foldl_append

/-- The loop goes on exactly before the last piece. -/
theorem epoPieces_more_iff {count days : Nat} (few : days ≤ 30) (inside : count ≤ lastPiece days) :
    (count + 1 < 10 ∧ count + 1 < epoPieces days) ↔ count < lastPiece days := by
  unfold epoPieces lastPiece at *
  split <;> omega

section Steps

variable {s next : EpoState} {a : EpoAction} {history out : List EpoEvent}

private theorem requested_ordered {days : Nat} {outcome : EpoDownload}
    (inv : CountInvariant type s history) (request : Requested pf type s days outcome next out) :
    Always (RequestsInOrder type) history out := by
  have asked : RequestsInOrder type history (.requested s.fileCount (pieceName type s.fileCount)) :=
    ⟨inv.inside, rfl, inv.count⟩
  cases request with
  | failed | changed | rejected =>
    exact always_cons.mpr ⟨asked, always_cons.mpr ⟨trivial, always_nil⟩⟩
  | accepted =>
    refine always_cons.mpr ⟨asked, always_cons.mpr ⟨?_, always_nil⟩⟩
    exact lastRequest_append history _
  | completed =>
    refine always_cons.mpr ⟨asked, always_cons.mpr ⟨?_, always_cons.mpr ⟨trivial, always_nil⟩⟩⟩
    exact lastRequest_append history _

private theorem days_le (inv : CountInvariant type s history) (a : EpoAction) : s.days a ≤ 30 := by
  cases a with
  | download days => exact Nat.le_of_lt_succ days.isLt
  | resume | trigger | downloadEpo | retryAlarm | updateDone => exact inv.few

/-- In a session, the counter has not passed the last piece. -/
private theorem count_le (inv : CountInvariant type s history) (kept : DaysKept s history a)
    (active : s.Active) :
    s.fileCount ≤ lastPiece (s.days a) := by
  rcases Nat.eq_zero_or_pos s.fileCount with zero | some
  · omega
  · rw [kept some active]
    exact inv.last active

private theorem requested_count (history : List EpoEvent) {days : Nat} {outcome : EpoDownload}
    (few : days ≤ 30) (bounded : s.fileCount ≤ lastPiece days) (inside : s.fileCount < 10)
    (request : Requested pf type s days outcome next out) :
    next.fileCount < 10 ∧ next.fileCount ≤ lastPiece days ∧
    ∀ before accepted, lastRequest (history ++ out) = some (before, accepted) →
      next.fileCount = if accepted then before + 1 else before := by
  have noted (events : List EpoEvent) :
      lastRequest (history ++ events) = events.foldl noteRequest (lastRequest history) :=
    lastRequest_append history events
  cases request with
  | failed unsent count =>
    refine ⟨by omega, by omega, fun before accepted last => ?_⟩
    rw [noted] at last
    cases last
    exact count
  | changed verdict count =>
    refine ⟨by omega, by omega, fun before accepted last => ?_⟩
    rw [noted] at last
    cases last
  | rejected verdict count =>
    refine ⟨by omega, by omega, fun before accepted last => ?_⟩
    rw [noted] at last
    cases last
    exact count
  | accepted verdict more count =>
    have below := (epoPieces_more_iff few bounded).mp more
    refine ⟨by omega, by omega, fun before accepted last => ?_⟩
    rw [noted] at last
    cases last
    exact count
  | completed verdict last count =>
    refine ⟨by omega, by omega, fun before accepted last => ?_⟩
    rw [noted] at last
    cases last

private theorem requested_completes {outcome : EpoDownload} (few : next.downloadDays ≤ 30)
    (bounded : s.fileCount ≤ lastPiece next.downloadDays)
    (request : Requested pf type s next.downloadDays outcome next out) :
    CompletesWithLast next out := by
  cases request with
  | failed | changed | rejected => exact ⟨by simp, by simp⟩
  | accepted verdict more =>
    have below := (epoPieces_more_iff few bounded).mp more
    exact ⟨by simp [below.ne'], by simp⟩
  | completed verdict last count updated failed =>
    have final : s.fileCount = lastPiece next.downloadDays := by
      have notBelow := (epoPieces_more_iff few bounded).not.mp last
      omega
    exact ⟨by simp [final], fun _ => ⟨count, updated, failed⟩⟩

private theorem kept_count (inv : CountInvariant type s history) (kept : DaysKept s history a)
    (stepped : (threadEpoFileUpdate pf type).step s a = some (next, out)) :
    CountInvariant type next (history ++ out) ∧ CompletesWithLast next out := by
  obtain ⟨days, step⟩ := threadEpoFileUpdate_step inv.inside stepped
  have few : next.downloadDays ≤ 30 := days ▸ days_le inv a
  generalize asked : s.request pf a = request at step
  rw [← days] at step
  cases step with
  | request requested =>
    have bounded := days ▸ count_le inv kept (EpoState.active_of_request asked)
    obtain ⟨inside, last, count⟩ := requested_count history few bounded inv.inside requested
    refine ⟨⟨always_append.mpr ⟨inv.ordered, requested_ordered inv requested⟩, inside, few, count, fun _ => last⟩, ?_⟩
    exact requested_completes few bounded requested
  | restart count shown =>
    have none : lastRequest (history ++ out) = none := by
      rw [lastRequest_append]
      rcases shown with rfl | rfl <;> rfl
    have ordered : Always (RequestsInOrder type) history out := by
      rcases shown with rfl | rfl <;> exact always_cons.mpr ⟨trivial, always_nil⟩
    refine ⟨⟨always_append.mpr ⟨inv.ordered, ordered⟩, by omega, few, ?_, fun _ => by omega⟩, ?_⟩
    · rw [none]
      nofun
    · rcases shown with rfl | rfl <;> exact ⟨by simp, by simp⟩
  | quiet count active =>
    rw [List.append_nil]
    refine ⟨⟨inv.ordered, count ▸ inv.inside, few, ?_, fun progress => ?_⟩, by simp, by simp⟩
    · rw [count]
      exact inv.count
    · rw [count, days]
      exact count_le inv kept (active progress)

end Steps

/-- In every run that keeps `gps_epo_download_days` during a session, each request is for a piece of the table and
in order, and each step completes the session exactly by the acceptance of its last piece. -/
theorem threadEpoFileUpdate_counts (pf : Platform F) (type : EpoType) {s t : EpoState} {tape : List EpoAction}
    {trace : List EpoEvent} (initial : s.Initial) (fixed : (threadEpoFileUpdate pf type).Permitted DaysKept s [] tape)
    (ran : (threadEpoFileUpdate pf type).run s tape = some (t, trace)) :
    Always (RequestsInOrder type) [] trace ∧
    ∀ a next out, DaysKept t trace a → (threadEpoFileUpdate pf type).step t a = some (next, out) →
      CompletesWithLast next out := by
  have start : CountInvariant type s [] := by
    have zero := initial.fileCount
    exact ⟨always_nil, by omega, initial.downloadDays, nofun, fun _ => by omega⟩
  have inv : CountInvariant type t trace := by
    have kept : ∀ s history a next out, CountInvariant type s history → DaysKept s history a →
        (threadEpoFileUpdate pf type).step s a = some (next, out) →
          CountInvariant type next (history ++ out) :=
      fun s history a next out inv kept stepped => (kept_count inv kept stepped).1
    simpa using System.run_invariant kept start fixed ran
  exact ⟨inv.ordered, fun a next out kept stepped => (kept_count inv kept stepped).2⟩

/-- A session of three pieces; the transfer of the second one fails, and is resumed. -/
def threePieces (days : Fin 31) : List EpoAction :=
  let online : EpoFlags := ⟨true, true, true, 0⟩
  let piece : EpoDownload := .done (List.replicate 72 0)
  [.downloadEpo false, .download days true piece, .resume online .failed, .trigger online false false 0,
    .download days true .failed, .resume online piece, .trigger online false false 0,
    .download days true .failed, .resume online piece]

theorem threadEpoFileUpdate_counts_three_pieces : ∃ t trace,
    (threadEpoFileUpdate (Platform.utc 64 (by decide)) .gpsOnly).run freshEpo (threePieces 7) = some (t, trace) ∧
    .completed ∈ trace ∧ (Always (RequestsInOrder .gpsOnly) [] trace ∧
      ∀ a next out, DaysKept t trace a →
        (threadEpoFileUpdate (Platform.utc 64 (by decide)) .gpsOnly).step t a = some (next, out) →
          CompletesWithLast next out) := by
  have runs : ((threadEpoFileUpdate (Platform.utc 64 (by decide)) .gpsOnly).run freshEpo (threePieces 7)).any
      (fun last => last.2.contains .completed) = true := by
    decide +kernel
  obtain ⟨⟨t, trace⟩, ran, completed⟩ := (Option.any_eq_true _ _).mp runs
  have fixed : (threadEpoFileUpdate (Platform.utc 64 (by decide)) .gpsOnly).Permitted DaysKept freshEpo []
      (threePieces 7) := by
    decide +kernel
  exact ⟨t, trace, ran, by simpa using completed, threadEpoFileUpdate_counts _ _ ⟨rfl, le_rfl, rfl⟩ fixed ran⟩

end Mt6582.Gps

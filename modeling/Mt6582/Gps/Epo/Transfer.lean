import Mt6582.Gps.Epo.GiveUp
import Mt6582.Gps.Epo.Merge
import Mt6582.Machine.Simulation

/-! # A session that starts during a transfer

`threadEpoFileUpdate` makes the transfer of a piece in one step. It takes its time, in which `mtk_gps_start` may request a
session and set the counter back. Here a piece is requested in one step and finished in another, with steps of other threads
in between. Undisturbed, the two are the one step. After the request of a session the piece under way is still stored under
the name it was requested by, but it is merged, checked and counted as the first piece of the new session.
-/

namespace Mt6582.Gps

open Machine

/-- What waits for a transfer: the first part of an iteration, or the second, which has remembered the counter. -/
inductive EpoTransfer where
  | download
  | resume (count : Nat)

structure EpoTransferState where
  thread : EpoState
  transfer : Option EpoTransfer

/-- The parts of an iteration that may request a piece, up to its transfer; the rest of such a part; any other step. -/
inductive EpoTransferAction where
  | download (days : Fin 31)
  | resume (flags : EpoFlags)
  | finish (started : Bool) (outcome : EpoDownload)
  | other (a : EpoAction)

/-- The step is none of the two parts that may request a piece. -/
def EpoAction.isOther : EpoAction → Bool
  | .download .. | .resume .. => false
  | _ => true

section Transfer

variable {F : Type} (pf : Platform F) (type : EpoType)

/-- A resumption requests the current piece: the data is not too old. -/
def ResumesPiece (s : EpoState) (flags : EpoFlags) : Prop :=
  Resumes s flags ∧ flags.timeUtc < (mtkGpsEpoFileTimeHal pf s.files).1 + secondsPerDay

instance (s : EpoState) (flags : EpoFlags) : Decidable (ResumesPiece pf s flags) :=
  inferInstanceAs (Decidable (_ ∧ _))

/-- The current piece is named and requested. -/
def askPiece (s : EpoState) : EpoState × List EpoEvent :=
  let named := { s with fileName := gpsDownloadEpoFileName type s.fileCount s.fileName }
  (named, [.requested s.fileCount named.fileName])

/-- The rest of a part, once the transfer is over. -/
def finishTransfer (s : EpoState) (started : Bool) (outcome : EpoDownload) : EpoTransfer → EpoState × List EpoEvent
  | .download =>
      let updated := mtkGpsEpoFileUpdate pf type s started outcome
      ({ (if updated.1.downloadFailed then { updated.1 with dataUpdated := false } else updated.1) with mode := .resume },
        updated.2)
  | .resume count =>
      let updated := mtkGpsEpoFileUpdate pf type s started outcome
      ({ countRetry count updated.1 with mode := .trigger }, updated.2)

/-- A part without a request is one step, as in `threadEpoFileUpdate`, and has no outcome to look at. -/
def threadEpoTransferStep (s : EpoTransferState) : EpoTransferAction → Option (EpoTransferState × List EpoEvent)
  | .download days =>
      if s.thread.mode = .top ∧ s.transfer.isNone then
        if s.thread.dataUpdated then
          let asked := askPiece type { s.thread with downloadDays := days, downloadFailed := false }
          some (⟨asked.1, some .download⟩, asked.2)
        else
          let next := downloadPart pf type s.thread days false .noUrl
          some (⟨{ next.1 with mode := .resume }, none⟩, next.2)
      else none
  | .resume flags =>
      if s.thread.mode = .resume ∧ s.transfer.isNone then
        if ResumesPiece pf s.thread flags then
          let asked := askPiece type { s.thread with fileRetrying := s.thread.retrying }
          some (⟨asked.1, some (.resume s.thread.fileCount)⟩, asked.2)
        else
          let next := resumePart pf type s.thread flags .noUrl
          some (⟨{ next.1 with mode := .trigger }, none⟩, next.2)
      else none
  | .finish started outcome =>
      s.transfer.map fun transfer =>
        let next := finishTransfer pf type s.thread started outcome transfer
        (⟨next.1, none⟩, next.2)
  | .other a =>
      if a.isOther then
        (threadEpoFileUpdateStep pf type s.thread a).map fun next => (⟨next.1, s.transfer⟩, next.2)
      else none

def threadEpoTransfer : System EpoTransferState EpoTransferAction EpoEvent := ⟨threadEpoTransferStep pf type⟩

/-- No transfer is under way. -/
def EpoState.idle (s : EpoState) : EpoTransferState := ⟨s, none⟩

end Transfer

section Refines

variable {F : Type} {pf : Platform F} {type : EpoType} {s : EpoState} {flags : EpoFlags}

theorem downloadPart_asks (pf : Platform F) (type : EpoType) (updated : s.dataUpdated = true) (days : Fin 31)
    (started : Bool) (outcome : EpoDownload) :
    let asked := askPiece type { s with downloadDays := days, downloadFailed := false }
    let finished := finishTransfer pf type asked.1 started outcome .download
    { (downloadPart pf type s days started outcome).1 with mode := .resume } = finished.1 ∧
      (downloadPart pf type s days started outcome).2 = asked.2 ++ finished.2 := by
  rw [show downloadPart pf type s days started outcome = _ from if_pos updated]
  exact ⟨rfl, rfl⟩

theorem resumePart_asks (type : EpoType) (asks : ResumesPiece pf s flags) (outcome : EpoDownload) :
    let asked := askPiece type { s with fileRetrying := s.retrying }
    let finished := finishTransfer pf type asked.1 flags.started outcome (.resume s.fileCount)
    { (resumePart pf type s flags outcome).1 with mode := .trigger } = finished.1 ∧
      (resumePart pf type s flags outcome).2 = asked.2 ++ finished.2 := by
  have young : ¬ (mtkGpsEpoFileTimeHal pf s.files).1 + secondsPerDay ≤ flags.timeUtc := not_le.mpr asks.2
  rw [show resumePart pf type s flags outcome = _ from if_pos asks.1]
  simp only [resumePiece, young, ↓reduceIte]
  exact ⟨rfl, rfl⟩

/-- A part that requests no piece has no use for an outcome. -/
theorem downloadPart_outcome (idle : s.dataUpdated = false) (days : Fin 31) (started : Bool) (outcome : EpoDownload) :
    downloadPart pf type s days started outcome = downloadPart pf type s days false .noUrl := by
  have without : ¬ s.dataUpdated = true := Bool.eq_false_iff.mp idle
  rw [show downloadPart pf type s days started outcome = _ from if_neg without,
    show downloadPart pf type s days false .noUrl = _ from if_neg without]

theorem resumePart_outcome (without : ¬ ResumesPiece pf s flags) (outcome : EpoDownload) :
    resumePart pf type s flags outcome = resumePart pf type s flags .noUrl := by
  by_cases resumes : Resumes s flags
  · have old : (mtkGpsEpoFileTimeHal pf s.files).1 + secondsPerDay ≤ flags.timeUtc :=
      not_lt.mp fun young => without ⟨resumes, young⟩
    simp only [resumePart, resumePiece, old, ↓reduceIte]
  · simp only [resumePart, resumes, ↓reduceIte]

/-- A request and, at once, the rest of its part. -/
private theorem run_finish {asked : EpoState × List EpoEvent} (transfer : EpoTransfer) (a : EpoTransferAction)
    (requests : (threadEpoTransfer pf type).step s.idle a = some (⟨asked.1, some transfer⟩, asked.2))
    (started : Bool) (outcome : EpoDownload) :
    (threadEpoTransfer pf type).run s.idle [a, .finish started outcome] =
      some ((finishTransfer pf type asked.1 started outcome transfer).1.idle,
        asked.2 ++ (finishTransfer pf type asked.1 started outcome transfer).2) := by
  refine System.run_cons_iff.mpr ⟨_, _, _, requests, System.run_cons_iff.mpr ⟨_, _, [], rfl, rfl, rfl⟩, ?_⟩
  rw [List.append_nil]

private theorem run_single {a : EpoTransferAction} {next : EpoState} {out : List EpoEvent}
    (stepped : (threadEpoTransfer pf type).step s.idle a = some (next.idle, out)) :
    (threadEpoTransfer pf type).run s.idle [a] = some (next.idle, out) :=
  System.run_cons_iff.mpr ⟨_, _, [], stepped, rfl, (List.append_nil _).symm⟩

private theorem other_step {a : EpoAction} {next : EpoState} {out : List EpoEvent} (other : a.isOther = true)
    (stepped : (threadEpoFileUpdate pf type).step s a = some (next, out)) :
    (threadEpoTransfer pf type).step s.idle (.other a) = some (next.idle, out) := by
  have moved : threadEpoFileUpdateStep pf type s a = some (next, out) := stepped
  simp only [threadEpoTransfer, threadEpoTransferStep, EpoState.idle, other, moved, ↓reduceIte, Option.map_some]

/-- A part of an iteration is its request and, at once, its transfer. -/
theorem threadEpoFileUpdate_simulates (pf : Platform F) (type : EpoType) :
    (threadEpoFileUpdate pf type).Simulates (threadEpoTransfer pf type) fun s t => t = s.idle := by
  rintro s _ a next out rfl stepped
  cases a with
  | download days started outcome =>
    simp only [threadEpoFileUpdate, threadEpoFileUpdateStep] at stepped
    split at stepped
    · next top =>
      cases stepped
      rcases Bool.eq_false_or_eq_true s.dataUpdated with updated | idle
      · obtain ⟨state, shown⟩ := downloadPart_asks pf type updated days started outcome
        rw [state, shown]
        refine ⟨_, _, run_finish .download (.download days) ?_ started outcome, rfl⟩
        simp [threadEpoTransfer, threadEpoTransferStep, EpoState.idle, top, updated]
      · rw [downloadPart_outcome idle]
        refine ⟨_, _, run_single (a := .download days) ?_, rfl⟩
        simp [threadEpoTransfer, threadEpoTransferStep, EpoState.idle, top, idle]
    · cases stepped
  | resume flags outcome =>
    simp only [threadEpoFileUpdate, threadEpoFileUpdateStep] at stepped
    split at stepped
    · next mode =>
      cases stepped
      by_cases asks : ResumesPiece pf s flags
      · obtain ⟨state, shown⟩ := resumePart_asks type asks outcome
        rw [state, shown]
        refine ⟨_, _, run_finish (.resume s.fileCount) (.resume flags) ?_ flags.started outcome, rfl⟩
        simp [threadEpoTransfer, threadEpoTransferStep, EpoState.idle, mode, asks]
      · rw [resumePart_outcome asks]
        refine ⟨_, _, run_single (a := .resume flags) ?_, rfl⟩
        simp [threadEpoTransfer, threadEpoTransferStep, EpoState.idle, mode, asks]
    · cases stepped
  | trigger | downloadEpo | retryAlarm | updateDone =>
    exact ⟨_, _, run_single (other_step rfl stepped), rfl⟩

/-- Every run of `threadEpoFileUpdate` is one in which the transfers are undisturbed. -/
theorem threadEpoFileUpdate_run {t : EpoState} {tape : List EpoAction} {trace : List EpoEvent}
    (ran : (threadEpoFileUpdate pf type).run s tape = some (t, trace)) :
    ∃ tape', (threadEpoTransfer pf type).run s.idle tape' = some (t.idle, trace) := by
  obtain ⟨tape', _, ran, rfl⟩ := (threadEpoFileUpdate_simulates pf type).run rfl ran
  exact ⟨tape', ran⟩

end Refines

section Steps

variable {F : Type} {pf : Platform F} {type : EpoType}

/-- What one more event makes of the last request. -/
def noteRestart (last : Option (Nat × Bool)) (e : EpoEvent) : Option (Nat × Bool) :=
  match e with
  | .requested index _ => some (index, false)
  | e => if e.restarts then last.map fun request => (request.1, true) else last

/-- The piece last requested, and whether the session has been restarted since. -/
def openRequest (history : List EpoEvent) : Option (Nat × Bool) := history.foldl noteRestart none

theorem openRequest_append (history events : List EpoEvent) :
    openRequest (history ++ events) = events.foldl noteRestart (openRequest history) :=
  List.foldl_append

/-- The number a requested piece has when its transfer is over. -/
def pieceNumber (request : Nat × Bool) : Nat := if request.2 then 0 else request.1

/-- A piece is accepted under the number it was requested by, or as the first of a session that was started since. -/
def AcceptsRequested (history : List EpoEvent) : EpoEvent → Prop
  | .accepted index _ => ∃ request, openRequest history = some request ∧ index = pieceNumber request
  | _ => True

/-- The state of the thread while it waits for a requested piece. -/
structure AwaitsPiece (type : EpoType) (s : EpoState) (request : Nat × Bool) : Prop where
  inside : request.1 < 10
  named : s.fileName = pieceName type request.1
  count : s.fileCount = pieceNumber request

/-- The outcome of the transfer that the action ends. -/
def EpoTransferAction.outcome : EpoTransferAction → Option EpoDownload
  | .finish _ outcome => some outcome
  | _ => none

/-- Everything a step can do: request the current piece, finish its transfer, or what a step without a request does. -/
inductive TransferStep (pf : Platform F) (type : EpoType) (s : EpoTransferState) : Option EpoDownload → EpoTransferState →
    List EpoEvent → Prop
  | asked {next : EpoState} {transfer : EpoTransfer} (waits : AwaitsPiece type next (s.thread.fileCount, false))
      (files : next.files = s.thread.files) : TransferStep pf type s none ⟨next, some transfer⟩
        [.requested s.thread.fileCount (pieceName type s.thread.fileCount)]
  -- The counter is read again at the end of the transfer: `Requested` is about the state there.
  | finished {next : EpoState} {out : List EpoEvent} {transfer : EpoTransfer} {days : Nat} {outcome : EpoDownload}
      (current : s.transfer = some transfer) (requested : Requested pf type s.thread days outcome next
        (.requested s.thread.fileCount (pieceName type s.thread.fileCount) :: out)) :
      TransferStep pf type s (some outcome) ⟨next, none⟩ out
  | other {next : EpoState} {out : List EpoEvent} {days : Nat}
      (named : ∀ transfer, s.transfer = some transfer → next.fileName = s.thread.fileName)
      (step : EpoStep pf type s.thread days none next out) : TransferStep pf type s none ⟨next, s.transfer⟩ out

variable {s next : EpoTransferState} {a : EpoTransferAction} {history out : List EpoEvent}

private theorem askPiece_waits {named : EpoState} (inside : named.fileCount < 10) :
    AwaitsPiece type (askPiece type named).1 (named.fileCount, false) :=
  ⟨inside, gpsDownloadEpoFileName_eq inside _, rfl⟩

private theorem askPiece_shown {named : EpoState} (inside : named.fileCount < 10) :
    (askPiece type named).2 = [.requested named.fileCount (pieceName type named.fileCount)] := by
  rw [askPiece, gpsDownloadEpoFileName_eq inside]

private theorem finishTransfer_requested {thread : EpoState} {request : Nat × Bool} (waits : AwaitsPiece type thread request)
    (started : Bool) (outcome : EpoDownload) (transfer : EpoTransfer) :
    Requested pf type thread thread.downloadDays outcome (finishTransfer pf type thread started outcome transfer).1
      (.requested thread.fileCount (pieceName type thread.fileCount) ::
        (finishTransfer pf type thread started outcome transfer).2) := by
  have current : thread.fileCount = request.1 ∨ thread.fileCount = 0 := by
    rw [waits.count, pieceNumber]
    split
    · exact .inr rfl
    · exact .inl rfl
  have updated := mtkGpsEpoFileUpdate_requested pf type waits.inside waits.named current started outcome
  cases transfer with
  | download =>
    rw [finishTransfer]
    dsimp only
    split
    · exact updated.transport rfl rfl rfl rfl (fun _ => rfl) id
    · exact updated.transport rfl rfl rfl rfl id id
  | resume count =>
    obtain ⟨same, files, idle, -, clear⟩ :=
      countRetry_frame count (mtkGpsEpoFileUpdate pf type thread started outcome).1
    exact updated.transport rfl rfl same files (fun stopped => idle.trans stopped) clear

/-- Other threads, and the third part of an iteration, leave the file name alone. -/
private theorem fileName_kept {thread moved : EpoState} {a : EpoAction} (other : a.isOther = true)
    (stepped : threadEpoFileUpdateStep pf type thread a = some (moved, out)) : moved.fileName = thread.fileName := by
  cases a with
  | download | resume => cases other
  | trigger =>
    simp only [threadEpoFileUpdateStep, triggerPart] at stepped
    split_ifs at stepped <;> cases stepped <;> rfl
  | downloadEpo expired =>
    cases stepped
    cases expired <;> rfl
  | retryAlarm =>
    cases stepped
    rfl
  | updateDone =>
    cases stepped
    split <;> rfl

theorem threadEpoTransfer_step (inside : s.thread.fileCount < 10)
    (waits : ∀ transfer, s.transfer = some transfer → ∃ request, AwaitsPiece type s.thread request)
    (stepped : (threadEpoTransfer pf type).step s a = some (next, out)) : TransferStep pf type s a.outcome next out := by
  obtain ⟨thread, transfer⟩ := s
  cases a with
  | download days =>
    simp only [threadEpoTransfer, threadEpoTransferStep] at stepped
    split_ifs at stepped with ready updated
    · cases stepped
      rw [askPiece_shown (by exact inside)]
      exact .asked (askPiece_waits (by exact inside)) rfl
    · cases stepped
      obtain ⟨top, still⟩ := ready
      obtain rfl := Option.isNone_iff_eq_none.mp still
      have whole : (threadEpoFileUpdate pf type).step thread (.download days false .noUrl) = some (_, _) := if_pos top
      have step := (threadEpoFileUpdate_step inside whole).2
      rw [show thread.request pf (.download days false .noUrl) = _ from if_neg updated] at step
      exact .other nofun step
  | resume flags =>
    simp only [threadEpoTransfer, threadEpoTransferStep] at stepped
    split_ifs at stepped with ready asks
    · cases stepped
      rw [askPiece_shown (by exact inside)]
      exact .asked (askPiece_waits (by exact inside)) rfl
    · cases stepped
      obtain ⟨mode, still⟩ := ready
      obtain rfl := Option.isNone_iff_eq_none.mp still
      have whole : (threadEpoFileUpdate pf type).step thread (.resume flags .noUrl) = some (_, _) := if_pos mode
      have step := (threadEpoFileUpdate_step inside whole).2
      rw [show thread.request pf (.resume flags .noUrl) = _ from if_neg asks] at step
      exact .other nofun step
  | finish started outcome =>
    obtain ⟨current, same, moved⟩ := Option.map_eq_some_iff.mp stepped
    cases moved
    obtain ⟨request, waiting⟩ := waits current same
    exact .finished same (finishTransfer_requested waiting started outcome current)
  | other a =>
    simp only [threadEpoTransfer, threadEpoTransferStep] at stepped
    split_ifs at stepped with other
    obtain ⟨⟨moved, shown⟩, same, moves⟩ := Option.map_eq_some_iff.mp stepped
    cases moves
    have step := (threadEpoFileUpdate_step inside (show (threadEpoFileUpdate pf type).step thread a = _ from same)).2
    have without : thread.request pf a = none := by cases a <;> first | rfl | cases other
    rw [without] at step
    exact .other (fun _ _ => fileName_kept other same) step

end Steps

section Runs

variable {F : Type} {pf : Platform F} {type : EpoType} {s next : EpoTransferState} {a : EpoTransferAction}
  {history out : List EpoEvent} {outcome : Option EpoDownload}

structure TransferInvariant (type : EpoType) (s : EpoTransferState) (history : List EpoEvent) : Prop where
  inside : s.thread.fileCount < 10
  waits : ∀ transfer, s.transfer = some transfer →
    ∃ request, openRequest history = some request ∧ AwaitsPiece type s.thread request
  accepts : Always AcceptsRequested [] history

theorem TransferInvariant.kept (inv : TransferInvariant type s history)
    (step : TransferStep pf type s outcome next out) : TransferInvariant type next (history ++ out) := by
  have accepted (good : Always AcceptsRequested history out) : Always AcceptsRequested [] (history ++ out) :=
    always_append.mpr ⟨inv.accepts, good⟩
  cases step with
  | asked waits =>
    refine ⟨by rw [waits.count]; exact inv.inside, fun _ _ => ⟨_, openRequest_append history _, waits⟩, ?_⟩
    exact accepted (always_cons.mpr ⟨trivial, always_nil⟩)
  | finished current requested =>
    obtain ⟨request, last, waits⟩ := inv.waits _ current
    have taken (contents : List Byte) : AcceptsRequested history (.accepted s.thread.fileCount contents) :=
      ⟨request, last, waits.count⟩
    refine ⟨requested.inside inv.inside, nofun, ?_⟩
    apply accepted
    cases requested with
    | failed | changed | rejected => exact always_cons.mpr ⟨trivial, always_nil⟩
    | accepted => exact always_cons.mpr ⟨taken _, always_nil⟩
    | completed => exact always_cons.mpr ⟨taken _, always_cons.mpr ⟨trivial, always_nil⟩⟩
  | other named step =>
    cases step with
    | restart count shown =>
      have restarted (request : Nat × Bool) (last : openRequest history = some request) :
          openRequest (history ++ out) = some (request.1, true) := by
        rw [openRequest_append, last]
        rcases shown with rfl | rfl <;> rfl
      refine ⟨by rw [count]; decide, fun transfer current => ?_, accepted ?_⟩
      · obtain ⟨request, last, waits⟩ := inv.waits transfer current
        exact ⟨_, restarted request last, waits.inside, (named transfer current).trans waits.named, count⟩
      · rcases shown with rfl | rfl <;> exact always_cons.mpr ⟨trivial, always_nil⟩
    | quiet count =>
      rw [List.append_nil]
      refine ⟨by rw [count]; exact inv.inside, fun transfer current => ?_, inv.accepts⟩
      obtain ⟨request, last, waits⟩ := inv.waits transfer current
      exact ⟨request, last, waits.inside, (named transfer current).trans waits.named, count.trans waits.count⟩

theorem TransferInvariant.step (inv : TransferInvariant type s history)
    (stepped : (threadEpoTransfer pf type).step s a = some (next, out)) : TransferStep pf type s a.outcome next out := by
  apply threadEpoTransfer_step inv.inside _ stepped
  intro transfer current
  obtain ⟨request, -, waits⟩ := inv.waits transfer current
  exact ⟨request, waits⟩

theorem transferInvariant_initial {thread : EpoState} (initial : thread.Initial) : TransferInvariant type thread.idle [] :=
  ⟨by rw [EpoState.idle, initial.fileCount]; decide, nofun, always_nil⟩

/-- Whatever happens during the transfers, a piece is accepted under the number it was requested by, or as the first piece
of a session that started during its transfer. -/
theorem threadEpoTransfer_accepts {thread : EpoState} {t : EpoTransferState} {tape : List EpoTransferAction}
    {trace : List EpoEvent} (initial : thread.Initial)
    (ran : (threadEpoTransfer pf type).run thread.idle tape = some (t, trace)) : Always AcceptsRequested [] trace :=
  (System.run_invariant_of_step (fun _ _ _ _ _ inv stepped => inv.kept (inv.step stepped))
    (transferInvariant_initial initial) ran).accepts

def offlineFlags : EpoFlags := ⟨false, false, false, 0⟩

/-- A session that starts during the transfer of the second piece takes it for its first. -/
example : ((threadEpoTransfer (Platform.utc 64 (by decide)) .gpsOnly).run freshEpo.idle
    [.other (.downloadEpo false), .download 30, .finish false (.done (List.replicate 72 0)), .resume offlineFlags,
      .other (.trigger offlineFlags false false 0), .download 30, .other (.downloadEpo false),
      .finish false (.done (List.replicate 72 0))]).map (fun last => last.2.filterMap fun e =>
        match e with
        | .requested index _ => some (index, false)
        | .accepted index _ => some (index, true)
        | _ => none) = some [(0, false), (0, true), (1, false), (0, true)] := by
  decide +kernel

/-- Not the end of the transfer of a piece with contents, past the first one, that fails the check while the server's data
is not changed. -/
def TransferSound (pf : Platform F) (type : EpoType) (s : EpoTransferState) (_ : List EpoEvent) (a : EpoTransferAction) :
    Prop :=
  ∀ contents, a.outcome = some (.done contents) → 0 < s.thread.fileCount → contents ≠ [] →
    s.thread.verdict pf type contents ≠ .rejected

/-- The merged file depends on the history by its accepted pieces. -/
theorem MergeInvariant.congr {thread : EpoState} {other : List EpoEvent} (inv : MergeInvariant thread history)
    (same : sessionPieces other = sessionPieces history) : MergeInvariant thread other :=
  ⟨inv.count, by rw [same]; exact inv.indices, by rw [same]; exact inv.hal⟩

theorem MergeInvariant.transferred (inv : MergeInvariant s.thread history)
    (sound : ∀ contents, outcome = some (.done contents) → 0 < s.thread.fileCount → contents ≠ [] →
      s.thread.verdict pf type contents ≠ .rejected)
    (step : TransferStep pf type s outcome next out) : MergeInvariant next.thread (history ++ out) := by
  cases step with
  | @asked asking _ waits files =>
    have count : asking.fileCount = s.thread.fileCount := waits.count
    have kept : MergeInvariant asking history :=
      ⟨by rw [count]; exact inv.count, by rw [count]; exact inv.indices, by rw [count, files]; exact inv.hal⟩
    exact kept.congr (sessionPieces_append history _)
  | finished current requested =>
    have merged := inv.requested (fun contents same => sound contents (by rw [same])) requested
    exact merged.congr (by rw [sessionPieces_append, sessionPieces_append]; rfl)
  | other named step => exact inv.kept (fun _ requested => by cases requested) step

/-- The merged file keeps to the accepted pieces of the session when sessions start during transfers, provided that no
piece past the first one that has contents fails its check without a change on the server. -/
theorem threadEpoTransfer_merged {thread : EpoState} {t : EpoTransferState} {tape : List EpoTransferAction}
    {trace : List EpoEvent} (initial : thread.Initial)
    (sound : (threadEpoTransfer pf type).Permitted (TransferSound pf type) thread.idle [] tape)
    (ran : (threadEpoTransfer pf type).run thread.idle tape = some (t, trace)) : EpoMerged t.thread trace := by
  have start : TransferInvariant type thread.idle [] ∧ MergeInvariant thread.idle.thread [] :=
    ⟨transferInvariant_initial initial, mergeInvariant_initial initial⟩
  have kept (s : EpoTransferState) (history : List EpoEvent) (a : EpoTransferAction) (next : EpoTransferState)
      (out : List EpoEvent) (inv : TransferInvariant type s history ∧ MergeInvariant s.thread history)
      (sound : TransferSound pf type s history a) (stepped : (threadEpoTransfer pf type).step s a = some (next, out)) :
      TransferInvariant type next (history ++ out) ∧ MergeInvariant next.thread (history ++ out) :=
    ⟨inv.1.kept (inv.1.step stepped), inv.2.transferred sound (inv.1.step stepped)⟩
  have merged := (System.run_invariant kept start sound ran).2
  exact fun _ some => ⟨merged.indices, merged.hal some⟩

end Runs

end Mt6582.Gps

import Mt6582.Gps.Epo.Update

/-! # What a step of the EPO thread can do

A step requests the current piece, restarts the session, or leaves the session alone. `Requested` lists the
outcomes of a request with what each of them does to the counter and to `EPOHAL.DAT`; both results about the
thread are read off from it.
-/

namespace Mt6582.Gps

open Machine

variable {F : Type} {pf : Platform F} {type : EpoType}

/-- `EPOHAL.DAT` after a piece has been appended to it. -/
def EpoState.merged (s : EpoState) (contents : List Byte) : List Byte :=
  if s.fileCount = 0 then contents else (s.files epoFileHal).getD [] ++ contents

/-- The verdict on a piece in a state: its start against the end of the piece before it. -/
def EpoState.verdict (pf : Platform F) (type : EpoType) (s : EpoState) (contents : List Byte) : EpoVerdict :=
  let start := pieceTime (mtkGpsEpoPieceDataStart pf) (some contents)
  epoVerdict start (if 0 < s.fileCount then
    pieceTime (mtkGpsEpoPieceDataEnd pf) (s.files (piecePath type (s.fileCount - 1))) else (start.1, false))

/-- The outcomes of a request for the current piece. -/
inductive Requested (pf : Platform F) (type : EpoType) (s : EpoState) (days : Nat) : EpoDownload → EpoState →
    List EpoEvent → Prop
  | failed {outcome : EpoDownload} {next : EpoState} (unsent : ∀ contents, outcome ≠ .done contents)
      (count : next.fileCount = s.fileCount) (hal : next.files epoFileHal = s.files epoFileHal) :
      Requested pf type s days outcome next [.requested s.fileCount (pieceName type s.fileCount), .failed]
  | changed {contents : List Byte} {next : EpoState} (verdict : s.verdict pf type contents = .changed)
      (count : next.fileCount = 0) :
      Requested pf type s days (.done contents) next [.requested s.fileCount (pieceName type s.fileCount), .changed]
  | rejected {contents : List Byte} {next : EpoState} (verdict : s.verdict pf type contents = .rejected)
      (count : next.fileCount = s.fileCount) (hal : next.files epoFileHal = some (s.merged contents)) :
      Requested pf type s days (.done contents) next [.requested s.fileCount (pieceName type s.fileCount), .rejected]
  | accepted {contents : List Byte} {next : EpoState} (verdict : s.verdict pf type contents = .accepted)
      (more : s.fileCount + 1 < 10 ∧ s.fileCount + 1 < epoPieces days) (count : next.fileCount = s.fileCount + 1)
      (hal : next.files epoFileHal = some (s.merged contents)) :
      Requested pf type s days (.done contents) next
        [.requested s.fileCount (pieceName type s.fileCount), .accepted s.fileCount contents]
  | completed {contents : List Byte} {next : EpoState} (verdict : s.verdict pf type contents = .accepted)
      (last : ¬ (s.fileCount + 1 < 10 ∧ s.fileCount + 1 < epoPieces days)) (count : next.fileCount = 0)
      (updated : next.dataUpdated = false) (failed : next.downloadFailed = false) :
      Requested pf type s days (.done contents) next
        [.requested s.fileCount (pieceName type s.fileCount), .accepted s.fileCount contents, .completed]

section Request

variable {s : EpoState}

private theorem fileUpdateHal_hal {name : String} (named : s.fileName = name)
    (apart : gpsDir ++ name ≠ epoFileHal) (contents : List Byte) :
    (mtkGpsEpoFileUpdateHal s (.done contents)).files epoFileHal = some (s.merged contents) := by
  subst named
  simp only [mtkGpsEpoFileUpdateHal, FileStore.append, FileStore.unlink, EpoState.merged,
    Function.update_self]
  split <;> simp [apart, apart.symm]

private theorem fileUpdateHal_piece {name : String} (named : s.fileName = name)
    (apart : gpsDir ++ name ≠ epoFileHal) (contents : List Byte) :
    (mtkGpsEpoFileUpdateHal s (.done contents)).files (gpsDir ++ name) = some contents := by
  subst named
  simp only [mtkGpsEpoFileUpdateHal, FileStore.append, FileStore.unlink]
  split <;> simp [apart]

private theorem fileUpdateHal_other {name path : String} (named : s.fileName = name)
    (notPiece : path ≠ gpsDir ++ name) (notHal : path ≠ epoFileHal) (contents : List Byte) :
    (mtkGpsEpoFileUpdateHal s (.done contents)).files path = s.files path := by
  subst named
  simp only [mtkGpsEpoFileUpdateHal, FileStore.append, FileStore.unlink]
  split <;> simp [notPiece, notHal]

/-- The check of a stored piece: a changed server resets the counter, otherwise only the name and the failure
flag move. -/
private theorem serverDataIsChanged_spec (pf : Platform F) (type : EpoType) {contents : List Byte}
    (inside : s.fileCount < 10) (piece : s.files (gpsDir ++ s.fileName) = some contents) :
    (mtkGpsEpoServerDataIsChanged pf type s).2 = s.verdict pf type contents ∧
    (s.verdict pf type contents = .changed → (mtkGpsEpoServerDataIsChanged pf type s).1.fileCount = 0) ∧
    (s.verdict pf type contents ≠ .changed → ∃ fileName failed,
      (mtkGpsEpoServerDataIsChanged pf type s).1 = { s with fileName := fileName, downloadFailed := failed }) := by
  have prior : (if 0 < s.fileCount then pieceTime (mtkGpsEpoPieceDataEnd pf) (s.files (gpsDir ++
      if 0 < s.fileCount then gpsDownloadEpoFileName type (s.fileCount - 1) s.fileName else s.fileName))
        else ((pieceTime (mtkGpsEpoPieceDataStart pf) (some contents)).1, false)) =
      if 0 < s.fileCount then pieceTime (mtkGpsEpoPieceDataEnd pf) (s.files (piecePath type (s.fileCount - 1)))
        else ((pieceTime (mtkGpsEpoPieceDataStart pf) (some contents)).1, false) := by
    split
    · rw [gpsDownloadEpoFileName_eq (by omega), piecePath]
    · rfl
  have same : epoVerdict _ _ = s.verdict pf type contents := rfl
  simp only [mtkGpsEpoServerDataIsChanged, piece, prior, same]
  cases s.verdict pf type contents with
  | changed => exact ⟨rfl, fun _ => rfl, fun other => absurd rfl other⟩
  | rejected => exact ⟨rfl, nofun, fun _ => ⟨_, _, rfl⟩⟩
  | accepted => exact ⟨rfl, nofun, fun _ => ⟨_, _, rfl⟩⟩

/-- The verdict does not depend on what the transfer has written. -/
private theorem verdict_fileUpdateHal {index : Nat} (inside : index < 10)
    (named : s.fileName = pieceName type index) (current : s.fileCount = index ∨ s.fileCount = 0)
    (contents : List Byte) :
    (mtkGpsEpoFileUpdateHal s (.done contents)).verdict pf type contents =
      s.verdict pf type contents := by
  have count : (mtkGpsEpoFileUpdateHal s (.done contents)).fileCount = s.fileCount := rfl
  unfold EpoState.verdict
  simp only [count]
  split
  · have apart : piecePath type (s.fileCount - 1) ≠ piecePath type index :=
      piecePath_injective (by omega) inside (by omega)
    rw [fileUpdateHal_other named apart (piecePath_ne_epoFileHal (by omega))]
  · rfl

/-- What follows a transfer. The piece was requested at the counter, or the session has been restarted since. -/
theorem mtkGpsEpoFileUpdate_requested (pf : Platform F) (type : EpoType) {index : Nat} (inside : index < 10)
    (named : s.fileName = pieceName type index) (current : s.fileCount = index ∨ s.fileCount = 0)
    (started : Bool) (outcome : EpoDownload) :
    Requested pf type s s.downloadDays outcome (mtkGpsEpoFileUpdate pf type s started outcome).1
      (.requested s.fileCount (pieceName type s.fileCount) :: (mtkGpsEpoFileUpdate pf type s started outcome).2) := by
  have apart :
      gpsDir ++ s.fileName ≠ epoFileHal := by rw [named]; exact piecePath_ne_epoFileHal inside
  cases outcome with
  | noUrl => exact .failed nofun rfl rfl
  | failed =>
    have hal : s.files.unlink (gpsDir ++ s.fileName) epoFileHal = s.files epoFileHal :=
      Function.update_of_ne apart.symm ..
    exact .failed nofun rfl hal
  | done contents =>
    have spec :=
      serverDataIsChanged_spec pf type (s := mtkGpsEpoFileUpdateHal s (.done contents))
      (show s.fileCount < 10 by omega) (fileUpdateHal_piece rfl apart contents)
    rw [verdict_fileUpdateHal inside named current] at spec
    obtain ⟨found, changed, unchanged⟩ := spec
    have hal := fileUpdateHal_hal rfl apart contents
    have count : (mtkGpsEpoFileUpdateHal s (.done contents)).fileCount = s.fileCount := rfl
    have days : (mtkGpsEpoFileUpdateHal s (.done contents)).downloadDays = s.downloadDays := rfl
    simp only [mtkGpsEpoFileUpdate, checkPiece]
    generalize mtkGpsEpoFileUpdateHal s (.done contents) =
      merged at found changed unchanged hal count days ⊢
    generalize mtkGpsEpoServerDataIsChanged pf type merged = check at found changed unchanged ⊢
    obtain ⟨checked, verdict⟩ := check
    dsimp only at found changed unchanged ⊢
    subst found
    cases found : s.verdict pf type contents with
    | changed => exact .changed found (changed found)
    | rejected =>
      obtain ⟨fileName, failed, rfl⟩ := unchanged (by rw [found]; nofun)
      exact .rejected found count hal
    | accepted =>
      obtain ⟨fileName, failed, rfl⟩ := unchanged (by rw [found]; nofun)
      dsimp only [acceptPiece]
      rw [count, days]
      split
      · next more => exact .accepted found more rfl hal
      · next last => exact .completed found last rfl rfl rfl

theorem Requested.inside {next : EpoState} {days : Nat} {outcome : EpoDownload} {out : List EpoEvent}
    (request : Requested pf type s days outcome next out) (inside : s.fileCount < 10) : next.fileCount < 10 := by
  cases request with
  | failed _ count => omega
  | changed _ count => omega
  | rejected _ count => omega
  | accepted _ more count => omega
  | completed _ _ count => omega

/-- Only the counter and the files of the state before, and the counter, `EPOHAL.DAT` and the flags of a completed
session after the request matter. -/
theorem Requested.transport {r next next' : EpoState} {days : Nat} {outcome : EpoDownload}
    {out : List EpoEvent} (request : Requested pf type r days outcome next out)
    (count : r.fileCount = s.fileCount) (files : r.files = s.files)
    (count' : next'.fileCount = next.fileCount) (files' : next'.files = next.files)
    (updated : next.dataUpdated = false → next'.dataUpdated = false)
    (failed : next.downloadFailed = false → next'.downloadFailed = false) :
    Requested pf type s days outcome next' out := by
  have verdict (contents : List Byte) :
      r.verdict pf type contents = s.verdict pf type contents := by
    simp only [EpoState.verdict, count, files]
  have merged (contents : List Byte) :
      r.merged contents = s.merged contents := by simp only [EpoState.merged, count, files]
  cases request with
  | failed unsent same hal =>
    rw [count]
    exact .failed unsent (count'.trans (same.trans count)) (by rw [files', hal, files])
  | changed found zero =>
    rw [count]
    exact .changed (by rw [← verdict, found]) (count'.trans zero)
  | rejected found same hal =>
    rw [count]
    exact .rejected (by rw [← verdict, found]) (count'.trans (same.trans count))
      (by rw [files', hal, merged])
  | accepted found more one hal =>
    rw [count] at more one ⊢
    exact .accepted (by rw [← verdict, found]) more (count'.trans one) (by rw [files', hal, merged])
  | completed found last zero idle clear =>
    rw [count] at last ⊢
    exact .completed (by rw [← verdict, found]) last (count'.trans zero) (updated idle)
      (failed clear)

/-- Every request has one of the listed outcomes. -/
theorem requestPiece_requested (inside : s.fileCount < 10) (started : Bool)
    (outcome : EpoDownload) :
    Requested pf type s s.downloadDays outcome (requestPiece pf type s started outcome).1
      (requestPiece pf type s started outcome).2 := by
  have name : gpsDownloadEpoFileName type s.fileCount s.fileName = pieceName type s.fileCount :=
    gpsDownloadEpoFileName_eq inside s.fileName
  simp only [requestPiece, name]
  have request :=
    mtkGpsEpoFileUpdate_requested pf type (s := { s with fileName := pieceName type s.fileCount }) inside rfl
    (.inl rfl) started outcome
  exact request.transport rfl rfl rfl rfl id id

theorem requestPiece_downloadDays (started : Bool) (outcome : EpoDownload) :
    (requestPiece pf type s started outcome).1.downloadDays = s.downloadDays := by
  cases outcome with
  | noUrl => rfl
  | failed => rfl
  | done contents =>
    simp only [requestPiece, mtkGpsEpoFileUpdate, checkPiece, mtkGpsEpoServerDataIsChanged]
    generalize epoVerdict _ _ = verdict
    cases verdict with
    | changed => rfl
    | rejected => rfl
    | accepted =>
      dsimp only [acceptPiece]
      split <;> rfl

end Request

section Steps

variable {s next : EpoState} {a : EpoAction} {out : List EpoEvent}

/-- The outcome of the request that the action makes in a state, if it makes one. -/
def EpoState.request (pf : Platform F) (s : EpoState) : EpoAction → Option EpoDownload
  | .download _ _ outcome => if s.dataUpdated then some outcome else none
  | .resume flags outcome =>
      if Resumes s flags ∧ flags.timeUtc < (mtkGpsEpoFileTimeHal pf s.files).1 + secondsPerDay then some outcome else none
  | _ => none

/-- `gps_epo_download_days` during the action. -/
def EpoState.days (s : EpoState) : EpoAction → Nat
  | .download days _ _ => days
  | _ => s.downloadDays

/-- Counting a retry leaves the session alone, except that it may drop the failure flag. -/
theorem countRetry_frame (count : Nat) (s : EpoState) :
    (countRetry count s).fileCount = s.fileCount ∧ (countRetry count s).files = s.files ∧
    (countRetry count s).dataUpdated = s.dataUpdated ∧
      (countRetry count s).downloadDays = s.downloadDays ∧
    (s.downloadFailed = false → (countRetry count s).downloadFailed = false) := by
  by_cases again :
    s.fileRetrying = s.fileCount <;> simp only [countRetry, again,
    ↓reduceIte] <;> split_ifs <;> simp

/-- A session is in progress: requested, or failed and not given up. -/
def EpoState.Active (s : EpoState) : Prop := s.dataUpdated = true ∨ s.downloadFailed = true

theorem EpoState.active_of_request {outcome : EpoDownload} (asked : s.request pf a = some outcome) :
    s.Active := by
  cases a with
  | download days started outcome =>
    simp only [EpoState.request] at asked
    split_ifs at asked with updated
    exact .inl updated
  | resume flags outcome =>
    simp only [EpoState.request] at asked
    split_ifs at asked with resumes
    have both := resumes.1
    simp only [Resumes, Bool.and_eq_true] at both
    exact .inr both.1.2
  | trigger | downloadEpo | retryAlarm | updateDone => cases asked

/-- Everything a step can do: request the current piece, restart the session, or leave it alone. -/
inductive EpoStep (pf : Platform F) (type : EpoType) (s : EpoState) (days : Nat) : Option EpoDownload → EpoState →
    List EpoEvent → Prop
  | request {outcome : EpoDownload} {next : EpoState} {out : List EpoEvent}
      (requested : Requested pf type s days outcome next out) : EpoStep pf type s days (some outcome) next out
  | restart {next : EpoState} {out : List EpoEvent} (count : next.fileCount = 0)
      (shown : out = [.session] ∨ out = [.expired]) : EpoStep pf type s days none next out
  | quiet {next : EpoState} (count : next.fileCount = s.fileCount) (active : next.Active → s.Active)
      (hal : 0 < s.fileCount → next.files epoFileHal = s.files epoFileHal) : EpoStep pf type s days none next []

private theorem downloadPart_step (inside : s.fileCount < 10) (days : Fin 31) (started : Bool)
    (outcome : EpoDownload) :
    (downloadPart pf type s days started outcome).1.downloadDays = days ∧
    EpoStep pf type s days (s.request pf (.download days started outcome))
      { (downloadPart pf type s days started outcome).1 with mode := .resume }
      (downloadPart pf type s days started outcome).2 := by
  rcases Bool.eq_false_or_eq_true s.dataUpdated with updated | idle
  · generalize current :
      ({ s with downloadDays := days.val, downloadFailed := false } : EpoState) = r
    have same : r.fileCount = s.fileCount ∧ r.files = s.files ∧ r.downloadDays = days := by
      rw [← current]
      exact ⟨rfl, rfl, rfl⟩
    have request : Requested pf type r _ outcome _ _ :=
      requestPiece_requested (by omega) started outcome
    have fixed : (requestPiece pf type r started outcome).1.downloadDays = r.downloadDays :=
      requestPiece_downloadDays started outcome
    rw [show downloadPart pf type s days started outcome = _ from if_pos updated,
      show s.request pf (.download days started outcome) = _ from if_pos updated]
    dsimp only
    rw [current]
    rw [same.2.2] at request fixed
    split_ifs
    · exact ⟨fixed, .request (request.transport same.1 same.2.1 rfl rfl (fun _ => rfl) id)⟩
    · exact ⟨fixed, .request (request.transport same.1 same.2.1 rfl rfl id id)⟩
  · have still : ¬ s.dataUpdated = true := by rw [idle]; nofun
    rw [show downloadPart pf type s days started outcome = _ from if_neg still,
      show s.request pf (.download days started outcome) = _ from if_neg still]
    exact ⟨rfl, .quiet rfl id fun _ => rfl⟩

private theorem resumePiece_step (inside : s.fileCount < 10) (flags : EpoFlags)
    (outcome : EpoDownload) :
    (resumePiece pf type s flags outcome).1.downloadDays = s.downloadDays ∧
    EpoStep pf type s s.downloadDays
      (if flags.timeUtc < (mtkGpsEpoFileTimeHal pf s.files).1 + secondsPerDay then some outcome else none)
      (resumePiece pf type s flags outcome).1 (resumePiece pf type s flags outcome).2 := by
  rw [resumePiece]
  split_ifs with fresh old
  · omega
  · exact ⟨rfl, .restart rfl (.inr rfl)⟩
  · exact ⟨requestPiece_downloadDays _ _, .request (requestPiece_requested inside _ _)⟩
  · omega

/-- Only the counter and the files matter, and nothing that counting a retry or moving on changes. -/
private theorem EpoStep.transport {r next next' : EpoState} {days : Nat}
    {request : Option EpoDownload} {out : List EpoEvent}
    (step : EpoStep pf type r days request next out) (count : r.fileCount = s.fileCount)
    (files : r.files = s.files) (active : r.Active → s.Active)
    (count' : next'.fileCount = next.fileCount) (files' : next'.files = next.files)
    (updated : next.dataUpdated = false → next'.dataUpdated = false)
    (failed : next.downloadFailed = false → next'.downloadFailed = false) :
    EpoStep pf type s days request next' out := by
  cases step with
  | request requested =>
    exact .request (requested.transport count files count' files' updated failed)
  | restart zero shown => exact .restart (count'.trans zero) shown
  | quiet same progress hal =>
    refine .quiet (count'.trans (same.trans count)) ?_ fun some => ?_
    · rintro (begun | missing)
      · exact active
          (progress (.inl (by_contra fun idle => by simp [updated (by simpa using idle)] at begun)))
      · exact active
          (progress (.inr (by_contra fun fine => by simp [failed (by simpa using fine)] at missing)))
    · rw [files', hal (by omega), files]

private theorem resumePart_step (inside : s.fileCount < 10) (flags : EpoFlags)
    (outcome : EpoDownload) :
    (resumePart pf type s flags outcome).1.downloadDays = s.downloadDays ∧
    EpoStep pf type s s.downloadDays (s.request pf (.resume flags outcome))
      { (resumePart pf type s flags outcome).1 with mode := .trigger } (resumePart pf type s flags outcome).2 := by
  by_cases resumes : Resumes s flags
  · generalize current : ({ s with
      fileRetrying := if s.fileRetrying = firstRestore then s.fileCount else s.fileRetrying } : EpoState) = r
    have same : r.fileCount = s.fileCount ∧ r.files = s.files ∧
        r.downloadDays = s.downloadDays := by
      rw [← current]
      exact ⟨rfl, rfl, rfl⟩
    have active : r.Active → s.Active := by
      rw [← current]
      exact id
    have resumed : _ ∧ EpoStep pf type r _ _ _ _ := resumePiece_step (by omega) flags outcome
    rw [show resumePart pf type s flags outcome = _ from if_pos resumes]
    simp only [EpoState.request, resumes, true_and]
    rw [current]
    rw [same.2.1, same.2.2] at resumed
    obtain ⟨count, files, updated, days, failed⟩ :=
      countRetry_frame s.fileCount (resumePiece pf type r flags outcome).1
    refine ⟨days.trans resumed.1, ?_⟩
    exact resumed.2.transport same.1 same.2.1 active count files (fun idle => updated.trans idle) failed
  · rw [show resumePart pf type s flags outcome = _ from if_neg resumes,
      show s.request pf (.resume flags outcome) = _ from if_neg fun both => resumes both.1]
    exact ⟨rfl, .quiet rfl id fun _ => rfl⟩

theorem threadEpoFileUpdate_step (inside : s.fileCount < 10)
    (stepped : (threadEpoFileUpdate pf type).step s a = some (next, out)) :
    next.downloadDays = s.days a ∧ EpoStep pf type s (s.days a) (s.request pf a) next out := by
  cases a with
  | download days started outcome =>
    simp only [threadEpoFileUpdate, threadEpoFileUpdateStep] at stepped
    split_ifs at stepped
    cases stepped
    exact downloadPart_step inside days started outcome
  | resume flags outcome =>
    simp only [threadEpoFileUpdate, threadEpoFileUpdateStep] at stepped
    split_ifs at stepped
    cases stepped
    exact resumePart_step inside flags outcome
  | trigger flags wifiTrigger enable wifiEpoPeriod =>
    simp only [threadEpoFileUpdate, threadEpoFileUpdateStep, triggerPart] at stepped
    split_ifs at stepped
    · cases stepped
      exact ⟨rfl, .restart rfl (.inl rfl)⟩
    · cases stepped
      exact ⟨rfl, .quiet rfl id fun _ => rfl⟩
  | downloadEpo expired =>
    cases stepped
    refine ⟨?_, .restart rfl (.inl rfl)⟩
    cases expired <;> rfl
  | retryAlarm =>
    cases stepped
    exact ⟨rfl, .quiet rfl id fun _ => rfl⟩
  | updateDone =>
    cases stepped
    split_ifs with idle
    · exact ⟨rfl, .quiet rfl id fun some => absurd idle.2 some.ne'⟩
    · exact ⟨rfl, .quiet rfl id fun _ => rfl⟩

end Steps

end Mt6582.Gps

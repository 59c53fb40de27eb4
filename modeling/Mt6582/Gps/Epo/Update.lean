import Mathlib.Tactic.IntervalCases
import Mt6582.Gps.Epo.Time
import Mt6582.Machine.System

/-! # The EPO thread: downloading and merging the pieces

`thread_epo_file_update` as a labelled system. An iteration of the loop has three parts, which read the flags
of the other threads at different times: the download of a requested session, the resumption of a failed one,
and the request of a new one over Wi-Fi. Each part is a step, its transfer included, which `Transfer` divides.
Between them the framework may request a session, the retry timer may fire, and the daemon may report that it
has taken over the data. File operations succeed. The MD5 file and `counter` only shape the URL of a piece,
whose download has an arbitrary outcome.
-/

namespace Mt6582.Gps

open Machine

/-- `gps_epo_type` -/
inductive EpoType where
  | gpsGlonass | gpsOnly
deriving DecidableEq, Repr

/-- Where the loop stands: before the first part of an iteration, or before its second or third. -/
inductive EpoMode where
  | top | resume | trigger
deriving DecidableEq, Repr

/-- What becomes of a request for a piece: no URL, a failed transfer, or a transfer of some contents. -/
inductive EpoDownload where
  | noUrl
  | failed
  | done (contents : List Byte)
deriving DecidableEq, Repr

structure EpoState where
  files : FileStore
  fileName : String
  fileCount : Nat
  downloadDays : Nat
  downloadFailed : Bool
  dataUpdated : Bool
  downloadRetry : Bool
  fileRetrying : Nat
  retryTime : Nat
  mode : EpoMode

/-- What is seen of the thread: the piece that is requested and its file name, what became of it, and the
restarts of a session. -/
inductive EpoEvent where
  | requested (index : Nat) (name : String)
  | failed
  | accepted (index : Nat) (contents : List Byte)
  | rejected
  | changed
  | expired
  | completed
  | session
deriving DecidableEq, Repr

/-- The event ends the current sequence of pieces. -/
def EpoEvent.restarts : EpoEvent → Bool
  | .changed | .expired | .completed | .session => true
  | _ => false

/-- The flags of other threads that the second and third part of an iteration look at. -/
structure EpoFlags where
  started : Bool
  wifi : Bool
  connected : Bool
  timeUtc : Nat

/-- The three parts of an iteration (`days` is `gps_epo_download_days` as `gps_download_epo_enable` leaves it),
then the steps of other threads. -/
inductive EpoAction where
  | download (days : Fin 31) (started : Bool) (outcome : EpoDownload)
  | resume (flags : EpoFlags) (outcome : EpoDownload)
  | trigger (flags : EpoFlags) (wifiTrigger enable : Bool) (wifiEpoPeriod : Int)
  | downloadEpo (expired : Bool)
  | retryAlarm
  | updateDone

/-- The file name of a piece; an index outside of the table keeps the name. -/
def gpsDownloadEpoFileName (type : EpoType) (count : Nat) (fileName : String) : String :=
  match type, count with
  | .gpsOnly, 0 => "EPO_GPS_3_1.DAT"
  | .gpsOnly, 1 => "EPO_GPS_3_2.DAT"
  | .gpsOnly, 2 => "EPO_GPS_3_3.DAT"
  | .gpsOnly, 3 => "EPO_GPS_3_4.DAT"
  | .gpsOnly, 4 => "EPO_GPS_3_5.DAT"
  | .gpsOnly, 5 => "EPO_GPS_3_6.DAT"
  | .gpsOnly, 6 => "EPO_GPS_3_7.DAT"
  | .gpsOnly, 7 => "EPO_GPS_3_8.DAT"
  | .gpsOnly, 8 => "EPO_GPS_3_9.DAT"
  | .gpsOnly, 9 => "EPO_GPS_3_10.DAT"
  | .gpsGlonass, 0 => "EPO_GR_3_1.DAT"
  | .gpsGlonass, 1 => "EPO_GR_3_2.DAT"
  | .gpsGlonass, 2 => "EPO_GR_3_3.DAT"
  | .gpsGlonass, 3 => "EPO_GR_3_4.DAT"
  | .gpsGlonass, 4 => "EPO_GR_3_5.DAT"
  | .gpsGlonass, 5 => "EPO_GR_3_6.DAT"
  | .gpsGlonass, 6 => "EPO_GR_3_7.DAT"
  | .gpsGlonass, 7 => "EPO_GR_3_8.DAT"
  | .gpsGlonass, 8 => "EPO_GR_3_9.DAT"
  | .gpsGlonass, 9 => "EPO_GR_3_10.DAT"
  | _, _ => fileName

section Pieces

variable {F : Type} (pf : Platform F) (type : EpoType)

/-- `mtk_gps_epo_file_update_hal` around `curl_easy_download_epo`: the piece is stored and appended to
`EPOHAL.DAT`, which the first piece starts afresh. -/
def mtkGpsEpoFileUpdateHal (s : EpoState) : EpoDownload → EpoState
  | .noUrl => { s with downloadFailed := true }
  | .failed => { s with files := s.files.unlink (gpsDir ++ s.fileName), downloadFailed := true }
  | .done contents =>
      let stored : FileStore := Function.update s.files (gpsDir ++ s.fileName) (some contents)
      let fresh := if s.fileCount = 0 then stored.unlink epoFileHal else stored
      { s with files := fresh.append epoFileHal ((fresh (gpsDir ++ s.fileName)).getD []) }

/-- The time read from a piece, and whether reading it failed; a missing file is only logged. -/
def pieceTime (read : List Byte → Option Int) : Option (List Byte) → Int × Bool
  | none => (0, false)
  | some contents =>
      match read contents with
      | some time => (time, false)
      | none => (0, true)

/-- The outcome of the check of a piece. -/
inductive EpoVerdict where
  | accepted | rejected | changed
deriving DecidableEq, Repr

def epoVerdict (start last : Int × Bool) : EpoVerdict :=
  if secondsPerDay ≤ start.1 - last.1 then .changed else if start.2 || last.2 then .rejected else .accepted

/-- The pieces from an index down to the first are unlinked; the file name is left at the first. -/
def unlinkPieces : Nat → FileStore × String → FileStore × String
  | 0, (files, name) =>
      let name := gpsDownloadEpoFileName type 0 name
      (files.unlink (gpsDir ++ name), name)
  | i + 1, (files, name) =>
      let name := gpsDownloadEpoFileName type (i + 1) name
      unlinkPieces i (files.unlink (gpsDir ++ name), name)

/-- The start of the piece just stored is compared with the end of the piece before it. -/
def mtkGpsEpoServerDataIsChanged (s : EpoState) : EpoState × EpoVerdict :=
  let start := pieceTime (mtkGpsEpoPieceDataStart pf) (s.files (gpsDir ++ s.fileName))
  let fileName := if 0 < s.fileCount then gpsDownloadEpoFileName type (s.fileCount - 1) s.fileName else s.fileName
  let last := if 0 < s.fileCount then pieceTime (mtkGpsEpoPieceDataEnd pf) (s.files (gpsDir ++ fileName))
    else (start.1, false)
  let failed := s.downloadFailed || start.2 || last.2
  match epoVerdict start last with
  | .changed =>
      let left := unlinkPieces type s.fileCount (s.files, fileName)
      ({ s with files := left.1.unlink epoFileHal, fileName := left.2, fileCount := 0, downloadFailed := failed }, .changed)
  | verdict => ({ s with fileName := fileName, downloadFailed := failed }, verdict)

/-- The number of pieces for a number of days. -/
def epoPieces (days : Nat) : Nat := days / 3 + if days % 3 > 0 then 1 else 0

/-- The pieces below a number are unlinked, from the first on. -/
def unlinkBelow (count : Nat) (files : FileStore × String) : FileStore × String :=
  (List.range count).foldl (fun (files, name) i =>
    let name := gpsDownloadEpoFileName type i name
    (files.unlink (gpsDir ++ name), name)) files

/-- The last piece is in: the pieces are unlinked, and a running daemon is told. -/
def completeSession (s : EpoState) (started : Bool) : EpoState :=
  let left := unlinkBelow type (epoPieces s.downloadDays) (s.files, s.fileName)
  { s with
    files := if started then left.1.unlink epoFile else left.1, fileName := left.2, dataUpdated := false, fileCount := 0,
    downloadFailed := false }

/-- What follows the acceptance of a piece. -/
def acceptPiece (s : EpoState) (started : Bool) (contents : List Byte) : EpoState × List EpoEvent :=
  if s.fileCount + 1 < 10 ∧ s.fileCount + 1 < epoPieces s.downloadDays then
    ({ s with fileCount := s.fileCount + 1 }, [.accepted s.fileCount contents])
  else (completeSession type { s with fileCount := s.fileCount + 1 } started, [.accepted s.fileCount contents, .completed])

/-- What follows a successful transfer: the check, and the count of an accepted piece. -/
def checkPiece (s : EpoState) (started : Bool) (contents : List Byte) : EpoState × List EpoEvent :=
  let checked := mtkGpsEpoServerDataIsChanged pf type s
  match checked.2 with
  | .changed => (checked.1, [.changed])
  | .rejected => (checked.1, [.rejected])
  | .accepted => acceptPiece type checked.1 started contents

/-- A failed transfer ends the update; otherwise the piece is checked. -/
def mtkGpsEpoFileUpdate (s : EpoState) (started : Bool) (outcome : EpoDownload) : EpoState × List EpoEvent :=
  let merged := mtkGpsEpoFileUpdateHal s outcome
  match outcome with
  | .done contents => checkPiece pf type merged started contents
  | .noUrl => (merged, [.failed])
  | .failed => (merged, [.failed])

/-- The current piece is named and requested. -/
def requestPiece (s : EpoState) (started : Bool) (outcome : EpoDownload) : EpoState × List EpoEvent :=
  let named := { s with fileName := gpsDownloadEpoFileName type s.fileCount s.fileName }
  let updated := mtkGpsEpoFileUpdate pf type named started outcome
  (updated.1, .requested s.fileCount named.fileName :: updated.2)

end Pieces

/-- `gps_download_epo` -/
def gpsDownloadEpo (s : EpoState) : EpoState := { s with dataUpdated := true, fileCount := 0 }

section Thread

variable {F : Type} (pf : Platform F) (type : EpoType)

/-- The first part of an iteration: the next piece of a requested session. -/
def downloadPart (s : EpoState) (days : Fin 31) (started : Bool) (outcome : EpoDownload) : EpoState × List EpoEvent :=
  let s := { s with downloadDays := days }
  if s.dataUpdated then
    let updated := requestPiece pf type { s with downloadFailed := false } started outcome
    (if updated.1.downloadFailed then { updated.1 with dataUpdated := false } else updated.1, updated.2)
  else (s, [])

/-- The value of `file_retrying` before the first resumption. -/
def firstRestore : Nat := 50

/-- A resumption that has not moved on from `count`: the next one waits for the timer, and after ten of them in
a row the session is given up. -/
def countRetry (count : Nat) (s : EpoState) : EpoState :=
  if count = s.fileCount then
    let counted := if s.fileRetrying = s.fileCount then { s with retryTime := s.retryTime + 1 }
      else { s with fileRetrying := s.fileCount, retryTime := 0 }
    if counted.retryTime < 10 then { counted with downloadRetry := false }
    else { counted with downloadFailed := false, retryTime := 0, fileRetrying := firstRestore }
  else s

/-- EPO data older than a day is not resumed but replaced. -/
def resumePiece (s : EpoState) (flags : EpoFlags) (outcome : EpoDownload) : EpoState × List EpoEvent :=
  if (mtkGpsEpoFileTimeHal pf s.files).1 + secondsPerDay ≤ flags.timeUtc then
    ({ s with downloadFailed := false, fileCount := 0, dataUpdated := true, files := s.files.unlink epoFileHal }, [.expired])
  else requestPiece pf type s flags.started outcome

/-- The second part of an iteration resumes a failed session. -/
def Resumes (s : EpoState) (flags : EpoFlags) : Prop :=
  (flags.started || flags.wifi) && flags.connected && s.downloadFailed && s.downloadRetry

instance (s : EpoState) (flags : EpoFlags) : Decidable (Resumes s flags) := inferInstanceAs (Decidable (_ = true))

/-- The second part of an iteration. -/
def resumePart (s : EpoState) (flags : EpoFlags) (outcome : EpoDownload) : EpoState × List EpoEvent :=
  if Resumes s flags then
    let s := { s with fileRetrying := if s.fileRetrying = firstRestore then s.fileCount else s.fileRetrying }
    let resumed := resumePiece pf type s flags outcome
    (countRetry s.fileCount resumed.1, resumed.2)
  else (s, [])

/-- The third part of an iteration: over Wi-Fi, expired data starts a session. -/
def triggerPart (s : EpoState) (flags : EpoFlags) (wifiTrigger enable : Bool) (wifiEpoPeriod : Int) :
    EpoState × List EpoEvent :=
  if s.dataUpdated = false ∧ wifiTrigger ∧ enable ∧ s.downloadFailed = false ∧ flags.connected ∧ flags.wifi ∧
      epoExpired pf true 0 wifiEpoPeriod flags.timeUtc s.files then
    let s := gpsDownloadEpo { s with fileCount := 0 }
    ({ s with files := s.files.unlink epoFileHal }, [.session])
  else (s, [])

def threadEpoFileUpdateStep (s : EpoState) : EpoAction → Option (EpoState × List EpoEvent)
  | .download days started outcome =>
      if s.mode = .top then
        let next := downloadPart pf type s days started outcome
        some ({ next.1 with mode := .resume }, next.2)
      else none
  | .resume flags outcome =>
      if s.mode = .resume then
        let next := resumePart pf type s flags outcome
        some ({ next.1 with mode := .trigger }, next.2)
      else none
  | .trigger flags wifiTrigger enable wifiEpoPeriod =>
      if s.mode = .trigger then
        let next := triggerPart pf s flags wifiTrigger enable wifiEpoPeriod
        some ({ next.1 with mode := .top }, next.2)
      else none
  | .downloadEpo expired =>
      some (gpsDownloadEpo (if expired then { s with files := s.files.unlink epoFileHal } else s), [.session])
  | .retryAlarm => some ({ s with downloadRetry := true }, [])
  | .updateDone =>
      some (if s.downloadFailed = false ∧ s.fileCount = 0 then { s with files := s.files.unlink epoFileHal } else s, [])

def threadEpoFileUpdate : System EpoState EpoAction EpoEvent := ⟨threadEpoFileUpdateStep pf type⟩

/-- The thread's variables at the start of the process; the files are whatever they are. -/
structure EpoState.Initial (s : EpoState) : Prop where
  fileCount : s.fileCount = 0
  downloadDays : s.downloadDays ≤ 30
  mode : s.mode = .top

/-- A fresh process without files. -/
def freshEpo : EpoState := ⟨fun _ => none, "", 0, 30, false, false, true, firstRestore, 0, .top⟩

end Thread

section Names

/-- The file name of a piece. -/
def pieceName : EpoType → Nat → String
  | .gpsOnly, index => "EPO_GPS_3_" ++ toString (index + 1) ++ ".DAT"
  | .gpsGlonass, index => "EPO_GR_3_" ++ toString (index + 1) ++ ".DAT"

def piecePath (type : EpoType) (index : Nat) : String := gpsDir ++ pieceName type index

variable {type : EpoType} {count other : Nat}

theorem gpsDownloadEpoFileName_eq (inside : count < 10) (fileName : String) :
    gpsDownloadEpoFileName type count fileName = pieceName type count := by
  cases type <;> interval_cases count <;> exact of_decide_eq_true rfl

theorem piecePath_ne_epoFileHal (inside : count < 10) : piecePath type count ≠ epoFileHal := by
  have all : ∀ index : Fin 10, piecePath type index ≠ epoFileHal := by cases type <;> decide
  exact all ⟨count, inside⟩

theorem piecePath_injective (inside : count < 10) (otherInside : other < 10)
    (different : count ≠ other) :
    piecePath type count ≠ piecePath type other := by
  have all :
      ∀ index second : Fin 10, index ≠ second → piecePath type index ≠ piecePath type second := by
    cases type <;> decide
  exact all ⟨count, inside⟩ ⟨other, otherInside⟩ (by simpa using different)

end Names

end Mt6582.Gps

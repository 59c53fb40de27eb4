import Mt6582.Gps.Epo.Steps

/-! # The merged EPO file

A piece is appended to `EPOHAL.DAT` before it is checked. When the check then fails without finding the server's
data changed, the counter stays where it is and the piece's bytes stay in the file; the next piece is appended
behind them. Without such a piece the file is the concatenation of the accepted pieces of the session.
-/

namespace Mt6582.Gps

open Machine

variable {F : Type} {pf : Platform F} {type : EpoType}

/-- The accepted pieces of the current session after one more event. -/
def addPiece (pieces : List (Nat × List Byte)) (e : EpoEvent) : List (Nat × List Byte) :=
  match e with
  | .accepted index contents => pieces ++ [(index, contents)]
  | e => if e.restarts then [] else pieces

/-- The accepted pieces of the current session, in order. -/
def sessionPieces (history : List EpoEvent) : List (Nat × List Byte) := history.foldl addPiece []

/-- Between iterations, a positive counter counts the accepted pieces of the session, which are numbered from
zero on, and `EPOHAL.DAT` is their concatenation. -/
def EpoMerged (s : EpoState) (history : List EpoEvent) : Prop :=
  s.mode = .top → 0 < s.fileCount → (sessionPieces history).map Prod.fst = List.range s.fileCount ∧
    s.files epoFileHal = some ((sessionPieces history).flatMap Prod.snd)

/-- Not a piece with contents, past the first one, that fails the check while the server's data is not changed. -/
def PieceSound (pf : Platform F) (type : EpoType) (s : EpoState) (_ : List EpoEvent) (a : EpoAction) : Prop :=
  ∀ contents, s.request pf a = some (.done contents) → 0 < s.fileCount → contents ≠ [] →
    s.verdict pf type contents ≠ .rejected

structure MergeInvariant (s : EpoState) (history : List EpoEvent) : Prop where
  count : s.fileCount < 10
  indices : (sessionPieces history).map Prod.fst = List.range s.fileCount
  hal : 0 < s.fileCount → s.files epoFileHal = some ((sessionPieces history).flatMap Prod.snd)

theorem sessionPieces_append (history events : List EpoEvent) :
    sessionPieces (history ++ events) = events.foldl addPiece (sessionPieces history) :=
  List.foldl_append

section Steps

variable {s next : EpoState} {a : EpoAction} {history out : List EpoEvent}

/-- The pieces and a piece appended to them make the merged file. -/
private theorem merged_eq (inv : MergeInvariant s history) (contents : List Byte) :
    s.merged contents = (sessionPieces history ++ [(s.fileCount, contents)]).flatMap Prod.snd := by
  rw [List.flatMap_append, EpoState.merged]
  split
  · next zero =>
    have none : sessionPieces history = [] := by simpa [zero] using inv.indices
    simp [none]
  · next some => simp [inv.hal (Nat.pos_of_ne_zero some)]

theorem MergeInvariant.requested {days : Nat} {outcome : EpoDownload} (inv : MergeInvariant s history)
    (sound : ∀ contents, outcome = .done contents → 0 < s.fileCount → contents ≠ [] → s.verdict pf type contents ≠ .rejected)
    (request : Requested pf type s days outcome next out) :
    MergeInvariant next (history ++ out) := by
  cases request with
  | failed unsent count hal =>
    refine ⟨count ▸ inv.count, ?_, ?_⟩ <;> rw [sessionPieces_append, count]
    · exact inv.indices
    · rw [hal]
      exact inv.hal
  | changed verdict count =>
    refine ⟨by omega, ?_, fun some => absurd count some.ne'⟩
    rw [sessionPieces_append, count]
    rfl
  | @rejected contents next verdict count hal =>
    refine ⟨count ▸ inv.count, ?_, ?_⟩ <;> rw [sessionPieces_append, count]
    · exact inv.indices
    · intro some
      have empty : contents = [] := by
        by_contra bytes
        exact sound contents rfl some bytes verdict
      rw [hal, merged_eq inv, empty]
      simp [addPiece, EpoEvent.restarts]
  | accepted verdict more count hal =>
    refine ⟨by omega, ?_, ?_⟩ <;> rw [sessionPieces_append]
    · simp [addPiece, EpoEvent.restarts, inv.indices, count, List.range_succ]
    · intro some
      rw [hal, merged_eq inv]
      rfl
  | completed verdict last count =>
    refine ⟨by omega, ?_, fun some => absurd count some.ne'⟩
    rw [sessionPieces_append, count]
    rfl

theorem MergeInvariant.kept {days : Nat} {request : Option EpoDownload} (inv : MergeInvariant s history)
    (sound : ∀ contents, request = some (.done contents) → 0 < s.fileCount → contents ≠ [] →
      s.verdict pf type contents ≠ .rejected)
    (step : EpoStep pf type s days request next out) : MergeInvariant next (history ++ out) := by
  cases step with
  | request requested =>
    exact inv.requested (fun contents same => sound contents (by rw [same])) requested
  | restart count shown =>
    refine ⟨by omega, ?_, fun some => absurd count some.ne'⟩
    rw [sessionPieces_append, count]
    rcases shown with rfl | rfl <;> rfl
  | quiet count active hal =>
    rw [List.append_nil]
    refine ⟨count ▸ inv.count, count ▸ inv.indices, fun some => ?_⟩
    rw [count] at some
    rw [hal some]
    exact inv.hal some

/-- The rest of an iteration without a network. -/
private theorem reach_top (pf : Platform F) (type : EpoType) (s : EpoState) :
    ∃ more, (threadEpoFileUpdate pf type).run s more = some ({ s with mode := .top }, []) := by
  have trigger (s : EpoState) (mode : s.mode = .trigger) : (threadEpoFileUpdate pf type).run s
      [.trigger ⟨false, false, false, 0⟩ false false 0] = some ({ s with mode := .top }, []) := by
    simp [System.run, threadEpoFileUpdate, threadEpoFileUpdateStep, triggerPart, mode]
  have resume (mode : s.mode = .resume) : (threadEpoFileUpdate pf type).run s
      [.resume ⟨false, false, false, 0⟩ .noUrl] = some ({ s with mode := .trigger }, []) := by
    simp [System.run, threadEpoFileUpdate, threadEpoFileUpdateStep, resumePart, Resumes, mode]
  cases mode : s.mode with
  | top => exact ⟨[], by rw [← mode]; rfl⟩
  | resume => exact ⟨_, System.run_append (resume mode) (trigger _ rfl)⟩
  | trigger => exact ⟨_, trigger s mode⟩

private theorem merged_broken (inv : MergeInvariant s history)
    (stepped : (threadEpoFileUpdate pf type).step s a = some (next, out))
    (unsound : ¬ PieceSound pf type s history a) :
    ∃ more u later, (threadEpoFileUpdate pf type).run next more = some (u, later) ∧
      ¬ EpoMerged u (history ++ out ++ later) := by
  simp only [PieceSound, not_forall, not_not] at unsound
  obtain ⟨contents, asked, some, bytes, verdict⟩ := unsound
  obtain ⟨-, step⟩ := threadEpoFileUpdate_step inv.count stepped
  rw [asked] at step
  obtain ⟨more, ran⟩ := reach_top pf type next
  refine ⟨more, _, _, ran, fun merged => ?_⟩
  cases step with
  | request requested =>
    cases requested with
    | failed unsent => exact unsent contents rfl
    | changed other => rw [verdict] at other; cases other
    | accepted other => rw [verdict] at other; cases other
    | completed other => rw [verdict] at other; cases other
    | rejected same count hal =>
      have whole := (merged rfl (show 0 < next.fileCount by omega)).2
      rw [List.append_nil, sessionPieces_append, show next.files epoFileHal = _ from hal,
        merged_eq inv] at whole
      simp [addPiece, EpoEvent.restarts, bytes] at whole

end Steps

theorem mergeInvariant_initial {s : EpoState} (initial : s.Initial) : MergeInvariant s [] :=
  ⟨by rw [initial.fileCount]; decide, by rw [initial.fileCount]; rfl, by rw [initial.fileCount]; nofun⟩

/-- Between the iterations of every run, `EPOHAL.DAT` is the concatenation of the accepted pieces of the session,
provided that no piece past the first one that has contents fails its check without a change on the server.
Such a piece has a continuation that leaves its bytes in the file. -/
theorem threadEpoFileUpdate_merged_decided (pf : Platform F) (type : EpoType) {s : EpoState} (initial : s.Initial) :
    (threadEpoFileUpdate pf type).Decides (PieceSound pf type) EpoMerged s := by
  refine System.decides_of_invariant MergeInvariant ?_ ?_ ?_ ?_
  · exact fun s history inv _ some => ⟨inv.indices, inv.hal some⟩
  · exact fun s history a next out inv sound stepped => inv.kept sound (threadEpoFileUpdate_step inv.count stepped).2
  · exact fun s history a next out inv stepped unsound => merged_broken inv stepped unsound
  · exact mergeInvariant_initial initial

theorem threadEpoFileUpdate_merged_decided_fresh : freshEpo.Initial ∧
    (threadEpoFileUpdate (Platform.utc 64 (by decide)) .gpsOnly).Decides
      (PieceSound (Platform.utc 64 (by decide)) .gpsOnly) EpoMerged freshEpo :=
  ⟨⟨rfl, le_rfl, rfl⟩, threadEpoFileUpdate_merged_decided _ _ ⟨rfl, le_rfl, rfl⟩⟩

/-- One iteration without a network after its download. -/
def offlineIteration (contents : List Byte) : List EpoAction :=
  [.download 30 false (.done contents), .resume ⟨false, false, false, 0⟩ .noUrl,
    .trigger ⟨false, false, false, 0⟩ false false 0]

/-- A second piece of one byte is rejected and stays in the merged file. -/
theorem threadEpoFileUpdate_keeps_rejected : ¬ ∀ tape t trace,
    (threadEpoFileUpdate (Platform.utc 64 (by decide)) .gpsOnly).run freshEpo tape = some (t, trace) →
      EpoMerged t trace := by
  intro merged
  have ran : ((threadEpoFileUpdate (Platform.utc 64 (by decide)) .gpsOnly).run freshEpo
      (.downloadEpo false :: (offlineIteration (List.replicate 72 0) ++ offlineIteration [1]))).map
        (fun last => (last.1.mode, last.1.fileCount, last.1.files epoFileHal, (sessionPieces last.2).flatMap Prod.snd)) =
      some (.top, 1, some (List.replicate 72 0 ++ [1]), List.replicate 72 0) := by decide +kernel
  obtain ⟨⟨t, trace⟩, run, shown⟩ := Option.map_eq_some_iff.mp ran
  simp only [Prod.mk.injEq] at shown
  obtain ⟨top, count, hal, pieces⟩ := shown
  have whole := (merged _ t trace run top (by omega)).2
  rw [hal, pieces] at whole
  exact absurd whole (by decide)

end Mt6582.Gps

import Mathlib.Algebra.BigOperators.Group.Finset.Basic
import Mathlib.Algebra.Order.BigOperators.Group.Finset
import Mathlib.Data.Fintype.Basic
import Mt6582.Gps.SyncLock
import Mt6582.Machine.Simulation

/-! # The condition lock with its signals

The statements of `get_condition` and `release_condition`, now with the threads blocked on the condition
variable `con`: a signal unblocks one of them, whichever, if there is one, and further ones may wake up
unasked. Seen from its callers the lock is atomic. No wake-up is lost: once no thread in the lock can move,
the threads left in it wait for a flag that is clear.
-/

namespace Mt6582.Gps

open Machine

/-- The lock and the threads blocked on its condition variable. -/
structure CondLock (τ : Type*) where
  lock : SyncLock τ
  con : List τ

/-- `signal` is the statement of a release that unblocks a thread; `spurious` is a wake-up without one. -/
inductive CondAction (τ : Type*) where
  | getCondition (t : τ)
  | releaseCondition (t : τ)
  | statement (t : τ)
  | signal (t : τ) (unblocked : Option τ)
  | spurious (t : τ)
deriving DecidableEq, Repr

/-- The calls, and what the lock shows of them. -/
inductive CondEvent (τ : Type*) where
  | getCalled (t : τ)
  | releaseCalled (t : τ)
  | sync (e : SyncEvent τ)
deriving DecidableEq, Repr

namespace CondLock

variable {τ : Type*} [DecidableEq τ]

def initial : CondLock τ := ⟨.initial, []⟩

/-- A call or statement of the lock alone, after which `con` is as given. -/
def along (s : CondLock τ) (a : SyncAction τ) (con : List τ) (called : List (CondEvent τ)) :
    Option (CondLock τ × List (CondEvent τ)) :=
  (s.lock.step a).map fun next => (⟨next.1, con⟩, called ++ next.2.map .sync)

def step (s : CondLock τ) : CondAction τ → Option (CondLock τ × List (CondEvent τ))
  | .getCondition t => s.along (.getCondition t) s.con [.getCalled t]
  | .releaseCondition t => s.along (.releaseCondition t) s.con [.releaseCalled t]
  | .statement t =>
      if s.lock.phase t = .releaseSignal then none
      else s.along (.statement t) (if s.lock.phase t = .getWait then s.con ++ [t] else s.con) []
  | .signal t unblocked =>
      if s.lock.phase t = .releaseSignal then
        match unblocked with
        | none => if s.con = [] then some (⟨s.lock.goto t .releaseUnlock, []⟩, []) else none
        | some u =>
            if u ∈ s.con then some (⟨(s.lock.goto t .releaseUnlock).goto u .woken, s.con.erase u⟩, []) else none
      else none
  | .spurious t => if t ∈ s.con then some (⟨s.lock.goto t .woken, s.con.erase t⟩, []) else none

end CondLock

def condLock (τ : Type*) [DecidableEq τ] : System (CondLock τ) (CondAction τ) (CondEvent τ) :=
  ⟨CondLock.step⟩

section Steps

variable {τ : Type*} [DecidableEq τ] {s next : CondLock τ} {a : CondAction τ} {out : List (CondEvent τ)}

/-- What a step can do: a call, a statement of one thread, a signal, or a wake-up. -/
inductive CondLock.Moves (s : CondLock τ) : CondAction τ → CondLock τ → List (CondEvent τ) → Prop
  | getCalled (t : τ) (at_ : s.lock.phase t = .idle) :
      Moves s (.getCondition t) ⟨s.lock.goto t .getLock, s.con⟩ [.getCalled t]
  | releaseCalled (t : τ) (at_ : s.lock.phase t = .idle) :
      Moves s (.releaseCondition t) ⟨s.lock.goto t .releaseLock, s.con⟩ [.releaseCalled t]
  | getLocks (t : τ) (at_ : s.lock.phase t = .getLock ∨ s.lock.phase t = .woken) (free : s.lock.mutx = none) :
      Moves s (.statement t) ⟨{ s.lock.goto t .getTest with mutx := some t }, s.con⟩ []
  | releaseLocks (t : τ) (at_ : s.lock.phase t = .releaseLock) (free : s.lock.mutx = none) :
      Moves s (.statement t) ⟨{ s.lock.goto t .releaseSet with mutx := some t }, s.con⟩ []
  | findsClear (t : τ) (at_ : s.lock.phase t = .getTest) (clear : s.lock.condtion = 0) :
      Moves s (.statement t) ⟨s.lock.goto t .getWait, s.con⟩ []
  | findsSet (t : τ) (at_ : s.lock.phase t = .getTest) (set : s.lock.condtion ≠ 0) :
      Moves s (.statement t) ⟨s.lock.goto t .getClear, s.con⟩ []
  | blocks (t : τ) (at_ : s.lock.phase t = .getWait) :
      Moves s (.statement t) ⟨{ s.lock.goto t .waiting with mutx := none }, s.con ++ [t]⟩ []
  | clears (t : τ) (at_ : s.lock.phase t = .getClear) :
      Moves s (.statement t) ⟨{ s.lock.goto t .getUnlock with condtion := 0 }, s.con⟩ [.sync (.clear t)]
  | gets (t : τ) (at_ : s.lock.phase t = .getUnlock) :
      Moves s (.statement t) ⟨{ s.lock.goto t .idle with mutx := none }, s.con⟩ [.sync (.got t)]
  | sets (t : τ) (at_ : s.lock.phase t = .releaseSet) :
      Moves s (.statement t) ⟨{ s.lock.goto t .releaseSignal with condtion := 1 }, s.con⟩ [.sync (.set t)]
  | releases (t : τ) (at_ : s.lock.phase t = .releaseUnlock) :
      Moves s (.statement t) ⟨{ s.lock.goto t .idle with mutx := none }, s.con⟩ [.sync (.released t)]
  | signalsNone (t : τ) (at_ : s.lock.phase t = .releaseSignal) (nobody : s.con = []) :
      Moves s (.signal t none) ⟨s.lock.goto t .releaseUnlock, []⟩ []
  | signals (t u : τ) (at_ : s.lock.phase t = .releaseSignal) (blocked : u ∈ s.con) :
      Moves s (.signal t (some u)) ⟨(s.lock.goto t .releaseUnlock).goto u .woken, s.con.erase u⟩ []
  | wakes (u : τ) (blocked : u ∈ s.con) : Moves s (.spurious u) ⟨s.lock.goto u .woken, s.con.erase u⟩ []

theorem CondLock.along_cases {b : SyncAction τ} {con : List τ} {called : List (CondEvent τ)}
    (stepped : s.along b con called = some (next, out)) :
    ∃ lock seen, s.lock.step b = some (lock, seen) ∧ next = ⟨lock, con⟩ ∧ out = called ++ seen.map .sync := by
  obtain ⟨⟨lock, seen⟩, inner, equal⟩ := Option.map_eq_some_iff.mp stepped
  cases equal
  exact ⟨lock, seen, inner, rfl, rfl⟩

theorem CondLock.step_statement {t : τ} (stepped : s.step (.statement t) = some (next, out)) :
    s.Moves (.statement t) next out := by
  rw [step] at stepped
  split_ifs at stepped with signalling waits
  all_goals
    obtain ⟨lock, seen, inner, rfl, rfl⟩ := along_cases stepped
    rw [SyncLock.step, SyncLock.statement] at inner
  · rw [waits] at inner
    cases inner
    exact .blocks t waits
  cases at_ : s.lock.phase t <;> simp only [at_, reduceCtorEq] at inner
  case getLock =>
    rw [SyncLock.lock] at inner
    split_ifs at inner with free
    cases inner
    exact .getLocks t (.inl at_) free
  case woken =>
    rw [SyncLock.lock] at inner
    split_ifs at inner with free
    cases inner
    exact .getLocks t (.inr at_) free
  case releaseLock =>
    rw [SyncLock.lock] at inner
    split_ifs at inner with free
    cases inner
    exact .releaseLocks t at_ free
  case getTest =>
    cases inner
    split_ifs with clear
    · exact .findsClear t at_ clear
    · exact .findsSet t at_ clear
  case getClear => cases inner; exact .clears t at_
  case getUnlock => cases inner; exact .gets t at_
  case releaseSet => cases inner; exact .sets t at_
  case releaseUnlock => cases inner; exact .releases t at_
  case getWait => exact absurd at_ waits
  case releaseSignal => exact absurd at_ signalling

theorem CondLock.step_moves (stepped : s.step a = some (next, out)) : s.Moves a next out := by
  cases a with
  | statement t => exact step_statement stepped
  | getCondition t =>
    obtain ⟨lock, seen, inner, rfl, rfl⟩ := along_cases stepped
    rw [SyncLock.step] at inner
    split_ifs at inner with at_
    cases inner
    exact .getCalled t at_
  | releaseCondition t =>
    obtain ⟨lock, seen, inner, rfl, rfl⟩ := along_cases stepped
    rw [SyncLock.step] at inner
    split_ifs at inner with at_
    cases inner
    exact .releaseCalled t at_
  | signal t unblocked =>
    cases unblocked with
    | none =>
      rw [step] at stepped
      split_ifs at stepped with at_ nobody
      cases stepped
      exact .signalsNone t at_ nobody
    | some u =>
      rw [step] at stepped
      split_ifs at stepped with at_ blocked
      cases stepped
      exact .signals t u at_ blocked
  | spurious t =>
    rw [step] at stepped
    split_ifs at stepped with blocked
    cases stepped
    exact .wakes t blocked

end Steps

@[simp] theorem SyncLock.goto_phase {τ : Type*} [DecidableEq τ] (s : SyncLock τ) (t : τ) (p : SyncPhase) :
    (s.goto t p).phase = Function.update s.phase t p := rfl

section Invariant

variable {τ : Type*} [DecidableEq τ] {s next : CondLock τ} {a : CondAction τ} {out : List (CondEvent τ)}

/-- The threads on `con` are those that wait, each once; a thread about to wait has found the flag clear. -/
structure CondLock.Blocked (s : CondLock τ) : Prop where
  nodup : s.con.Nodup
  waiting : ∀ t, t ∈ s.con ↔ s.lock.phase t = .waiting
  parking : ∀ t, s.lock.phase t = .getWait → s.lock.condtion = 0

/-- A signal is a statement of the lock and a wake-up, so that the lock in between is the one without `con`. -/
theorem CondLock.step_lock (blocked : s.Blocked) (stepped : s.step a = some (next, out)) :
    ∃ tape seen, (syncLock τ).run s.lock tape = some (next.lock, seen) := by
  have single {b : SyncAction τ} {lock : SyncLock τ} {seen : List (SyncEvent τ)}
      (inner : s.lock.step b = some (lock, seen)) :
      ∃ tape seen, (syncLock τ).run s.lock tape = some (lock, seen) :=
    ⟨[b], seen ++ [], System.run_cons_iff.mpr ⟨lock, seen, [], inner, rfl, rfl⟩⟩
  cases a with
  | getCondition t | releaseCondition t =>
    obtain ⟨lock, seen, inner, rfl, rfl⟩ := along_cases stepped
    exact single inner
  | statement t =>
    rw [step] at stepped
    split_ifs at stepped
    all_goals
      obtain ⟨lock, seen, inner, rfl, rfl⟩ := along_cases stepped
      exact single inner
  | spurious t =>
    rw [step] at stepped
    split_ifs at stepped with member
    cases stepped
    exact single (b := .wake t) (if_pos ((blocked.waiting t).mp member))
  | signal t unblocked =>
    have signals (at_ : s.lock.phase t = .releaseSignal) :
        s.lock.step (.statement t) = some (s.lock.goto t .releaseUnlock, []) := by
      rw [SyncLock.step, SyncLock.statement, at_]
    cases unblocked with
    | none =>
      rw [step] at stepped
      split_ifs at stepped with at_ nobody
      cases stepped
      exact single (signals at_)
    | some u =>
      rw [step] at stepped
      split_ifs at stepped with at_ member
      cases stepped
      have waits := (blocked.waiting u).mp member
      have other : u ≠ t := by
        rintro rfl
        rw [at_] at waits
        cases waits
      have wakes : (s.lock.goto t .releaseUnlock).step (.wake u) =
          some ((s.lock.goto t .releaseUnlock).goto u .woken, []) :=
        if_pos ((Function.update_of_ne other _ _).trans waits)
      exact ⟨[.statement t, .wake u], [], System.run_cons_iff.mpr
        ⟨_, [], [], signals at_, System.run_cons_iff.mpr ⟨_, [], [], wakes, rfl, rfl⟩, rfl⟩⟩

theorem CondLock.step_locked (locked : s.lock.Locked) (blocked : s.Blocked)
    (stepped : s.step a = some (next, out)) : next.lock.Locked := by
  obtain ⟨tape, seen, ran⟩ := step_lock blocked stepped
  have kept (s : SyncLock τ) (_ : List (SyncEvent τ)) (a : SyncAction τ) (next : SyncLock τ)
      (out : List (SyncEvent τ)) (locked : s.Locked) (stepped : (syncLock τ).step s a = some (next, out)) :
      next.Locked := by
    obtain ⟨t, p, moves, touches⟩ := SyncLock.step_cases stepped
    exact locked.kept moves touches
  exact @System.run_invariant_of_step _ _ _ _ (fun s _ => s.Locked) kept _ _ [] _ _ locked ran

/-- A thread that starts to wait joins `con`; the flag is clear then. -/
private theorem blocked_of_update (blocked : s.Blocked) {t : τ} {p : SyncPhase}
    (source : s.lock.phase t ≠ .waiting) (moved : next.lock.phase = Function.update s.lock.phase t p)
    (con : next.con = if p = .waiting then s.con ++ [t] else s.con)
    (parks : ∀ u, next.lock.phase u = .getWait → next.lock.condtion = 0) : next.Blocked := by
  have absent : t ∉ s.con := fun member => source ((blocked.waiting t).mp member)
  refine ⟨?_, fun u => ?_, parks⟩
  · rw [con]
    split_ifs
    · rw [← List.concat_eq_append]
      exact blocked.nodup.concat absent
    · exact blocked.nodup
  · rw [con, moved]
    rcases eq_or_ne u t with rfl | other
    · rw [Function.update_self]
      split_ifs with waits
      · exact iff_of_true (List.mem_append_right _ (List.mem_singleton.mpr rfl)) waits
      · exact iff_of_false absent waits
    · rw [Function.update_of_ne other, ← blocked.waiting]
      split_ifs
      · rw [List.mem_append, List.mem_singleton, or_iff_left other]
      · rfl

/-- A wake-up takes a thread from `con`, and out of its wait. -/
private theorem blocked_wake (blocked : s.Blocked) {u : τ} :
    CondLock.Blocked ⟨s.lock.goto u .woken, s.con.erase u⟩ := by
  refine ⟨blocked.nodup.erase u, fun v => ?_, fun v at_ => ?_⟩
  · rw [blocked.nodup.mem_erase_iff]
    rcases eq_or_ne v u with rfl | other
    · rw [SyncLock.goto_phase, Function.update_self]
      exact iff_of_false (fun both => both.1 rfl) (by decide)
    · rw [SyncLock.goto_phase, Function.update_of_ne other, and_iff_right other, blocked.waiting]
  · rcases eq_or_ne v u with rfl | other
    · rw [SyncLock.goto_phase, Function.update_self] at at_
      cases at_
    · rw [SyncLock.goto_phase, Function.update_of_ne other] at at_
      exact blocked.parking v at_

/-- Only a thread that finds the flag clear is about to wait. -/
private theorem parking_update (blocked : s.Blocked) {t : τ} {p : SyncPhase} (target : p ≠ .getWait) (u : τ)
    (at_ : Function.update s.lock.phase t p u = .getWait) : s.lock.condtion = 0 := by
  rcases eq_or_ne u t with rfl | other
  · rw [Function.update_self] at at_
    exact absurd at_ target
  · rw [Function.update_of_ne other] at at_
    exact blocked.parking u at_

/-- A thread goes on without the flag, the mutex or `con` mattering to who waits. -/
private theorem blocked_goto (blocked : s.Blocked) {t : τ} {p : SyncPhase} (mutx : Option τ)
    (source : s.lock.phase t ≠ .waiting) (target : p ≠ .waiting ∧ p ≠ .getWait) :
    CondLock.Blocked ⟨{ s.lock.goto t p with mutx := mutx }, s.con⟩ :=
  blocked_of_update blocked source rfl (if_neg target.1).symm (parking_update blocked target.2)

theorem CondLock.Blocked.kept (blocked : s.Blocked) (locked : s.lock.Locked) (moves : s.Moves a next out) :
    next.Blocked := by
  cases moves with
  | getCalled t at_ | releaseCalled t at_ | releaseLocks t at_ free | findsSet t at_ set | gets t at_
  | releases t at_ => exact blocked_goto blocked _ (by rw [at_]; decide) (by decide)
  | getLocks t at_ free =>
    exact blocked_goto blocked _ (by rcases at_ with at_ | at_ <;> rw [at_] <;> decide) (by decide)
  | findsClear t at_ clear =>
    exact blocked_of_update blocked (by rw [at_]; decide) rfl (if_neg (by decide)).symm fun _ _ => clear
  | blocks t at_ =>
    exact blocked_of_update blocked (by rw [at_]; decide) rfl (if_pos rfl).symm
      (parking_update blocked (by decide))
  | clears t at_ =>
    exact blocked_of_update blocked (by rw [at_]; decide) rfl (if_neg (by decide)).symm fun _ _ => rfl
  | sets t at_ =>
    refine blocked_of_update blocked (by rw [at_]; decide) rfl (if_neg (by decide)).symm fun u parked => ?_
    -- the mutex keeps any other thread from being about to wait
    change Function.update s.lock.phase t .releaseSignal u = .getWait at parked
    rcases eq_or_ne u t with rfl | other
    · rw [Function.update_self] at parked
      cases parked
    · rw [Function.update_of_ne other] at parked
      exact absurd (locked.unique (by rw [parked]; rfl) (by rw [at_]; rfl)) other
  | signalsNone t at_ nobody =>
    have quiet := blocked_goto blocked s.lock.mutx (t := t) (p := .releaseUnlock)
      (by rw [at_]; decide) (by decide)
    rwa [nobody] at quiet
  | signals t u at_ member =>
    exact blocked_wake (s := ⟨s.lock.goto t .releaseUnlock, s.con⟩)
      (blocked_goto blocked _ (by rw [at_]; decide) (by decide))
  | wakes u member => exact blocked_wake blocked

omit [DecidableEq τ] in
theorem CondLock.Blocked.initial : (CondLock.initial : CondLock τ).Blocked := by
  refine ⟨List.nodup_nil, fun t => ?_, fun t wrong => ?_⟩
  · exact iff_of_false List.not_mem_nil (show SyncPhase.idle ≠ .waiting by decide)
  · exact absurd (show SyncPhase.idle = .getWait from wrong) (by decide)

/-- The lock with its mutex and its queue in order. -/
structure CondLock.Sound (s : CondLock τ) : Prop where
  locked : s.lock.Locked
  blocked : s.Blocked

theorem CondLock.Sound.kept (sound : s.Sound) (stepped : s.step a = some (next, out)) : next.Sound :=
  ⟨step_locked sound.locked sound.blocked stepped, sound.blocked.kept sound.locked (step_moves stepped)⟩

end Invariant

section Atomic

/-- Where a call stands: before its effect, or after it. -/
inductive CallStage where
  | idle | get | got | release | released
deriving DecidableEq, Repr

/-- The lock as its callers see it. -/
structure AtomicLock (τ : Type*) where
  condtion : Bool
  call : τ → CallStage

/-- A call, its one effect on the flag, and its return. -/
inductive AtomicAction (τ : Type*) where
  | getCondition (t : τ)
  | releaseCondition (t : τ)
  | take (t : τ)
  | give (t : τ)
  | returns (t : τ)
deriving DecidableEq, Repr

namespace AtomicLock

variable {τ : Type*} [DecidableEq τ]

def initial : AtomicLock τ := ⟨false, fun _ => .idle⟩

def goto (a : AtomicLock τ) (t : τ) (c : CallStage) : AtomicLock τ :=
  { a with call := Function.update a.call t c }

def step (a : AtomicLock τ) : AtomicAction τ → Option (AtomicLock τ × List (CondEvent τ))
  | .getCondition t => if a.call t = .idle then some (a.goto t .get, [.getCalled t]) else none
  | .releaseCondition t => if a.call t = .idle then some (a.goto t .release, [.releaseCalled t]) else none
  | .take t =>
      if a.call t = .get ∧ a.condtion = true then
        some ({ a.goto t .got with condtion := false }, [.sync (.clear t)]) else none
  | .give t =>
      if a.call t = .release then some ({ a.goto t .released with condtion := true }, [.sync (.set t)])
      else none
  | .returns t =>
      match a.call t with
      | .got => some (a.goto t .idle, [.sync (.got t)])
      | .released => some (a.goto t .idle, [.sync (.released t)])
      | .idle | .get | .release => none

end AtomicLock

def atomicLock (τ : Type*) [DecidableEq τ] : System (AtomicLock τ) (AtomicAction τ) (CondEvent τ) :=
  ⟨AtomicLock.step⟩

/-- The stage of the call that a thread's next statement belongs to. -/
def SyncPhase.stage : SyncPhase → CallStage
  | idle => .idle
  | getLock | getTest | getWait | waiting | woken | getClear => .get
  | getUnlock => .got
  | releaseLock | releaseSet => .release
  | releaseSignal | releaseUnlock => .released

variable {τ : Type*} [DecidableEq τ] {s next : CondLock τ} {a : CondAction τ}
  {out : List (CondEvent τ)}

def CondLock.atomic (s : CondLock τ) : AtomicLock τ :=
  ⟨decide (s.lock.condtion = 1), fun t => (s.lock.phase t).stage⟩

/-- A thread that moves in the lock moves to the stage of its next statement. -/
theorem CondLock.atomic_call {t : τ} {p : SyncPhase}
    (moved : next.lock.phase = Function.update s.lock.phase t p) :
    next.atomic.call = Function.update s.atomic.call t p.stage := by
  rw [atomic, moved]
  exact Function.comp_update SyncPhase.stage s.lock.phase t p

/-- What a thread does between two stages is not seen. -/
private theorem atomic_silent {t : τ} {p : SyncPhase} (same : (s.lock.phase t).stage = p.stage)
    (moved : next.lock.phase = Function.update s.lock.phase t p)
    (flag : next.lock.condtion = s.lock.condtion) : next.atomic = s.atomic := by
  have call := CondLock.atomic_call moved
  rw [← same, show (s.lock.phase t).stage = s.atomic.call t from rfl, Function.update_eq_self] at call
  rw [CondLock.atomic, CondLock.atomic, flag]
  exact congrArg _ call

/-- A step that is seen is one step of the atomic lock. -/
private theorem atomic_step {b : AtomicAction τ} {t : τ} {p : SyncPhase} {c : CallStage} (stage : p.stage = c)
    {flag : Bool} (moved : next.lock.phase = Function.update s.lock.phase t p)
    (set : decide (next.lock.condtion = 1) = flag)
    (answered : s.atomic.step b = some ({ s.atomic.goto t c with condtion := flag }, out)) :
    ∃ tape, (atomicLock τ).run s.atomic tape = some (next.atomic, out) := by
  have reached : { s.atomic.goto t c with condtion := flag } = next.atomic := by
    rw [AtomicLock.goto, ← stage, ← CondLock.atomic_call moved, ← set]
    rfl
  rw [reached] at answered
  exact ⟨[b], System.run_cons_iff.mpr ⟨_, out, [], answered, rfl, (List.append_nil out).symm⟩⟩

/-- A call takes effect once, between its start and its return. -/
theorem CondLock.Sound.atomic_moves (sound : s.Sound) (moves : s.Moves a next out) :
    ∃ tape, (atomicLock τ).run s.atomic tape = some (next.atomic, out) := by
  have silent (same : next.atomic = s.atomic) :
      ∃ tape, (atomicLock τ).run s.atomic tape = some (next.atomic, []) := ⟨[], by rw [same]; rfl⟩
  have stage (t : τ) {p : SyncPhase} (at_ : s.lock.phase t = p) : s.atomic.call t = p.stage :=
    congrArg SyncPhase.stage at_
  cases moves with
  | getCalled t at_ => exact atomic_step (b := .getCondition t) rfl rfl rfl (if_pos (stage t at_))
  | releaseCalled t at_ => exact atomic_step (b := .releaseCondition t) rfl rfl rfl (if_pos (stage t at_))
  | getLocks t at_ free =>
    exact silent (atomic_silent (by rcases at_ with at_ | at_ <;> rw [at_] <;> rfl) rfl rfl)
  | releaseLocks t at_ free => exact silent (atomic_silent (by rw [at_]; rfl) rfl rfl)
  | findsClear t at_ clear => exact silent (atomic_silent (by rw [at_]; rfl) rfl rfl)
  | findsSet t at_ set => exact silent (atomic_silent (by rw [at_]; rfl) rfl rfl)
  | blocks t at_ => exact silent (atomic_silent (by rw [at_]; rfl) rfl rfl)
  | clears t at_ =>
    have set : s.atomic.condtion = true := decide_eq_true (sound.locked.clearing t at_)
    exact atomic_step (b := .take t) rfl rfl rfl (if_pos ⟨stage t at_, set⟩)
  | gets t at_ =>
    refine atomic_step (b := .returns t) rfl rfl rfl ?_
    rw [AtomicLock.step, stage t at_]
    rfl
  | sets t at_ => exact atomic_step (b := .give t) rfl rfl rfl (if_pos (stage t at_))
  | releases t at_ =>
    refine atomic_step (b := .returns t) rfl rfl rfl ?_
    rw [AtomicLock.step, stage t at_]
    rfl
  | signalsNone t at_ nobody => exact silent (atomic_silent (by rw [at_]; rfl) rfl rfl)
  | signals t u at_ member =>
    have first : CondLock.atomic ⟨s.lock.goto t .releaseUnlock, s.con⟩ = s.atomic :=
      atomic_silent (by rw [at_]; rfl) rfl rfl
    have waits := (sound.blocked.waiting u).mp member
    have other : u ≠ t := by
      rintro rfl
      rw [at_] at waits
      cases waits
    refine silent (.trans (atomic_silent (s := ⟨s.lock.goto t .releaseUnlock, s.con⟩) (t := u)
      (p := .woken) ?_ rfl rfl) first)
    rw [SyncLock.goto_phase, Function.update_of_ne other, waits]
    rfl
  | wakes u member =>
    exact silent (atomic_silent (by rw [(sound.blocked.waiting u).mp member]; rfl) rfl rfl)

theorem condLock_simulates :
    (condLock τ).Simulates (atomicLock τ) (fun s a => s.Sound ∧ a = s.atomic) := by
  rintro s a b next out ⟨sound, rfl⟩ stepped
  obtain ⟨tape, ran⟩ := sound.atomic_moves (CondLock.step_moves stepped)
  exact ⟨tape, next.atomic, ran, sound.kept stepped, rfl⟩

/-- The lock is atomic for its callers: what any run shows of calls, effects and returns, in its order, is shown
by a run of the atomic lock, where a get takes the flag in one step and a release gives it in one. -/
theorem condLock_atomic {tape : List (CondAction τ)} {seen : List (CondEvent τ)}
    (ran : (condLock τ).run .initial tape = some (s, seen)) :
    ∃ tape', (atomicLock τ).run .initial tape' = some (s.atomic, seen) := by
  have sound : (CondLock.initial : CondLock τ).Sound := ⟨.initial, .initial⟩
  obtain ⟨tape', a, answered, -, rfl⟩ := condLock_simulates.run ⟨sound, rfl⟩ ran
  exact ⟨tape', answered⟩

/-- A get that is blocked, and a release whose signal unblocks it. -/
def signalled : List (CondAction (Fin 2)) :=
  [.getCondition 0, .statement 0, .statement 0, .statement 0, .releaseCondition 1, .statement 1, .statement 1,
    .signal 1 (some 0), .statement 1, .statement 0, .statement 0, .statement 0, .statement 0]

/-- What the callers see of it. -/
def signalledSeen : List (CondEvent (Fin 2)) :=
  [.getCalled 0, .releaseCalled 1, .sync (.set 1), .sync (.released 1), .sync (.clear 0), .sync (.got 0)]

theorem signalled_runs : ∃ s, (condLock (Fin 2)).run .initial signalled = some (s, signalledSeen) := ⟨_, rfl⟩

theorem condLock_atomic_signalled :
    ∃ tape' a, (atomicLock (Fin 2)).run .initial tape' = some (a, signalledSeen) := by
  obtain ⟨s, ran⟩ := signalled_runs
  obtain ⟨tape', answered⟩ := condLock_atomic ran
  exact ⟨tape', s.atomic, answered⟩

end Atomic

section Wakeups

variable {τ : Type*} [DecidableEq τ] {s next : CondLock τ} {a : CondAction τ} {out : List (CondEvent τ)}

/-- A thread that will take a set flag, or unblock one that will, without having to wait before. -/
def SyncPhase.bound : SyncPhase → Bool
  | woken | getTest | getClear | releaseSignal => true
  | idle | getLock | getWait | waiting | getUnlock | releaseLock | releaseSet | releaseUnlock => false

/-- While the flag is set, threads are blocked only as long as one is bound for it. -/
def CondLock.Awake (s : CondLock τ) : Prop :=
  s.lock.condtion ≠ 0 → s.con ≠ [] → ∃ t, (s.lock.phase t).bound = true

omit [DecidableEq τ] in
theorem CondLock.Awake.initial : (CondLock.initial : CondLock τ).Awake := fun wrong => absurd rfl wrong

private theorem awake_of_update (awake : s.Awake) {t : τ} {p : SyncPhase}
    (bound : (s.lock.phase t).bound = true → p.bound = true)
    (moved : next.lock.phase = Function.update s.lock.phase t p)
    (flag : next.lock.condtion = s.lock.condtion) (con : next.con = s.con) : next.Awake := by
  intro set blocked
  rw [flag] at set
  rw [con] at blocked
  obtain ⟨u, bound'⟩ := awake set blocked
  rcases eq_or_ne u t with rfl | other
  · exact ⟨u, by rw [moved, Function.update_self]; exact bound bound'⟩
  · exact ⟨u, by rw [moved, Function.update_of_ne other]; exact bound'⟩

omit [DecidableEq τ] in
private theorem awake_of_bound {t : τ} {p : SyncPhase} (bound : p.bound = true)
    (at_ : next.lock.phase t = p) : next.Awake := fun _ _ => ⟨t, by rw [at_]; exact bound⟩

theorem CondLock.Awake.kept (awake : s.Awake) (sound : s.Sound) (moves : s.Moves a next out) :
    next.Awake := by
  cases moves with
  | getCalled t at_ | releaseCalled t at_ | releaseLocks t at_ free | gets t at_ | releases t at_ =>
    exact awake_of_update awake (by rw [at_]; decide) rfl rfl rfl
  | getLocks t at_ free => exact awake_of_bound (t := t) (p := .getTest) rfl (Function.update_self ..)
  | findsSet t at_ set => exact awake_of_bound (t := t) (p := .getClear) rfl (Function.update_self ..)
  | sets t at_ => exact awake_of_bound (t := t) (p := .releaseSignal) rfl (Function.update_self ..)
  | signals t u at_ member => exact awake_of_bound (t := u) (p := .woken) rfl (Function.update_self ..)
  | wakes u member => exact awake_of_bound (t := u) (p := .woken) rfl (Function.update_self ..)
  | findsClear t at_ clear => exact fun set => absurd clear set
  -- a thread that blocks has found the flag clear and has held the mutex since
  | blocks t at_ => exact fun set => absurd (sound.blocked.parking t at_) set
  | clears t at_ => exact fun set => absurd rfl set
  | signalsNone t at_ nobody => exact fun _ blocked => absurd rfl blocked

/-- The statements, signals included, but neither calls nor wake-ups without a signal. -/
def CondAction.own : CondAction τ → Bool
  | statement _ | signal _ _ => true
  | getCondition _ | releaseCondition _ | spurious _ => false

/-- The statements that a thread may still take, those of a thread its signal unblocks included. -/
def SyncPhase.rank : SyncPhase → Nat
  | idle | waiting => 0
  | getUnlock | getWait | releaseUnlock => 1
  | getClear => 2
  | getTest => 3
  | getLock | woken => 4
  | releaseSignal => 6
  | releaseSet => 7
  | releaseLock => 8

/-- Nobody holds the mutex, no call is under way but gets that are blocked, and those only on a clear flag. -/
structure CondLock.Settled (s : CondLock τ) : Prop where
  free : s.lock.mutx = none
  still : ∀ t, s.lock.phase t = .idle ∨ s.lock.phase t = .waiting
  clear : ∀ t, s.lock.phase t = .waiting → s.lock.condtion = 0

private theorem statement_moves {t : τ} (other : s.lock.phase t ≠ .releaseSignal)
    (enabled : (s.lock.statement t).isSome = true) :
    ∃ a next out, CondAction.own a = true ∧ s.step a = some (next, out) := by
  obtain ⟨⟨lock, seen⟩, inner⟩ := Option.isSome_iff_exists.mp enabled
  refine ⟨.statement t, ⟨lock, if s.lock.phase t = .getWait then s.con ++ [t] else s.con⟩, seen.map .sync, rfl, ?_⟩
  rw [CondLock.step, if_neg other, CondLock.along, SyncLock.step, inner]
  rfl

/-- A thread that holds the mutex can take its next statement. -/
private theorem holder_moves {t : τ} (holds : (s.lock.phase t).holds = true) :
    ∃ a next out, CondAction.own a = true ∧ s.step a = some (next, out) := by
  cases at_ : s.lock.phase t <;> rw [at_] at holds
  case releaseSignal =>
    cases queue : s.con with
    | nil => exact ⟨.signal t none, _, _, rfl, by rw [CondLock.step, if_pos at_, if_pos queue]⟩
    | cons u rest =>
      have member : u ∈ s.con := by rw [queue]; exact List.mem_cons_self
      exact ⟨.signal t (some u), _, _, rfl, by rw [CondLock.step, if_pos at_, if_pos member]⟩
  case idle | getLock | waiting | woken | releaseLock => cases holds
  all_goals exact statement_moves (by rw [at_]; decide) (by rw [SyncLock.statement, at_]; rfl)

/-- Where the mutex is free, a thread about to lock it can. -/
private theorem locker_moves (free : s.lock.mutx = none) {t : τ}
    (locks : s.lock.phase t = .getLock ∨ s.lock.phase t = .woken ∨ s.lock.phase t = .releaseLock) :
    ∃ a next out, CondAction.own a = true ∧ s.step a = some (next, out) := by
  rcases locks with at_ | at_ | at_
  all_goals
    refine statement_moves (by rw [at_]; decide) ?_
    rw [SyncLock.statement, at_]
    dsimp only
    rw [SyncLock.lock, if_pos free]
    rfl

/-- Unless the lock is settled, a thread in it can move. -/
theorem CondLock.Awake.moves (awake : s.Awake) (sound : s.Sound) (unsettled : ¬ s.Settled) :
    ∃ a next out, CondAction.own a = true ∧ s.step a = some (next, out) := by
  by_contra stuck
  have idle (t : τ) : s.lock.phase t = .idle ∨ s.lock.phase t = .waiting := by
    have waits : ¬ (s.lock.phase t).holds = true := fun holds => stuck (holder_moves holds)
    have free : s.lock.mutx = none := by
      by_contra held
      obtain ⟨u, owner⟩ := Option.ne_none_iff_exists'.mp held
      exact stuck (holder_moves ((sound.locked.owner u).mp owner))
    have locks : ¬ (s.lock.phase t = .getLock ∨ s.lock.phase t = .woken ∨ s.lock.phase t = .releaseLock) :=
      fun locks => stuck (locker_moves free locks)
    cases at_ : s.lock.phase t <;> simp_all [SyncPhase.holds]
  refine unsettled ⟨?_, idle, fun t waits => ?_⟩
  · by_contra held
    obtain ⟨u, owner⟩ := Option.ne_none_iff_exists'.mp held
    exact stuck (holder_moves ((sound.locked.owner u).mp owner))
  · by_contra set
    obtain ⟨u, bound⟩ := awake set (List.ne_nil_of_mem ((sound.blocked.waiting t).mpr waits))
    rcases idle u with at_ | at_ <;> rw [at_] at bound <;> cases bound

/-- A settled lock does not move by itself. -/
theorem CondLock.Settled.stays (settled : s.Settled) (own : a.own = true) : s.step a = none := by
  cases a with
  | statement t =>
    rcases settled.still t with at_ | at_
    all_goals
      rw [step, if_neg (by rw [at_]; decide), along, SyncLock.step, SyncLock.statement, at_]
      rfl
  | signal t unblocked =>
    have idle : s.lock.phase t ≠ .releaseSignal := by
      rcases settled.still t with at_ | at_ <;> rw [at_] <;> decide
    cases unblocked <;> rw [step, if_neg idle]
  | getCondition t | releaseCondition t | spurious t => cases own

variable [Fintype τ]

def CondLock.work (s : CondLock τ) : Nat := ∑ t, (s.lock.phase t).rank

theorem CondLock.work_of_update {t : τ} {p : SyncPhase}
    (moved : next.lock.phase = Function.update s.lock.phase t p) :
    next.work + (s.lock.phase t).rank = s.work + p.rank := by
  have rest : ∑ u ∈ Finset.univ.erase t, (next.lock.phase u).rank =
      ∑ u ∈ Finset.univ.erase t, (s.lock.phase u).rank :=
    Finset.sum_congr rfl fun u member => by
      rw [moved, Function.update_of_ne (Finset.ne_of_mem_erase member)]
  have before := Finset.add_sum_erase Finset.univ (fun u => (s.lock.phase u).rank) (Finset.mem_univ t)
  have after := Finset.add_sum_erase Finset.univ (fun u => (next.lock.phase u).rank) (Finset.mem_univ t)
  rw [moved, Function.update_self, ← moved] at after
  rw [work, work]
  omega

/-- What a call or an unasked wake-up adds to the work, and what a statement takes from it. -/
def CondAction.grant : CondAction τ → Nat
  | getCondition _ | spurious _ => 4
  | releaseCondition _ => 8
  | statement _ | signal _ _ => 0

private theorem work_le {t : τ} {p : SyncPhase} {cost grant : Nat}
    (moved : next.lock.phase = Function.update s.lock.phase t p)
    (paid : p.rank + cost ≤ (s.lock.phase t).rank + grant) : next.work + cost ≤ s.work + grant := by
  have total := CondLock.work_of_update moved
  omega

theorem CondLock.Sound.work_step (sound : s.Sound) (moves : s.Moves a next out) :
    next.work + a.own.toNat ≤ s.work + a.grant := by
  cases moves with
  | getCalled t at_ | releaseCalled t at_ | releaseLocks t at_ free | findsClear t at_ clear
  | findsSet t at_ set | blocks t at_ | clears t at_ | gets t at_ | sets t at_ | releases t at_
  | signalsNone t at_ nobody =>
    exact work_le (t := t) rfl (by rw [at_]; exact Nat.le_of_ble_eq_true rfl)
  | getLocks t at_ free =>
    rcases at_ with at_ | at_
    all_goals exact work_le (t := t) rfl (by rw [at_]; exact Nat.le_of_ble_eq_true rfl)
  | wakes u member =>
    have waits := (sound.blocked.waiting u).mp member
    exact work_le (t := u) rfl (by rw [waits]; exact Nat.le_of_ble_eq_true rfl)
  | signals t u at_ member =>
    have waits := (sound.blocked.waiting u).mp member
    have other : u ≠ t := by
      rintro rfl
      rw [at_] at waits
      cases waits
    -- the thread that is unblocked may take four statements, which the signal pays for
    have unblocks := @work_of_update τ _ ⟨s.lock.goto t .releaseUnlock, s.con⟩
      ⟨(s.lock.goto t .releaseUnlock).goto u .woken, s.con.erase u⟩ _ u .woken rfl
    have signals := @work_of_update τ _ s ⟨s.lock.goto t .releaseUnlock, s.con⟩ _ t .releaseUnlock rfl
    rw [SyncLock.goto_phase, Function.update_of_ne other, waits] at unblocks
    rw [at_] at signals
    simp only [SyncPhase.rank, CondAction.own, CondAction.grant, Bool.toNat_true] at *
    omega

/-- The lock does not lose a wake-up and does not lock up. Whatever the run so far, its statements are bounded by the
calls and the wake-ups without a signal. From there on, any run of statements alone can be continued unless it has
left the mutex free and only gets in the lock that are blocked on a clear flag, and some run reaches such a state. -/
theorem condLock_settles {tape : List (CondAction τ)} {seen : List (CondEvent τ)}
    (ran : (condLock τ).run .initial tape = some (s, seen)) :
    tape.countP CondAction.own ≤ System.total CondAction.grant tape ∧
    (s.Settled ↔ ∀ a, CondAction.own a = true → (condLock τ).step s a = none) ∧
    ∃ rest t later, (∀ a ∈ rest, CondAction.own a = true) ∧
      (condLock τ).run s rest = some (t, later) ∧ t.Settled := by
  have paid (s : CondLock τ) (a : CondAction τ) (next : CondLock τ) (out : List (CondEvent τ))
      (inv : s.Sound ∧ s.Awake) (stepped : (condLock τ).step s a = some (next, out)) :
      (next.Sound ∧ next.Awake) ∧ next.work + a.own.toNat ≤ s.work + a.grant := by
    have moves := CondLock.step_moves stepped
    exact ⟨⟨inv.1.kept stepped, inv.2.kept inv.1 moves⟩, inv.1.work_step moves⟩
  obtain ⟨inv, bounded⟩ := System.run_cost_le paid ⟨⟨.initial, .initial⟩, .initial⟩ ran
  have still : (CondLock.initial : CondLock τ).work = 0 := Finset.sum_eq_zero fun _ _ => rfl
  have count := System.total_eq_countP CondAction.own tape
  refine ⟨by omega, ⟨fun settled a own => settled.stays own, fun stuck => ?_⟩, ?_⟩
  · by_contra unsettled
    obtain ⟨a, next, out, own, stepped⟩ := inv.2.moves inv.1 unsettled
    exact absurd ((stuck a own).symm.trans stepped) nofun
  · have lowered (s : CondLock τ) (a : CondAction τ) (next : CondLock τ) (out : List (CondEvent τ))
        (inv : s.Sound ∧ s.Awake) (own : a.own = true) (stepped : (condLock τ).step s a = some (next, out)) :
        (next.Sound ∧ next.Awake) ∧ next.work < s.work := by
      obtain ⟨kept, lower⟩ := paid s a next out inv stepped
      refine ⟨kept, ?_⟩
      cases a with
      | statement t | signal t u => exact lower
      | getCondition t | releaseCondition t | spurious t => cases own
    exact System.exists_run_settled lowered (fun s inv unsettled => inv.2.moves inv.1 unsettled) inv

theorem condLock_settles_signalled :
    signalled.countP CondAction.own ≤ 12 ∧ ∃ s rest t later,
      (condLock (Fin 2)).run .initial signalled = some (s, signalledSeen) ∧
      (condLock (Fin 2)).run s rest = some (t, later) ∧ t.Settled := by
  obtain ⟨s, ran⟩ := signalled_runs
  obtain ⟨bounded, -, rest, t, later, -, continued, settled⟩ := condLock_settles ran
  exact ⟨bounded, s, rest, t, later, ran, continued, settled⟩

end Wakeups

end Mt6582.Gps

import Mathlib.Logic.Function.Basic
import Mt6582.Machine.Semaphore
import Mt6582.Machine.System

/-! # The condition lock

`get_condition` and `release_condition` on one `SYNC_LOCK_T`, called by any number of threads. Each statement
is a step of its own; the mutex alone orders them. A thread in `pthread_cond_wait` may be woken at any time,
whatever was signalled, so that signals may be lost and wake-ups may be spurious. The flag of the lock is a
binary semaphore: a release gives it, and a get that completes has taken it.
-/

namespace Mt6582.Gps

open Machine

/-- A thread's next statement. `waiting` is inside `pthread_cond_wait`, with the mutex released; `woken` is
inside it too, about to take the mutex back. -/
inductive SyncPhase where
  | idle
  | getLock | getTest | getWait | waiting | woken | getClear | getUnlock
  | releaseLock | releaseSet | releaseSignal | releaseUnlock
deriving DecidableEq, Repr

/-- The statements between a thread's lock and its unlock. -/
def SyncPhase.holds : SyncPhase → Bool
  | getTest | getWait | getClear | getUnlock | releaseSet | releaseSignal | releaseUnlock => true
  | idle | getLock | waiting | woken | releaseLock => false

/-- `SYNC_LOCK_T` and the threads that use it; `mutx` is the owner of the mutex. -/
structure SyncLock (τ : Type*) where
  mutx : Option τ
  condtion : Int
  phase : τ → SyncPhase

inductive SyncAction (τ : Type*) where
  | getCondition (t : τ)
  | releaseCondition (t : τ)
  | statement (t : τ)
  | wake (t : τ)
deriving DecidableEq, Repr

/-- The stores to the flag and the ends of the calls. -/
inductive SyncEvent (τ : Type*) where
  | set (t : τ)
  | clear (t : τ)
  | got (t : τ)
  | released (t : τ)
deriving DecidableEq, Repr

namespace SyncLock

variable {τ : Type*} [DecidableEq τ]

/-- `lock_for_sync` starts with no owner and the flag clear. -/
def initial : SyncLock τ := ⟨none, 0, fun _ => .idle⟩

def goto (s : SyncLock τ) (t : τ) (p : SyncPhase) : SyncLock τ :=
  { s with phase := Function.update s.phase t p }

/-- `pthread_mutex_lock` -/
def lock (s : SyncLock τ) (t : τ) (p : SyncPhase) : Option (SyncLock τ × List (SyncEvent τ)) :=
  if s.mutx = none then some ({ s.goto t p with mutx := some t }, []) else none

/-- The next statement of a thread. The signal is not seen here: what it wakes is an action of its own. -/
def statement (s : SyncLock τ) (t : τ) : Option (SyncLock τ × List (SyncEvent τ)) :=
  match s.phase t with
  | .idle | .waiting => none
  | .getLock | .woken => s.lock t .getTest
  | .getTest => some (s.goto t (if s.condtion = 0 then .getWait else .getClear), [])
  | .getWait => some ({ s.goto t .waiting with mutx := none }, [])
  | .getClear => some ({ s.goto t .getUnlock with condtion := 0 }, [.clear t])
  | .getUnlock => some ({ s.goto t .idle with mutx := none }, [.got t])
  | .releaseLock => s.lock t .releaseSet
  | .releaseSet => some ({ s.goto t .releaseSignal with condtion := 1 }, [.set t])
  | .releaseSignal => some (s.goto t .releaseUnlock, [])
  | .releaseUnlock => some ({ s.goto t .idle with mutx := none }, [.released t])

def step (s : SyncLock τ) : SyncAction τ → Option (SyncLock τ × List (SyncEvent τ))
  | .getCondition t => if s.phase t = .idle then some (s.goto t .getLock, []) else none
  | .releaseCondition t => if s.phase t = .idle then some (s.goto t .releaseLock, []) else none
  | .statement t => s.statement t
  | .wake t => if s.phase t = .waiting then some (s.goto t .woken, []) else none

end SyncLock

def syncLock (τ : Type*) [DecidableEq τ] : System (SyncLock τ) (SyncAction τ) (SyncEvent τ) :=
  ⟨SyncLock.step⟩

namespace SyncEvent

variable {τ : Type*}

def isSet : SyncEvent τ → Bool
  | set _ => true
  | _ => false

def isClear : SyncEvent τ → Bool
  | clear _ => true
  | _ => false

def isGot : SyncEvent τ → Bool
  | got _ => true
  | _ => false

end SyncEvent

section Steps

variable {τ : Type*} {s : SyncLock τ} {t u : τ}

/-- Threads, mutex and flag. -/
structure SyncLock.Locked (s : SyncLock τ) : Prop where
  owner : ∀ t, s.mutx = some t ↔ (s.phase t).holds = true
  flag : s.condtion = 0 ∨ s.condtion = 1
  clearing : ∀ t, s.phase t = .getClear → s.condtion = 1
  cleared : ∀ t, s.phase t = .getUnlock → s.condtion = 0

/-- One thread at a time is between its lock and its unlock. -/
theorem SyncLock.Locked.unique (locked : s.Locked) (first : (s.phase t).holds = true)
    (second : (s.phase u).holds = true) : t = u := by
  have owners := ((locked.owner t).mpr first).symm.trans ((locked.owner u).mpr second)
  exact Option.some.inj owners

theorem SyncLock.Locked.initial : (SyncLock.initial : SyncLock τ).Locked := by
  refine ⟨fun t => ?_, .inl rfl, fun t wrong => ?_, fun t wrong => ?_⟩
  · exact ⟨fun wrong => absurd wrong.symm (Option.some_ne_none t),
      fun wrong => absurd (show SyncPhase.idle.holds = true from wrong) (by decide)⟩
  · exact absurd (show SyncPhase.idle = .getClear from wrong) (by decide)
  · exact absurd (show SyncPhase.idle = .getUnlock from wrong) (by decide)

variable [DecidableEq τ] {a : SyncAction τ} {next : SyncLock τ} {out : List (SyncEvent τ)}

/-- A thread moves to its next statement; it locks the mutex, unlocks it, or leaves it as it is. -/
def SyncLock.Moves (s next : SyncLock τ) (t : τ) (p : SyncPhase) : Prop :=
  next.phase = Function.update s.phase t p ∧
    ((next.mutx = s.mutx ∧ p.holds = (s.phase t).holds) ∨
      (s.mutx = none ∧ next.mutx = some t ∧ p.holds = true) ∨
      ((s.phase t).holds = true ∧ next.mutx = none ∧ p.holds = false))

/-- What a step does to the flag, and what is seen of it: only a set, a clear and an end of a call are seen. -/
inductive SyncLock.Touches (s next : SyncLock τ) (t : τ) (p : SyncPhase) : List (SyncEvent τ) → Prop
  | quiet (same : next.condtion = s.condtion) (target : p ≠ .getUnlock) (source : s.phase t ≠ .getUnlock)
      (tested : p ≠ .getClear ∨ s.condtion ≠ 0) : Touches s next t p []
  | released (same : next.condtion = s.condtion) (target : p = .idle) (source : s.phase t = .releaseUnlock) :
      Touches s next t p [.released t]
  | got (same : next.condtion = s.condtion) (target : p = .idle) (source : s.phase t = .getUnlock) :
      Touches s next t p [.got t]
  | clear (zero : next.condtion = 0) (target : p = .getUnlock) (source : s.phase t = .getClear) :
      Touches s next t p [.clear t]
  | set (one : next.condtion = 1) (target : p = .releaseSignal) (source : s.phase t = .releaseSet) :
      Touches s next t p [.set t]

theorem SyncLock.lock_cases {p : SyncPhase} (from_ : (s.phase t).holds = false)
    (to_ : p.holds = true) (target : p ≠ .getUnlock ∧ p ≠ .getClear)
    (stepped : s.lock t p = some (next, out)) :
    s.Moves next t p ∧ s.Touches next t p out := by
  rw [lock] at stepped
  split_ifs at stepped with free
  cases stepped
  refine ⟨⟨rfl, .inr (.inl ⟨free, rfl, to_⟩)⟩, .quiet rfl target.1 ?_ (.inl target.2)⟩
  intro unlocking
  rw [unlocking] at from_
  cases from_

theorem SyncLock.statement_cases (stepped : s.statement t = some (next, out)) :
    ∃ p, s.Moves next t p ∧ s.Touches next t p out := by
  cases at_ : s.phase t <;> simp only [statement, at_, reduceCtorEq] at stepped
  case getLock => exact ⟨_, lock_cases (by rw [at_]; rfl) rfl (by decide) stepped⟩
  case woken => exact ⟨_, lock_cases (by rw [at_]; rfl) rfl (by decide) stepped⟩
  case releaseLock => exact ⟨_, lock_cases (by rw [at_]; rfl) rfl (by decide) stepped⟩
  case getTest =>
    cases stepped
    refine ⟨_, ⟨rfl, .inl ⟨rfl, by rw [at_]; split_ifs <;> rfl⟩⟩,
      .quiet rfl ?_ (by rw [at_]; decide) ?_⟩
    · split_ifs <;> decide
    · split_ifs with clear
      · exact .inl (by decide)
      · exact .inr clear
  case getWait =>
    cases stepped
    exact ⟨_, ⟨rfl, .inr (.inr ⟨by rw [at_]; rfl, rfl, rfl⟩)⟩,
      .quiet rfl (by decide) (by rw [at_]; decide) (.inl (by decide))⟩
  case getClear =>
    cases stepped
    exact ⟨_, ⟨rfl, .inl ⟨rfl, by rw [at_]; rfl⟩⟩, .clear rfl rfl at_⟩
  case getUnlock =>
    cases stepped
    exact ⟨_, ⟨rfl, .inr (.inr ⟨by rw [at_]; rfl, rfl, rfl⟩)⟩, .got rfl rfl at_⟩
  case releaseSet =>
    cases stepped
    exact ⟨_, ⟨rfl, .inl ⟨rfl, by rw [at_]; rfl⟩⟩, .set rfl rfl at_⟩
  case releaseSignal =>
    cases stepped
    exact ⟨_, ⟨rfl, .inl ⟨rfl, by rw [at_]; rfl⟩⟩,
      .quiet rfl (by decide) (by rw [at_]; decide) (.inl (by decide))⟩
  case releaseUnlock =>
    cases stepped
    exact ⟨_, ⟨rfl, .inr (.inr ⟨by rw [at_]; rfl, rfl, rfl⟩)⟩, .released rfl rfl at_⟩

/-- What any step can do. -/
theorem SyncLock.step_cases (stepped : s.step a = some (next, out)) :
    ∃ t p, s.Moves next t p ∧ s.Touches next t p out := by
  cases a with
  | statement t => exact ⟨t, statement_cases stepped⟩
  | getCondition t | releaseCondition t | wake t =>
    simp only [step] at stepped
    split_ifs at stepped with at_
    cases stepped
    exact ⟨t, _, ⟨rfl, .inl ⟨rfl, by rw [at_]; rfl⟩⟩,
      .quiet rfl (by decide) (by rw [at_]; decide) (.inl (by decide))⟩

end Steps

section Invariant

variable {τ : Type*} [DecidableEq τ] {s next : SyncLock τ} {t : τ} {p : SyncPhase}
  {history out : List (SyncEvent τ)}

theorem SyncLock.Moves.phase_self (moves : s.Moves next t p) : next.phase t = p := by
  rw [moves.1, Function.update_self]

theorem SyncLock.Moves.phase_other (moves : s.Moves next t p) {u : τ} (other : u ≠ t) :
    next.phase u = s.phase u := by
  rw [moves.1, Function.update_of_ne other]

private theorem owner_kept (locked : s.Locked) (moves : s.Moves next t p) (u : τ) :
    next.mutx = some u ↔ (next.phase u).holds = true := by
  by_cases same : u = t
  · subst same
    rw [moves.phase_self]
    rcases moves.2 with ⟨kept, holds⟩ | ⟨-, locks, holds⟩ | ⟨-, unlocks, holds⟩
    · rw [kept, holds]
      exact locked.owner u
    · rw [locks, holds]
      exact ⟨fun _ => rfl, fun _ => rfl⟩
    · rw [unlocks, holds]
      exact ⟨fun wrong => absurd wrong.symm (Option.some_ne_none u),
        fun wrong => absurd wrong (by decide)⟩
  · rw [moves.phase_other same]
    rcases moves.2 with ⟨kept, -⟩ | ⟨free, locks, -⟩ | ⟨held, unlocks, -⟩
    · rw [kept]
      exact locked.owner u
    · rw [locks, ← locked.owner u, free]
      exact ⟨fun wrong => absurd (Option.some.inj wrong).symm same,
        fun wrong => absurd wrong.symm (Option.some_ne_none u)⟩
    · rw [unlocks]
      refine ⟨fun wrong => absurd wrong.symm (Option.some_ne_none u), fun holds => ?_⟩
      exact absurd (locked.unique holds held) same

/-- While a thread holds the mutex, no other one is about to clear the flag or to complete. -/
private theorem other_phase (locked : s.Locked) (moves : s.Moves next t p)
    (held : (s.phase t).holds = true) {u : τ}
    (other : u ≠ t) : (next.phase u).holds = false := by
  rw [moves.phase_other other]
  by_contra holds
  exact other (locked.unique (by simpa using holds) held)

theorem SyncLock.Locked.kept (locked : s.Locked) (moves : s.Moves next t p)
    (touches : s.Touches next t p out) :
    next.Locked := by
  have owner := owner_kept locked moves
  cases touches with
  | quiet same target source tested =>
    refine ⟨owner, by rw [same]; exact locked.flag, fun u at_ => ?_, fun u at_ => ?_⟩
    · rw [same]
      by_cases self : u = t
      · subst self
        rw [moves.phase_self] at at_
        exact locked.flag.resolve_left (tested.resolve_left (not_not_intro at_))
      · exact locked.clearing u (moves.phase_other self ▸ at_)
    · rw [same]
      by_cases self : u = t
      · subst self
        exact absurd (moves.phase_self ▸ at_) target
      · exact locked.cleared u (moves.phase_other self ▸ at_)
  | released same target source | got same target source =>
    subst target
    refine ⟨owner, by rw [same]; exact locked.flag, fun u at_ => ?_, fun u at_ => ?_⟩
    all_goals
      rw [same]
      by_cases self : u = t
      · subst self
        rw [moves.phase_self] at at_
        cases at_
    · exact locked.clearing u (moves.phase_other self ▸ at_)
    · exact locked.cleared u (moves.phase_other self ▸ at_)
  | clear zero target source =>
    refine ⟨owner, .inl zero, fun u at_ => ?_, fun _ _ => zero⟩
    by_cases self : u = t
    · subst self
      rw [moves.phase_self, target] at at_
      cases at_
    · have free := other_phase locked moves (by rw [source]; rfl) self
      rw [at_] at free
      cases free
  | set one target source =>
    refine ⟨owner, .inr one, fun _ _ => one, fun u at_ => ?_⟩
    by_cases self : u = t
    · subst self
      rw [moves.phase_self, target] at at_
      cases at_
    · have free := other_phase locked moves (by rw [source]; rfl) self
      rw [at_] at free
      cases free

/-- A release has set the flag and no get has cleared it since. -/
def SetSinceClear (history : List (SyncEvent τ)) : Prop :=
  Available (fun e => e.isSet = true) (fun e => e.isClear = true) history

/-- A release has set the flag since the last get completed. -/
def SetSinceGot (history : List (SyncEvent τ)) : Prop :=
  Available (fun e => e.isSet = true) (fun e => e.isGot = true) history

/-- The flag as a semaphore that is taken when a get clears it, and as one that is taken when the get completes. -/
structure SyncLock.Counts (s : SyncLock τ) (history : List (SyncEvent τ)) : Prop where
  atClear : s.condtion = 1 ↔ SetSinceClear history
  atGot : (s.condtion = 1 ∨ ∃ t, s.phase t = .getUnlock) ↔ SetSinceGot history
  clears : TakenAvailable (fun e => e.isSet = true) (fun e => e.isClear = true) history
  gots : TakenAvailable (fun e => e.isSet = true) (fun e => e.isGot = true) history

omit [DecidableEq τ] in
theorem SyncLock.Counts.initial : (SyncLock.initial : SyncLock τ).Counts [] := by
  have clear : (SyncLock.initial : SyncLock τ).condtion ≠ 1 := show (0 : Int) ≠ 1 by decide
  refine ⟨⟨fun wrong => absurd wrong clear, fun since => absurd since not_since_nil⟩,
    ⟨?_, fun since => absurd since not_since_nil⟩, always_nil, always_nil⟩
  rintro (wrong | ⟨t, wrong⟩)
  · exact absurd wrong clear
  · exact absurd (show SyncPhase.idle = .getUnlock from wrong) (by decide)

omit [DecidableEq τ] in
theorem setSinceClear_concat {e : SyncEvent τ} :
    SetSinceClear (history ++ [e]) ↔
      e.isSet = true ∨ (SetSinceClear history ∧ ¬ e.isClear = true) := since_concat

omit [DecidableEq τ] in
theorem setSinceGot_concat {e : SyncEvent τ} :
    SetSinceGot (history ++ [e]) ↔ e.isSet = true ∨ (SetSinceGot history ∧ ¬ e.isGot = true) :=
  since_concat

private theorem unlocking_kept (moves : s.Moves next t p) (target : p ≠ .getUnlock)
    (source : s.phase t ≠ .getUnlock) :
    (∃ u, next.phase u = .getUnlock) ↔ ∃ u, s.phase u = .getUnlock := by
  refine exists_congr fun u => ?_
  by_cases self : u = t
  · subst self
    rw [moves.phase_self]
    exact ⟨fun wrong => absurd wrong target, fun wrong => absurd wrong source⟩
  · rw [moves.phase_other self]

theorem SyncLock.Counts.kept (counts : s.Counts history) (locked : s.Locked)
    (moves : s.Moves next t p) (touches : s.Touches next t p out) :
    next.Counts (history ++ out) := by
  cases touches with
  | quiet same target source tested =>
    rw [List.append_nil]
    exact ⟨by rw [same]; exact counts.atClear,
      by rw [same, unlocking_kept moves target source]; exact counts.atGot,
      counts.clears, counts.gots⟩
  | released same target source =>
    have unlocking := unlocking_kept moves (by rw [target]; decide) (by rw [source]; decide)
    refine ⟨?_, ?_, takenAvailable_neutral Bool.false_ne_true counts.clears,
      takenAvailable_neutral Bool.false_ne_true counts.gots⟩
    · rw [same, counts.atClear, setSinceClear_concat]
      simp [SyncEvent.isSet, SyncEvent.isClear]
    · rw [same, unlocking, counts.atGot, setSinceGot_concat]
      simp [SyncEvent.isSet, SyncEvent.isGot]
  | got same target source =>
    have zero := locked.cleared t source
    have available := counts.atGot.mp (.inr ⟨t, source⟩)
    refine ⟨?_, ?_, takenAvailable_neutral Bool.false_ne_true counts.clears,
      takenAvailable_concat.mpr ⟨counts.gots, fun _ => available⟩⟩
    · rw [same, counts.atClear, setSinceClear_concat]
      simp [SyncEvent.isSet, SyncEvent.isClear]
    · rw [setSinceGot_concat, same, zero]
      have none_ : ¬ ∃ u, next.phase u = .getUnlock := by
        rintro ⟨u, at_⟩
        by_cases self : u = t
        · subst self
          rw [moves.phase_self, target] at at_
          cases at_
        · have free := other_phase locked moves (by rw [source]; rfl) self
          rw [at_] at free
          cases free
      simp [none_, SyncEvent.isSet, SyncEvent.isGot]
  | clear zero target source =>
    have one := locked.clearing t source
    have available := counts.atGot.mp (.inl one)
    refine ⟨?_, ?_, takenAvailable_concat.mpr ⟨counts.clears, fun _ => counts.atClear.mp one⟩,
      takenAvailable_neutral Bool.false_ne_true counts.gots⟩
    · rw [zero, setSinceClear_concat]
      simp [SyncEvent.isSet, SyncEvent.isClear]
    · have unlocking : ∃ u, next.phase u = .getUnlock := ⟨t, by rw [moves.phase_self, target]⟩
      rw [setSinceGot_concat]
      simp [unlocking, available, SyncEvent.isGot]
  | set one target source =>
    refine ⟨?_, ?_, takenAvailable_neutral Bool.false_ne_true counts.clears,
      takenAvailable_neutral Bool.false_ne_true counts.gots⟩
    · rw [one, setSinceClear_concat]
      simp [SyncEvent.isSet]
    · rw [one, setSinceGot_concat]
      simp [SyncEvent.isSet]

end Invariant

section Runs

variable {τ : Type*} [DecidableEq τ] {s : SyncLock τ} {tape : List (SyncAction τ)}
    {seen : List (SyncEvent τ)}

theorem syncLock_invariant (ran : (syncLock τ).run .initial tape = some (s, seen)) :
    s.Locked ∧ s.Counts seen := by
  have kept (s : SyncLock τ) (history : List (SyncEvent τ)) (a : SyncAction τ) (next : SyncLock τ)
      (out : List (SyncEvent τ)) (inv : s.Locked ∧ s.Counts history)
      (stepped : (syncLock τ).step s a = some (next, out)) :
      next.Locked ∧ next.Counts (history ++ out) := by
    obtain ⟨t, p, moves, touches⟩ := SyncLock.step_cases stepped
    exact ⟨inv.1.kept moves touches, inv.2.kept inv.1 moves touches⟩
  exact System.run_invariant_of_step kept ⟨.initial, .initial⟩ ran

/-- The lock is a binary semaphore. Gets complete at most as often as releases set the flag, each on a release of its
own. The flag is set exactly if a release set it and no get has cleared it since, and, as long as no get stands
between its clearing and its unlock, exactly if a release set it since the last get completed. -/
theorem syncLock_binarySemaphore (ran : (syncLock τ).run .initial tape = some (s, seen)) :
    seen.countP SyncEvent.isGot ≤ seen.countP SyncEvent.isSet ∧
    (∃ serve : Nat → Nat,
      (∀ j t, seen[j]? = some (.got t) → serve j < j ∧ ∃ u, seen[serve j]? = some (.set u)) ∧
      ∀ j j' t t', seen[j]? = some (.got t) → seen[j']? = some (.got t') →
        serve j = serve j' → j = j') ∧
    (s.condtion = 0 ∨ s.condtion = 1) ∧ (s.condtion = 1 ↔ SetSinceClear seen) ∧
    ((s.condtion = 1 ∨ ∃ t, s.phase t = .getUnlock) ↔ SetSinceGot seen) ∧
    (s.mutx = none → (s.condtion = 1 ↔ SetSinceGot seen)) := by
  obtain ⟨locked, counts⟩ := syncLock_invariant ran
  have apart (e : SyncEvent τ) (set : e.isSet = true) : ¬ e.isGot = true := by
    cases e <;> simp_all [SyncEvent.isSet, SyncEvent.isGot]
  obtain ⟨serve, serves, own⟩ := counts.gots.exists_serve
  have count := countP_takes_le apart counts.gots
  simp only [Bool.decide_eq_true] at count
  refine ⟨count, ⟨serve, fun j t at_ => ?_, fun j j' t t' at_ at' same => ?_⟩, locked.flag,
    counts.atClear, counts.atGot, fun free => ?_⟩
  · obtain ⟨earlier, g, found, set⟩ := serves j _ at_ rfl
    cases g with
    | set u => exact ⟨earlier, u, found⟩
    | clear u | got u | released u => cases set
  · exact own j j' _ _ at_ rfl at' rfl same
  · have nobody : ¬ ∃ t, s.phase t = .getUnlock := by
      rintro ⟨t, at_⟩
      have owner := (locked.owner t).mpr (by rw [at_]; rfl)
      rw [free] at owner
      exact Option.some_ne_none t owner.symm
    rw [← counts.atGot, or_iff_left nobody]

/-- A get that waits, a release, and a spurious wake-up of the get before the release's signal. -/
def handover : List (SyncAction Nat) :=
  [.getCondition 0, .statement 0, .statement 0, .statement 0, .releaseCondition 1, .statement 1,
    .statement 1, .wake 0, .statement 1, .statement 1, .statement 0, .statement 0, .statement 0,
    .statement 0]

theorem syncLock_binarySemaphore_handover :
    ∃ s, (syncLock Nat).run .initial handover = some (s, [.set 1, .released 1, .clear 0, .got 0]) ∧
      s.mutx = none ∧
      s.condtion = 0 ∧ ¬ SetSinceGot [.set 1, .released 1, .clear 0, SyncEvent.got 0] := by
  have run :
      ∃ s, (syncLock Nat).run .initial handover = some (s, [.set 1, .released 1, .clear 0, .got 0]) ∧
      s.mutx = none ∧ s.condtion = 0 := ⟨_, rfl, rfl, rfl⟩
  obtain ⟨s, ran, free, zero⟩ := run
  refine ⟨s, ran, free, zero, fun set => ?_⟩
  have one := ((syncLock_binarySemaphore ran).2.2.2.2.2 free).mpr set
  rw [zero] at one
  exact absurd one (by decide)

end Runs

end Mt6582.Gps

import Mt6582.Machine.History

/-! # Labelled systems, finite runs and their invariant rules

A system either refuses an action or moves its state and emits observations in order. A run is a
tape of accepted actions; its history is the concatenation of everything observed. The rules below
reduce a fact about every state and history of a run to one step. `Permitted` restricts attention
to runs whose actions all meet a condition on the state and history in which they are taken.
-/

namespace Mt6582.Machine

/-- `step s a` is `none` when the action `a` is not enabled in `s`. -/
structure System (σ α ω : Type*) where
  step : σ → α → Option (σ × List ω)

namespace System

variable {σ α ω : Type*} (m : System σ α ω)

/-- Execute a tape of actions, collecting the observations in order. -/
def run : σ → List α → Option (σ × List ω)
  | s, [] => some (s, [])
  | s, a :: rest =>
      (m.step s a).bind fun next => (run next.1 rest).map fun last => (last.1, next.2 ++ last.2)

/-- Every action of the tape meets `guard` in the state and history where it is taken. -/
def Permitted (guard : σ → List ω → α → Prop) : σ → List ω → List α → Prop
  | _, _, [] => True
  | s, history, a :: rest => guard s history a ∧
      ∀ next out, m.step s a = some (next, out) → Permitted guard next (history ++ out) rest

variable {m}

@[simp] theorem run_nil (s : σ) : m.run s [] = some (s, []) := rfl

theorem run_cons_iff {s t : σ} {a : α} {rest : List α} {trace : List ω} :
    m.run s (a :: rest) = some (t, trace) ↔ ∃ next out later,
      m.step s a = some (next, out) ∧ m.run next rest = some (t, later) ∧ trace = out ++ later := by
  constructor
  · intro success
    obtain ⟨⟨next, out⟩, stepped, success⟩ := Option.bind_eq_some_iff.mp success
    obtain ⟨⟨last, later⟩, ran, equal⟩ := Option.map_eq_some_iff.mp success
    cases equal
    exact ⟨next, out, later, stepped, ran, rfl⟩
  · rintro ⟨next, out, later, stepped, ran, rfl⟩
    simp only [run, stepped, Option.bind_some, ran, Option.map_some]

/-- Runs compose at their shared state, and their histories concatenate. -/
theorem run_append {s middle t : σ} {first second : List α} {left right : List ω}
    (before : m.run s first = some (middle, left)) (after : m.run middle second = some (t, right)) :
    m.run s (first ++ second) = some (t, left ++ right) := by
  induction first generalizing s left with
  | nil => cases before; exact after
  | cons a rest ih =>
    obtain ⟨next, out, later, stepped, ran, rfl⟩ := run_cons_iff.mp before
    exact run_cons_iff.mpr ⟨next, out, later ++ right, stepped, ih ran, List.append_assoc ..⟩

theorem run_append_iff {s t : σ} {first second : List α} {trace : List ω} :
    m.run s (first ++ second) = some (t, trace) ↔ ∃ middle left right,
      m.run s first = some (middle, left) ∧ m.run middle second = some (t, right) ∧ trace = left ++ right := by
  constructor
  · intro ran
    induction first generalizing s trace with
    | nil => exact ⟨s, [], trace, rfl, ran, rfl⟩
    | cons a rest ih =>
      obtain ⟨next, out, later, stepped, tail, rfl⟩ := run_cons_iff.mp ran
      obtain ⟨middle, left, right, before, after, rfl⟩ := ih tail
      exact ⟨middle, out ++ left, right, run_cons_iff.mpr ⟨next, out, left, stepped, before, rfl⟩, after,
        (List.append_assoc ..).symm⟩
  · rintro ⟨middle, left, right, before, after, rfl⟩
    exact run_append before after

/-- A property of state and history kept by every permitted step survives every permitted run. -/
theorem run_invariant {guard : σ → List ω → α → Prop} {Inv : σ → List ω → Prop}
    (kept : ∀ s history a next out, Inv s history → guard s history a →
      m.step s a = some (next, out) → Inv next (history ++ out))
    {s t : σ} {history trace : List ω} {tape : List α} (initial : Inv s history)
    (permitted : m.Permitted guard s history tape) (ran : m.run s tape = some (t, trace)) :
    Inv t (history ++ trace) := by
  induction tape generalizing s history trace with
  | nil => cases ran; simpa only [List.append_nil] using initial
  | cons a rest ih =>
    obtain ⟨next, out, later, stepped, rest, rfl⟩ := run_cons_iff.mp ran
    have tail := ih (kept _ _ _ _ _ initial permitted.1 stepped) (permitted.2 _ _ stepped) rest
    simpa only [List.append_assoc] using tail

theorem permitted_cons_iff {guard : σ → List ω → α → Prop} {s : σ} {history : List ω} {a : α}
    {rest : List α} :
    m.Permitted guard s history (a :: rest) ↔
      guard s history a ∧ ∀ next ∈ m.step s a,
      m.Permitted guard next.1 (history ++ next.2) rest := by
  constructor
  · rintro ⟨here, later⟩
    exact ⟨here, fun next stepped => later next.1 next.2 stepped⟩
  · rintro ⟨here, later⟩
    exact ⟨here, fun next out stepped => later (next, out) stepped⟩

instance decidablePermitted {guard : σ → List ω → α → Prop} [∀ s history a, Decidable (guard s history a)] :
    ∀ (s : σ) (history : List ω) (tape : List α), Decidable (m.Permitted guard s history tape)
  | _, _, [] => .isTrue trivial
  | s, history, a :: rest =>
      have (next : σ × List ω) : Decidable (m.Permitted guard next.1 (history ++ next.2) rest) :=
        decidablePermitted next.1 (history ++ next.2) rest
      decidable_of_iff' (guard s history a ∧ ∀ next ∈ m.step s a, m.Permitted guard next.1 (history ++ next.2) rest)
        permitted_cons_iff

/-- Without a condition on the actions, every tape is permitted. -/
theorem permitted_true (s : σ) (history : List ω) (tape : List α) :
    m.Permitted (fun _ _ _ => True) s history tape := by
  induction tape generalizing s history with
  | nil => trivial
  | cons a rest ih => exact ⟨trivial, fun next out _ => ih next (history ++ out)⟩

/-- The unconditional form: an invariant of every step is an invariant of every run. -/
theorem run_invariant_of_step {Inv : σ → List ω → Prop}
    (kept : ∀ s history a next out, Inv s history →
      m.step s a = some (next, out) → Inv next (history ++ out))
    {s t : σ} {history trace : List ω} {tape : List α} (initial : Inv s history)
    (ran : m.run s tape = some (t, trace)) : Inv t (history ++ trace) :=
  run_invariant (fun s history a next out inv _ stepped => kept s history a next out inv stepped)
    initial (permitted_true s history tape) ran

/-- A system that answers every action alike in all states of an invariant answers a tape action by action. -/
theorem run_answers {Inv : σ → Prop} {answer : α → ω}
    (kept : ∀ s a, Inv s → ∃ next, m.step s a = some (next, [answer a]) ∧ Inv next)
    {s : σ} (initial : Inv s) (tape : List α) :
    ∃ t, m.run s tape = some (t, tape.map answer) ∧ Inv t := by
  induction tape generalizing s with
  | nil => exact ⟨s, rfl, initial⟩
  | cons a rest ih =>
    obtain ⟨next, stepped, inv⟩ := kept s a initial
    obtain ⟨t, ran, last⟩ := ih inv
    exact ⟨t, run_cons_iff.mpr ⟨next, _, _, stepped, ran, rfl⟩, last⟩

/-- A run satisfies a state predicate throughout: in every state it passes, both ends included. -/
def Throughout (m : System σ α ω) (safe : σ → Prop) (s : σ) (tape : List α) : Prop :=
  ∀ first rest middle seen, tape = first ++ rest → m.run s first = some (middle, seen) → safe middle

theorem throughout_nil {safe : σ → Prop} {s : σ} : m.Throughout safe s [] ↔ safe s := by
  constructor
  · exact fun all => all [] [] s [] rfl rfl
  · rintro here first rest middle seen split ran
    obtain ⟨rfl, rfl⟩ := List.append_eq_nil_iff.mp split.symm
    cases ran
    exact here

theorem throughout_cons {safe : σ → Prop} {s next : σ} {a : α} {rest : List α} {out : List ω}
    (stepped : m.step s a = some (next, out)) :
    m.Throughout safe s (a :: rest) ↔ safe s ∧ m.Throughout safe next rest := by
  constructor
  · intro all
    refine ⟨all [] _ s [] rfl rfl, fun first later middle seen split ran => ?_⟩
    exact all (a :: first) later middle (out ++ seen) (by rw [split, List.cons_append])
      (run_cons_iff.mpr ⟨next, out, seen, stepped, ran, rfl⟩)
  · rintro ⟨here, there⟩ first later middle seen split ran
    cases first with
    | nil => cases ran; exact here
    | cons b first =>
      obtain ⟨rfl, tail⟩ := List.cons.inj split
      obtain ⟨other, out', later', stepped', ran, -⟩ := run_cons_iff.mp ran
      cases stepped.symm.trans stepped'
      exact there first later middle later' tail ran

/-- When a step is permitted exactly if it reaches a safe state with good observations, a run is
permitted exactly if it is safe and good as a whole. -/
theorem run_permitted_iff {guard : σ → List ω → α → Prop} {Inv : σ → List ω → Prop}
    {safe : σ → Prop} {good : List ω → ω → Prop} (safeOf : ∀ s history, Inv s history → safe s)
    (kept : ∀ s history a next out, Inv s history → guard s history a →
      m.step s a = some (next, out) → Inv next (history ++ out))
    (exactly : ∀ s history a next out, Inv s history → m.step s a = some (next, out) →
      (guard s history a ↔ safe next ∧ Always good history out))
    {s t : σ} {history trace : List ω} {tape : List α} (initial : Inv s history)
    (ran : m.run s tape = some (t, trace)) :
    m.Permitted guard s history tape ↔ m.Throughout safe s tape ∧ Always good history trace := by
  induction tape generalizing s history trace with
  | nil =>
    cases ran
    simp only [Permitted, throughout_nil, safeOf _ history initial, always_nil, and_self]
  | cons a rest ih =>
    obtain ⟨next, out, later, stepped, tailRan, rfl⟩ := run_cons_iff.mp ran
    have local_ := exactly s history a next out initial stepped
    rw [throughout_cons stepped, always_append]
    constructor
    · rintro ⟨allowed, tail⟩
      have parts :=
        (ih (kept s history a next out initial allowed stepped) tailRan).mp (tail next out stepped)
      exact ⟨⟨safeOf s history initial, parts.1⟩, (local_.mp allowed).2, parts.2⟩
    · rintro ⟨⟨-, safeTail⟩, goodHere, goodTail⟩
      have allowed := local_.mpr ⟨safeTail [] rest next [] rfl rfl, goodHere⟩
      refine ⟨allowed, fun next' out' stepped' => ?_⟩
      cases stepped.symm.trans stepped'
      exact (ih (kept s history a next out initial allowed stepped) tailRan).mpr ⟨safeTail, goodTail⟩

/-- `guard` decides `good`: every permitted run is good, and a step that is not permitted can be
continued to a run that is not. -/
def Decides (m : System σ α ω) (guard : σ → List ω → α → Prop) (good : σ → List ω → Prop) (s : σ) : Prop :=
  ∀ tape t trace, m.run s tape = some (t, trace) → m.Permitted guard s [] tape → good t trace ∧
    ∀ a next out, m.step t a = some (next, out) → ¬ guard t trace a →
      ∃ more u later, m.run next more = some (u, later) ∧ ¬ good u (trace ++ out ++ later)

theorem decides_of_invariant {guard : σ → List ω → α → Prop} {good : σ → List ω → Prop}
    (Inv : σ → List ω → Prop) (goodOf : ∀ s history, Inv s history → good s history)
    (kept : ∀ s history a next out, Inv s history → guard s history a →
      m.step s a = some (next, out) → Inv next (history ++ out))
    (broken : ∀ s history a next out, Inv s history → m.step s a = some (next, out) → ¬ guard s history a →
      ∃ more u later, m.run next more = some (u, later) ∧ ¬ good u (history ++ out ++ later))
    {s : σ} (initial : Inv s []) : m.Decides guard good s := by
  intro tape t trace ran permitted
  have inv : Inv t trace := by simpa using run_invariant kept initial permitted ran
  exact ⟨goodOf t trace inv,
    fun a next out stepped refused => broken t trace a next out inv stepped refused⟩

end System

end Mt6582.Machine

import Mt6582.Machine.System

/-! # Forward simulation and progress

A simulation carries every run of a system to a run of a more abstract one that shows the same
observations. A measure of the work left bounds what a run can do, and where an action that lowers it is
enabled in every state that is not settled, a settled state is reached.
-/

namespace Mt6582.Machine.System

variable {σ α ω σ' α' : Type*} {low : System σ α ω} {high : System σ' α' ω} {R : σ → σ' → Prop}

/-- A step of `low` is answered by a run of `high` with the same observations. -/
def Simulates (low : System σ α ω) (high : System σ' α' ω) (R : σ → σ' → Prop) : Prop :=
  ∀ ⦃s s' a next out⦄, R s s' → low.step s a = some (next, out) →
    ∃ tape next', high.run s' tape = some (next', out) ∧ R next next'

theorem Simulates.run (simulates : low.Simulates high R) {s t : σ} {s' : σ'} {tape : List α}
    {trace : List ω} (related : R s s') (ran : low.run s tape = some (t, trace)) :
    ∃ tape' t', high.run s' tape' = some (t', trace) ∧ R t t' := by
  induction tape generalizing s s' trace with
  | nil =>
    cases ran
    exact ⟨[], s', rfl, related⟩
  | cons a rest ih =>
    obtain ⟨next, out, later, stepped, tail, rfl⟩ := run_cons_iff.mp ran
    obtain ⟨first, next', answered, related⟩ := simulates related stepped
    obtain ⟨second, t', answeredRest, related⟩ := ih related tail
    exact ⟨first ++ second, t', run_append answered answeredRest, related⟩

/-- Related states accept the same actions, with the same observations. -/
def LockStep (low : System σ α ω) (high : System σ' α ω) (R : σ → σ' → Prop) : Prop :=
  ∀ ⦃s s'⦄ (a : α), R s s' →
    Option.Rel (fun next next' => R next.1 next'.1 ∧ next.2 = next'.2) (low.step s a) (high.step s' a)

theorem LockStep.run {low : System σ α ω} {high : System σ' α ω} {R : σ → σ' → Prop}
    (lockStep : low.LockStep high R) {s : σ} {s' : σ'} (related : R s s') (tape : List α) :
    Option.Rel (fun last last' => R last.1 last'.1 ∧ last.2 = last'.2) (low.run s tape) (high.run s' tape) := by
  induction tape generalizing s s' with
  | nil => exact .some ⟨related, rfl⟩
  | cons a rest ih =>
    have stepped := lockStep a related
    rw [System.run, System.run]
    generalize low.step s a = here at stepped ⊢
    generalize high.step s' a = there at stepped ⊢
    cases stepped with
    | none => exact .none
    | @some next next' both =>
      have ran := ih both.1
      rw [Option.bind_some, Option.bind_some]
      generalize low.run next.1 rest = first at ran ⊢
      generalize high.run next'.1 rest = second at ran ⊢
      cases ran with
      | none => exact .none
      | some final => exact .some ⟨final.1, by simp only [both.2, final.2]⟩

theorem LockStep.observations {low : System σ α ω} {high : System σ' α ω} {R : σ → σ' → Prop}
    (lockStep : low.LockStep high R) {s : σ} {s' : σ'} (related : R s s') (tape : List α) :
    (low.run s tape).map Prod.snd = (high.run s' tape).map Prod.snd := by
  have ran := lockStep.run related tape
  generalize low.run s tape = first at ran ⊢
  generalize high.run s' tape = second at ran ⊢
  cases ran with
  | none => rfl
  | some final => exact congrArg some final.2

/-- The sum of a weight over a tape. -/
def total (weight : α → Nat) : List α → Nat
  | [] => 0
  | a :: rest => weight a + total weight rest

theorem total_eq_countP (own : α → Bool) (tape : List α) :
    total (fun a => (own a).toNat) tape = tape.countP own := by
  induction tape with
  | nil => rfl
  | cons a rest ih =>
    rw [total, ih, List.countP_cons]
    cases own a
    · exact Nat.zero_add _
    · exact Nat.add_comm _ _

section Progress

variable {m : System σ α ω} {Inv settled : σ → Prop} {own : α → Prop} {work : σ → Nat} {s t : σ}
  {tape : List α} {trace : List ω}

/-- A run costs no more than the work it starts from and the work its actions add. -/
theorem run_cost_le {cost grant : α → Nat}
    (paid : ∀ s a next out, Inv s → m.step s a = some (next, out) →
      Inv next ∧ work next + cost a ≤ work s + grant a)
    (initial : Inv s) (ran : m.run s tape = some (t, trace)) :
    Inv t ∧ work t + total cost tape ≤ work s + total grant tape := by
  induction tape generalizing s trace with
  | nil =>
    cases ran
    exact ⟨initial, Nat.le_refl _⟩
  | cons a rest ih =>
    obtain ⟨next, out, later, stepped, tail, rfl⟩ := run_cons_iff.mp ran
    obtain ⟨inv, here⟩ := paid s a next out initial stepped
    obtain ⟨last, bounded⟩ := ih inv tail
    refine ⟨last, ?_⟩
    rw [total, total]
    omega

/-- Where an action that lowers the work is enabled unless the state is settled, a settled state is
reached. -/
theorem exists_run_settled
    (lowered : ∀ s a next out, Inv s → own a → m.step s a = some (next, out) →
      Inv next ∧ work next < work s)
    (moves : ∀ s, Inv s → ¬ settled s → ∃ a next out, own a ∧ m.step s a = some (next, out))
    (initial : Inv s) :
    ∃ tape t trace, (∀ a ∈ tape, own a) ∧ m.run s tape = some (t, trace) ∧ settled t := by
  induction size : work s using Nat.strongRecOn generalizing s with
  | _ size ih =>
    rcases Classical.em (settled s) with done | unsettled
    · exact ⟨[], s, [], nofun, rfl, done⟩
    obtain ⟨a, next, out, owned, stepped⟩ := moves s initial unsettled
    obtain ⟨inv, lower⟩ := lowered s a next out initial owned stepped
    obtain ⟨tape, t, trace, ownedRest, ran, done⟩ := ih _ (by omega) inv rfl
    exact ⟨a :: tape, t, out ++ trace, List.forall_mem_cons.mpr ⟨owned, ownedRest⟩,
      run_cons_iff.mpr ⟨next, out, trace, stepped, ran, rfl⟩, done⟩

end Progress

end Mt6582.Machine.System

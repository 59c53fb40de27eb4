import Mathlib.Data.List.Basic

/-! # Computations that record what they do

A traced computation has a value and the list of what it recorded on the way. Its value is computed as
without the recording, and a property of all records is a conjunction along its sequential steps, each
taken at the values that were computed before it.
-/

namespace Mt6582.Machine

variable {ω α β : Type}

structure Traced (ω α : Type) where
  value : α
  log : List ω

namespace Traced

instance : Monad (Traced ω) where
  pure a := ⟨a, []⟩
  bind x f := ⟨(f x.value).value, x.log ++ (f x.value).log⟩

def record (e : ω) : Traced ω Unit := ⟨(), [e]⟩

/-- Everything recorded is good. -/
def All (good : ω → Prop) (x : Traced ω α) : Prop := ∀ e ∈ x.log, good e

@[simp] theorem value_pure (a : α) : (pure a : Traced ω α).value = a := (rfl)

@[simp] theorem value_bind (x : Traced ω α) (f : α → Traced ω β) :
    (x >>= f).value = (f x.value).value := (rfl)

@[simp] theorem value_ite (p : Prop) [Decidable p] (x y : Traced ω α) :
    (if p then x else y).value = if p then x.value else y.value := by
  split <;> rfl

theorem value_foldlM (f : β → α → Traced ω β) (l : List α) (b : β) :
    (l.foldlM f b).value = l.foldl (fun b a => (f b a).value) b := by
  induction l generalizing b with
  | nil => rfl
  | cons a l ih =>
    rw [List.foldlM_cons, value_bind, ih]
    rfl

section All

variable {good : ω → Prop}

@[simp] theorem all_pure (a : α) : All good (pure a : Traced ω α) := by
  intro e member
  cases member

@[simp] theorem all_record (e : ω) : All good (record e) ↔ good e := by
  simp [All, record]

@[simp] theorem all_bind (x : Traced ω α) (f : α → Traced ω β) :
    All good (x >>= f) ↔ All good x ∧ All good (f x.value) := by
  simp only [All, bind, List.mem_append, or_imp, forall_and]

theorem all_ite (p : Prop) [Decidable p] (x y : Traced ω α) :
    All good (if p then x else y) ↔ (p → All good x) ∧ (¬ p → All good y) := by
  split <;> simp_all

/-- A computation followed by another one is good if both are, whatever the first one's value. -/
theorem All.bind {x : Traced ω α} {f : α → Traced ω β} (first : All good x)
    (second : ∀ a, All good (f a)) :
    All good (x >>= f) := (all_bind x f).mpr ⟨first, second x.value⟩

theorem All.ite {p : Prop} [Decidable p] {x y : Traced ω α} (left : p → All good x)
    (right : ¬ p → All good y) :
    All good (if p then x else y) := (all_ite p x y).mpr ⟨left, right⟩

end All

end Traced

end Mt6582.Machine

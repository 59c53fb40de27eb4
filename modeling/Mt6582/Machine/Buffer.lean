import Mathlib.Data.List.TakeDrop
import Mathlib.Tactic.Common

/-! # Memory objects with checked accesses

An object is the list of its elements. `load` and `store` name the range they touch; a range that
does not lie inside the object stops the computation with the access that did not, since nothing is
known about what happens after it. A block copy is a `load` from one object and a `store` to another.
-/

namespace Mt6582.Machine

/-- The elements `start, …, start + count - 1` of an object with `size` elements. -/
structure Access where
  start : Int
  count : Nat
  size : Nat
deriving DecidableEq, Repr

def Access.Inside (access : Access) : Prop :=
  0 ≤ access.start ∧ access.start + access.count ≤ access.size

instance (access : Access) : Decidable access.Inside :=
  inferInstanceAs (Decidable (_ ∧ _))

variable {α : Type*}

/-- The object with `values` in place of what stood from `start` on. -/
def overwrite (object : List α) (start : Nat) (values : List α) : List α :=
  object.take start ++ values ++ object.drop (start + values.length)

def load (object : List α) (start : Int) (count : Nat) : Except Access (List α) :=
  if Access.Inside ⟨start, count, object.length⟩ then
    .ok ((object.drop start.toNat).take count)
  else .error ⟨start, count, object.length⟩

def store (object : List α) (start : Int) (values : List α) : Except Access (List α) :=
  if Access.Inside ⟨start, values.length, object.length⟩ then .ok (overwrite object start.toNat values)
  else .error ⟨start, values.length, object.length⟩

/-- A sequence goes through when both of its parts do. -/
theorem bind_eq_ok_iff {ε β γ : Type} {first : Except ε β} {second : β → Except ε γ} {result : γ} :
    first >>= second = .ok result ↔ ∃ middle, first = .ok middle ∧ second middle = .ok result := by
  cases first with
  | error fault =>
    constructor
    · intro success
      cases success
    · rintro ⟨middle, success, -⟩
      cases success
  | ok middle =>
    constructor
    · intro success
      exact ⟨middle, rfl, success⟩
    · rintro ⟨_, equal, success⟩
      cases equal
      exact success

theorem ok_bind {ε β γ : Type} (result : β) (next : β → Except ε γ) :
    Except.ok result >>= next = next result := rfl

theorem load_eq_ok_iff {object values : List α} {start : Int} {count : Nat} :
    load object start count = .ok values ↔ Access.Inside ⟨start, count, object.length⟩ ∧
      values = (object.drop start.toNat).take count := by
  rw [load]
  split <;> simp_all [eq_comm]

theorem store_eq_ok_iff {object values next : List α} {start : Int} :
    store object start values = .ok next ↔ Access.Inside ⟨start, values.length, object.length⟩ ∧
      next = overwrite object start.toNat values := by
  rw [store]
  split <;> simp_all [eq_comm]

theorem load_natCast_iff {object values : List α} {start count : Nat} :
    load object start count = .ok values ↔
      start + count ≤ object.length ∧ values = (object.drop start).take count := by
  rw [load_eq_ok_iff, Int.toNat_natCast]
  apply and_congr_left'
  simp only [Access.Inside]
  omega

theorem store_natCast_iff {object values next : List α} {start : Nat} :
    store object start values = .ok next ↔
      start + values.length ≤ object.length ∧ next = overwrite object start values := by
  rw [store_eq_ok_iff, Int.toNat_natCast]
  apply and_congr_left'
  simp only [Access.Inside]
  omega

theorem load_zero_iff {object values : List α} {count : Nat} :
    load object 0 count = .ok values ↔ count ≤ object.length ∧ values = object.take count := by
  have start := @load_natCast_iff α object values 0 count
  rwa [Nat.zero_add, List.drop_zero] at start

theorem store_zero_iff {object values next : List α} :
    store object 0 values = .ok next ↔
      values.length ≤ object.length ∧ next = overwrite object 0 values := by
  have start := @store_natCast_iff α object values next 0
  rwa [Nat.zero_add] at start

theorem overwrite_length {object values : List α} {start : Nat}
    (room : start + values.length ≤ object.length) :
    (overwrite object start values).length = object.length := by
  simp only [overwrite, List.length_append, List.length_take, List.length_drop]
  omega

/-- Writing two pieces one after the other writes their concatenation. -/
theorem overwrite_overwrite {object first second : List α} {start : Nat}
    (room : start ≤ object.length) :
    overwrite (overwrite object start first) (start + first.length) second =
      overwrite object start (first ++ second) := by
  have boundary : (object.take start ++ first).length = start + first.length := by
    rw [List.length_append, List.length_take_of_le room]
  unfold overwrite
  rw [← boundary, List.take_left, ← List.drop_drop, List.drop_left, List.drop_drop,
    List.append_assoc _ first, List.length_append, Nat.add_assoc, List.length_append,
    List.length_take_of_le room]

/-- A store over the whole object. -/
theorem overwrite_whole {object values : List α} (same : values.length = object.length) :
    overwrite object 0 values = values := by
  simp [overwrite, same]

/-- Two single elements stored one after the other, before anything else happens. -/
theorem store_store_iff {α β : Type} {object : List α} {start : Nat} {first second : α}
    {rest : List α → Except Access β} {result : β} :
    (do
      let object ← store object start [first]
      let object ← store object (start + 1 : Nat) [second]
      rest object) = .ok result ↔
      start + 2 ≤ object.length ∧ rest (overwrite object start [first, second]) = .ok result := by
  have both (room : start ≤ object.length) :
      overwrite (overwrite object start [first]) (start + 1) [second] =
        overwrite object start [first, second] :=
    overwrite_overwrite room
  simp only [bind_eq_ok_iff, store_natCast_iff]
  constructor
  · rintro ⟨middle, ⟨room, rfl⟩, last, ⟨next, rfl⟩, ran⟩
    rw [overwrite_length room, List.length_singleton] at next
    rw [both (by omega)] at ran
    exact ⟨next, ran⟩
  · rintro ⟨room, ran⟩
    have one : start + [first].length ≤ object.length := by rw [List.length_singleton]; omega
    refine ⟨_, ⟨one, rfl⟩, _, ⟨?_, rfl⟩, ?_⟩
    · rw [overwrite_length one, List.length_singleton]
      exact room
    · rw [both (by omega)]
      exact ran

/-- What was written is found where it was written. -/
theorem drop_overwrite {object values : List α} {start : Nat} (room : start ≤ object.length) :
    (overwrite object start values).drop start = values ++ object.drop (start + values.length) := by
  have boundary := List.length_take_of_le room
  rw [overwrite]
  rw [List.append_assoc]
  exact List.drop_left' boundary

/-- What stood before the place is still there. -/
theorem take_overwrite {object values : List α} {start count : Nat} (before : count ≤ start)
    (room : start ≤ object.length) :
    (overwrite object start values).take count = object.take count := by
  have boundary := List.length_take_of_le room
  rw [overwrite, List.append_assoc, List.take_append_of_le_length (by omega), List.take_take,
    Nat.min_eq_left before]

theorem take_overwrite_zero {object values : List α} :
    (overwrite object 0 values).take values.length = values := by
  rw [overwrite, List.take_zero, List.nil_append, List.take_left]

/-- A single element replaced in the middle of an object. -/
theorem overwrite_middle (before after : List α) (old new : α) :
    overwrite (before ++ old :: after) before.length [new] = before ++ new :: after := by
  simp [overwrite, List.drop_append]

/-- An object made of parts of one size. -/
theorem length_flatMap_const {β : Type*} {part : β → List α} {size : Nat}
    (same : ∀ element, (part element).length = size) (elements : List β) :
    (elements.flatMap part).length = size * elements.length := by
  induction elements with
  | nil => rfl
  | cons element elements ih =>
    rw [List.flatMap_cons, List.length_append, ih, same, List.length_cons, Nat.mul_succ,
      Nat.add_comm]

end Mt6582.Machine

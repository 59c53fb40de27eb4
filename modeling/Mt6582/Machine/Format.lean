import Mathlib.Data.List.Basic
import Mathlib.Logic.Function.Basic

/-! # Formats

A format lays out the values of a type as symbols, and carries the proof that each value is read back whatever
follows it. Formats are put together so that the proof comes along: one after the other, and with a tag in front
that says how the rest is laid out.
-/

namespace Mt6582.Machine

/-- A layout with its reader. -/
structure Format (α β : Type*) where
  encode : α → List β
  decode : List β → Option (α × List β)
  decode_encode : ∀ a rest, decode (encode a ++ rest) = some (a, rest)

namespace Format

universe u v w

variable {α τ : Type u} {β : Type v} {γ : α → Type w}

/-- Nothing to lay out. -/
def unit : Format PUnit.{u + 1} β where
  encode _ := []
  decode symbols := some (⟨⟩, symbols)
  decode_encode _ _ := rfl

/-- A value, and then one that is laid out as the first says. -/
def sigma (first : Format α β) (second : (a : α) → Format (γ a) β) : Format ((a : α) × γ a) β where
  encode value := first.encode value.1 ++ (second value.1).encode value.2
  decode symbols :=
    (first.decode symbols).bind fun got =>
      ((second got.1).decode got.2).map fun rest => (⟨got.1, rest.1⟩, rest.2)
  decode_encode value rest := by
    rw [List.append_assoc, first.decode_encode, Option.bind_some, (second value.1).decode_encode]
    rfl

/-- Two values, one after the other. -/
def seq {γ : Type w} (first : Format α β) (second : Format γ β) : Format (α × γ) β where
  encode value := first.encode value.1 ++ second.encode value.2
  decode symbols :=
    (first.decode symbols).bind fun got => (second.decode got.2).map fun rest => ((got.1, rest.1), rest.2)
  decode_encode value rest := by
    rw [List.append_assoc, first.decode_encode, Option.bind_some, second.decode_encode]
    rfl

/-- The values of another type under the codes that tell them apart. -/
def coded (format : Format α β) (code : τ → α) (read : α → Option τ) (reads : ∀ t, read (code t) = some t) :
    Format τ β where
  encode t := format.encode (code t)
  decode symbols := (format.decode symbols).bind fun got => (read got.1).map fun t => (t, got.2)
  decode_encode t rest := by
    rw [format.decode_encode, Option.bind_some, reads]
    rfl

end Format

end Mt6582.Machine

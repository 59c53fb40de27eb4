import Mathlib.Logic.Basic

/-! # While loops

`While guard body s t` says that `while (guard) body`, entered in `s`, stops in `t`. A loop that does
not stop relates its entry to nothing. Entries have one stop at most, and what every round keeps holds
at the stop.
-/

namespace Mt6582.Machine

variable {σ : Type*} {guard : σ → Prop} {body : σ → σ}

inductive While (guard : σ → Prop) (body : σ → σ) : σ → σ → Prop
  | exit {s : σ} (left : ¬ guard s) : While guard body s s
  | round {s t : σ} (entered : guard s) (rest : While guard body (body s) t) : While guard body s t

namespace While

theorem unique {s t u : σ} (first : While guard body s t) (second : While guard body s u) :
    t = u := by
  induction first with
  | exit left =>
    cases second with
    | exit _ => rfl
    | round entered _ => exact absurd entered left
  | round entered _ ih =>
    cases second with
    | exit left => exact absurd entered left
    | round _ rest => exact ih rest

/-- The rule of the loop invariant. -/
theorem invariant {Inv : σ → Prop} (kept : ∀ s, Inv s → guard s → Inv (body s)) {s t : σ}
    (stops : While guard body s t) (initial : Inv s) : Inv t ∧ ¬ guard t := by
  induction stops with
  | exit left => exact ⟨initial, left⟩
  | round entered _ ih => exact ih (kept _ initial entered)

end While

end Mt6582.Machine

import Mathlib.Data.List.Basic

/-! # Retry loops

A loop asks its environment until an answer concludes the result. An answer may also be worth another
round, free of charge or on a budget; an answer that would need more than the budget concludes the result
after all. The loop is given the answers it meets, and does not end when they are used up before.
-/

namespace Mt6582.Machine

/-- What a loop makes of an answer. -/
inductive Verdict (β : Type*) where
  | done (result : β)
  | again
  | charged (otherwise : β)

variable {ε α β : Type*} (judge : ε → α → ε × Verdict β)

/-- The loop with its budget and the state it keeps between answers; the result comes with that state and the
answers that were not asked for. -/
def retry : Nat → ε → List α → Option (β × ε × List α)
  | _, _, [] => none
  | budget, e, a :: rest =>
      match judge e a with
      | (e', .done result) => some (result, e', rest)
      | (e', .again) => retry budget e' rest
      | (e', .charged otherwise) =>
          match budget with
          | 0 => some (otherwise, e', rest)
          | budget + 1 => retry budget e' rest

/-- The loop goes on with all these answers. -/
inductive Waits : Nat → ε → List α → Nat → ε → Prop
  | nil {budget : Nat} {e : ε} : Waits budget e [] budget e
  | again {budget left : Nat} {e e' last : ε} {a : α} {rest : List α}
      (judged : judge e a = (e', .again)) (later : Waits budget e' rest left last) :
      Waits budget e (a :: rest) left last
  | charged {budget left : Nat} {e e' last : ε} {a : α} {otherwise : β} {rest : List α}
      (judged : judge e a = (e', .charged otherwise)) (later : Waits budget e' rest left last) :
      Waits (budget + 1) e (a :: rest) left last

/-- The answer concludes the result. -/
def Concludes (left : Nat) (e : ε) (a : α) (result : β) (e' : ε) : Prop :=
  judge e a = (e', .done result) ∨ judge e a = (e', .charged result) ∧ left = 0

variable {judge} {budget left : Nat} {e last : ε} {answers rest : List α} {result : β}

theorem Waits.retry_append (waits : Waits judge budget e answers left last) (more : List α) :
    retry judge budget e (answers ++ more) = retry judge left last more := by
  induction waits with
  | nil => rfl
  | again judged later ih => rw [List.cons_append, retry, judged]; exact ih
  | charged judged later ih => rw [List.cons_append, retry, judged]; exact ih

theorem retry_of_concludes {a : α} (concludes : Concludes judge left e a result last) :
    retry judge left e (a :: rest) = some (result, last, rest) := by
  rcases concludes with judged | ⟨judged, rfl⟩ <;> rw [retry, judged]

/-- Either all answers are waited through, or one decides. -/
theorem waits_or_concludes (judge : ε → α → ε × Verdict β) (budget : Nat) (e : ε) (answers : List α) :
    (∃ left last, Waits judge budget e answers left last) ∨
      ∃ before a after left e' result last, answers = before ++ a :: after ∧
        Waits judge budget e before left e' ∧ Concludes judge left e' a result last := by
  induction answers generalizing budget e with
  | nil => exact .inl ⟨budget, e, .nil⟩
  | cons a rest ih =>
    rcases judged : judge e a with ⟨e', verdict⟩
    cases verdict with
    | done result => exact .inr ⟨[], a, rest, budget, e, result, e', rfl, .nil, .inl judged⟩
    | again =>
      rcases ih budget e' with ⟨left, last, waits⟩ | ⟨before, b, after, left, f, result, last, rfl, waits, concludes⟩
      · exact .inl ⟨left, last, .again judged waits⟩
      · exact .inr ⟨a :: before, b, after, left, f, result, last, rfl, .again judged waits, concludes⟩
    | charged otherwise =>
      cases budget with
      | zero => exact .inr ⟨[], a, rest, 0, e, otherwise, e', rfl, .nil, .inr ⟨judged, rfl⟩⟩
      | succ budget =>
        rcases ih budget e' with ⟨left, last, waits⟩ | ⟨before, b, after, left, f, result, last, rfl, waits, concludes⟩
        · exact .inl ⟨left, last, .charged judged waits⟩
        · exact .inr ⟨a :: before, b, after, left, f, result, last, rfl, .charged judged waits, concludes⟩

/-- The loop ends with a result exactly if its answers are ones it waits through and one that decides. -/
theorem retry_eq_some_iff :
    retry judge budget e answers = some (result, last, rest) ↔
      ∃ before a left e', answers = before ++ a :: rest ∧ Waits judge budget e before left e' ∧
        Concludes judge left e' a result last := by
  constructor
  · intro ends
    rcases waits_or_concludes judge budget e answers with ⟨left, f, waits⟩ |
      ⟨before, a, after, left, f, result', last', rfl, waits, concludes⟩
    · have open_ := waits.retry_append []
      rw [List.append_nil, ends] at open_
      cases open_
    · rw [waits.retry_append, retry_of_concludes concludes] at ends
      cases ends
      exact ⟨before, a, left, f, rfl, waits, concludes⟩
  · rintro ⟨before, a, left, f, rfl, waits, concludes⟩
    rw [waits.retry_append, retry_of_concludes concludes]

/-- The loop does not end within answers exactly if it waits through all of them. -/
theorem retry_eq_none_iff :
    retry judge budget e answers = none ↔ ∃ left last, Waits judge budget e answers left last := by
  constructor
  · intro open_
    rcases waits_or_concludes judge budget e answers with waits |
      ⟨before, a, after, left, f, result, last, rfl, waits, concludes⟩
    · exact waits
    · rw [waits.retry_append, retry_of_concludes concludes] at open_
      cases open_
  · rintro ⟨left, last, waits⟩
    have ends := waits.retry_append []
    rwa [List.append_nil] at ends

end Mt6582.Machine

import Mt6582.Machine.History
import Mathlib.Data.List.Induction
import Mathlib.Data.List.Count
import Mathlib.Tactic.Choose

/-! # Binary semaphores in a history

Some events give the semaphore and some take it; gifts that come while it is given merge into one. It is
available when an event has given it and none has taken it since. If it is only ever taken while it is
available, then it is taken at most as often as given, and every taking has a gift of its own before it.
-/

namespace Mt6582.Machine

variable {ω : Type*} {gives takes : ω → Prop} {history : List ω} {e : ω}

/-- Given and not taken since. -/
def Available (gives takes : ω → Prop) (history : List ω) : Prop :=
  Since (fun _ e => gives e) takes history

/-- Taken only while available. -/
def TakenAvailable (gives takes : ω → Prop) (history : List ω) : Prop :=
  Always (fun before e => takes e → Available gives takes before) [] history

theorem available_concat :
    Available gives takes (history ++ [e]) ↔
      gives e ∨ (Available gives takes history ∧ ¬ takes e) := since_concat

theorem takenAvailable_concat :
    TakenAvailable gives takes (history ++ [e]) ↔
      TakenAvailable gives takes history ∧ (takes e → Available gives takes history) := by
  rw [TakenAvailable, always_append, always_cons]
  exact and_congr_right' (and_iff_left always_nil)

/-- An event that gives and does not take makes the semaphore available. -/
theorem takenAvailable_neutral (calm : ¬ takes e) (taken : TakenAvailable gives takes history) :
    TakenAvailable gives takes (history ++ [e]) :=
  takenAvailable_concat.mpr ⟨taken, fun takes => absurd takes calm⟩

section Count

variable [DecidablePred gives] [DecidablePred takes]

private theorem count_le_strong (apart : ∀ e, gives e → ¬ takes e)
    (taken : TakenAvailable gives takes history) :
    history.countP takes ≤ history.countP gives ∧
      (Available gives takes history → history.countP takes < history.countP gives) := by
  induction history using List.reverseRecOn with
  | nil => exact ⟨Nat.le_refl _, fun available => absurd available not_since_nil⟩
  | append_singleton history e ih =>
    obtain ⟨before, here⟩ := takenAvailable_concat.mp taken
    obtain ⟨atMost, fewer⟩ := ih before
    simp only [List.countP_append, List.countP_singleton, available_concat, decide_eq_true_eq]
    by_cases gift : gives e
    · rw [if_pos gift, if_neg (apart e gift)]
      exact ⟨by omega, fun _ => by omega⟩
    · rw [if_neg gift]
      by_cases taking : takes e
      · rw [if_pos taking]
        have := fewer (here taking)
        exact ⟨by omega, fun available => absurd taking (available.resolve_left gift).2⟩
      · rw [if_neg taking]
        exact ⟨by omega, fun available => fewer (available.resolve_left gift).1⟩

theorem countP_takes_le (apart : ∀ e, gives e → ¬ takes e)
    (taken : TakenAvailable gives takes history) :
    history.countP takes ≤ history.countP gives := (count_le_strong apart taken).1

end Count

/-- The gift at position `i` serves the taking at position `j`: no other taking lies between them. -/
def Serves (gives takes : ω → Prop) (history : List ω) (i j : Nat) : Prop :=
  i < j ∧ (∃ e, history[i]? = some e ∧ gives e) ∧ ∀ k e, i < k → k < j →
    history[k]? = some e → ¬ takes e

/-- A gift serves one taking. -/
theorem Serves.unique {i j j' : Nat} {u u' : ω} (first : Serves gives takes history i j)
    (second : Serves gives takes history i j') (at_ : history[j]? = some u) (takes_ : takes u)
    (at' : history[j']? = some u') (takes' : takes u') : j = j' := by
  rcases Nat.lt_trichotomy j j' with before | same | after
  · exact absurd takes_ (second.2.2 j u first.1 before at_)
  · exact same
  · exact absurd takes' (first.2.2 j' u' second.1 after at')

/-- Every taking is served. -/
theorem TakenAvailable.served (taken : TakenAvailable gives takes history) {j : Nat}
    (at_ : history[j]? = some e) (takes_ : takes e) : ∃ i, Serves gives takes history i j := by
  obtain ⟨inside, here⟩ := List.getElem?_eq_some_iff.mp at_
  have split : history = history.take j ++ e :: history.drop (j + 1) := by
    rw [← here, List.getElem_cons_drop, List.take_append_drop]
  obtain ⟨before, g, after, shape, gift, quiet⟩ := taken _ e _ split takes_
  rw [List.nil_append] at shape
  have length := congrArg List.length shape
  simp only [List.length_take, List.length_append, List.length_cons] at length
  refine ⟨before.length, by omega, ⟨g, ?_, gift⟩, fun k u lower upper atK => ?_⟩
  · rw [split, shape]
    simp
  · apply quiet u
    rw [split, shape, List.append_assoc, List.getElem?_append_right (by omega), List.cons_append,
      List.getElem?_cons, if_neg (by omega), List.getElem?_append_left (by omega)] at atK
    exact List.mem_of_getElem? atK

/-- The takings are served by gifts of their own. -/
theorem TakenAvailable.exists_serve (taken : TakenAvailable gives takes history) :
    ∃ serve : Nat → Nat,
      (∀ j e, history[j]? = some e → takes e → serve j < j ∧ ∃ g, history[serve j]? = some g ∧ gives g) ∧
      ∀ j j' e e', history[j]? = some e → takes e → history[j']? = some e' → takes e' →
        serve j = serve j' → j = j' := by
  have chosen (j : Nat) :
      ∃ i, ∀ e, history[j]? = some e → takes e → Serves gives takes history i j := by
    by_cases some_ : ∃ e, history[j]? = some e ∧ takes e
    · obtain ⟨e, at_, takes_⟩ := some_
      obtain ⟨i, serves⟩ := taken.served at_ takes_
      exact ⟨i, fun _ _ _ => serves⟩
    · exact ⟨0, fun e at_ takes_ => absurd ⟨e, at_, takes_⟩ some_⟩
  choose serve serves using chosen
  refine ⟨serve, fun j e at_ takes_ => ?_, fun j j' e e' at_ takes_ at' takes' same => ?_⟩
  · exact ⟨(serves j e at_ takes_).1, (serves j e at_ takes_).2.1⟩
  · exact (serves j e at_ takes_).unique (same ▸ serves j' e' at' takes') at_ takes_ at' takes'

end Mt6582.Machine

import Mathlib.Data.List.Induction

/-! # Past-time properties of an event history

`Since holds reset history` says that some event satisfied `holds`, which may look at the events
before it, and that no reset came after that event. `Always good history trace` says that every event
of a trace is good when it is seen after `history` and the events of the trace before it. Both unfold
along the end of the history, which is how a run extends it.
-/

namespace Mt6582.Machine

variable {ω : Type*}

def Since (holds : List ω → ω → Prop) (reset : ω → Prop) (history : List ω) : Prop :=
  ∃ before e after, history = before ++ e :: after ∧ holds before e ∧ ∀ later ∈ after, ¬ reset later

def Always (good : List ω → ω → Prop) (history trace : List ω) : Prop :=
  ∀ before e after, trace = before ++ e :: after → good (history ++ before) e

section Since

variable {holds : List ω → ω → Prop} {reset : ω → Prop} {history : List ω}

theorem not_since_nil : ¬ Since holds reset [] := by
  rintro ⟨before, e, after, split, -⟩
  cases before <;> contradiction

/-- The newest event holds itself, or keeps an older one alive by not resetting. -/
theorem since_concat {e : ω} :
    Since holds reset (history ++ [e]) ↔
      holds history e ∨ (Since holds reset history ∧ ¬ reset e) := by
  constructor
  · rintro ⟨before, found, after, split, good, quiet⟩
    rcases List.eq_nil_or_concat after with rfl | ⟨older, last, rfl⟩
    · obtain ⟨rfl, rfl⟩ := List.append_inj' split rfl |>.imp id List.singleton_inj.mp
      exact .inl good
    · rw [List.concat_eq_append, ← List.cons_append, ← List.append_assoc] at split
      obtain ⟨rfl, same⟩ := List.append_inj' split rfl
      obtain rfl := List.singleton_inj.mp same
      refine .inr ⟨⟨before, found, older, rfl, good, fun later member => ?_⟩, ?_⟩
      · exact quiet later (by simp [member])
      · exact quiet e (by simp)
  · rintro (good | ⟨⟨before, found, after, rfl, good, quiet⟩, calm⟩)
    · exact ⟨history, e, [], rfl, good, nofun⟩
    · refine ⟨before, found, after ++ [e], by simp, good, fun later member => ?_⟩
      rcases List.mem_append.mp member with old | new
      · exact quiet later old
      · exact List.mem_singleton.mp new ▸ calm

/-- Events that neither hold nor reset change nothing. -/
theorem since_append_neutral {events : List ω}
    (neutral : ∀ e ∈ events, ¬ reset e ∧ ∀ before, ¬ holds before e) :
    Since holds reset (history ++ events) ↔ Since holds reset history := by
  induction events using List.reverseRecOn with
  | nil => rw [List.append_nil]
  | append_singleton events e ih =>
    have last := neutral e (by simp)
    rw [← List.append_assoc, since_concat, ih (fun e member => neutral e (by simp [member]))]
    simp only [last.2, false_or, last.1, not_false_eq_true, and_true]

end Since

section Always

variable {good : List ω → ω → Prop} {history : List ω}

theorem always_nil : Always good history [] := by
  intro before e after split
  cases before <;> contradiction

theorem always_cons {e : ω} {trace : List ω} :
    Always good history (e :: trace) ↔ good history e ∧ Always good (history ++ [e]) trace := by
  constructor
  · intro all
    refine ⟨by simpa using all [] e trace rfl, fun before other after split => ?_⟩
    simpa using all (e :: before) other after (by rw [split, List.cons_append])
  · rintro ⟨here, there⟩ before other after split
    cases before with
    | nil =>
      obtain ⟨rfl, -⟩ := List.cons.inj split
      simpa using here
    | cons first before =>
      obtain ⟨rfl, tail⟩ := List.cons.inj split
      simpa using there before other after tail

instance decidableAlways [∀ history e, Decidable (good history e)] :
    ∀ history trace : List ω, Decidable (Always good history trace)
  | _, [] => .isTrue always_nil
  | history, e :: rest =>
      have := decidableAlways (history ++ [e]) rest
      decidable_of_iff' (good history e ∧ Always good (history ++ [e]) rest) always_cons

theorem always_append {first second : List ω} :
    Always good history (first ++ second) ↔
      Always good history first ∧ Always good (history ++ first) second := by
  induction first generalizing history with
  | nil => simp [always_nil]
  | cons e rest ih =>
    simp only [List.cons_append, always_cons, ih, and_assoc, List.append_assoc, List.nil_append]

theorem always_of_forall {trace : List ω} (each : ∀ e ∈ trace, ∀ history, good history e) :
    Always good history trace := by
  rintro before e after rfl
  exact each e (by simp) _

end Always

end Mt6582.Machine

import Mathlib.Data.List.Basic
import Mathlib.Data.List.Induction
import Mathlib.Data.List.TakeWhile

/-! # Terminated lines of a stream

`terminated stop stream` lists the maximal pieces of a stream that end in a terminator, each with
its terminator; `unterminated stop stream` is what follows the last one. Together they partition the
stream, and a line holds its terminator exactly once, at its end.
-/

namespace List

variable {α : Type*} [DecidableEq α] (stop : α)

/-- The terminated lines of a stream, in order. -/
def terminated : List α → List (List α)
  | [] => []
  | c :: rest =>
      if c = stop then [c] :: terminated rest
      else match terminated rest with
        | [] => []
        | line :: lines => (c :: line) :: lines

/-- The part of a stream after its last terminator. -/
def unterminated : List α → List α
  | [] => []
  | c :: rest =>
      if c = stop then unterminated rest
      else match terminated stop rest with
        | [] => c :: unterminated rest
        | _ :: _ => unterminated rest

/-- A line holds its terminator exactly once, at its end. -/
def IsLine (line : List α) : Prop := ∃ body, line = body ++ [stop] ∧ stop ∉ body

variable {stop}

theorem unterminated_not_mem (stream : List α) : stop ∉ unterminated stop stream := by
  induction stream with
  | nil => simp [unterminated]
  | cons c rest ih =>
    rw [unterminated]
    split
    · exact ih
    · next other =>
      split
      · simpa only [mem_cons, not_or] using ⟨fun equal => other equal.symm, ih⟩
      · exact ih

theorem terminated_isLine {stream line : List α} (member : line ∈ terminated stop stream) :
    IsLine stop line := by
  induction stream generalizing line with
  | nil => simp [terminated] at member
  | cons c rest ih =>
    rw [terminated] at member
    split at member
    · next same =>
      rcases mem_cons.mp member with rfl | member
      · exact ⟨[], by rw [same]; rfl, not_mem_nil⟩
      · exact ih member
    · next other =>
      split at member
      · simp at member
      · next first lines found =>
        rcases mem_cons.mp member with rfl | member
        · obtain ⟨body, rfl, fresh⟩ := ih (found ▸ mem_cons_self)
          exact ⟨c :: body, rfl, by simpa only [mem_cons, not_or] using ⟨fun equal => other equal.symm, fresh⟩⟩
        · exact ih (found ▸ mem_cons_of_mem _ member)

/-- The lines and the unterminated rest make up the stream. -/
theorem flatten_terminated_append (stream : List α) :
    (terminated stop stream).flatten ++ unterminated stop stream = stream := by
  induction stream with
  | nil => rfl
  | cons c rest ih =>
    rw [terminated, unterminated]
    split
    · simpa using ih
    · cases found : terminated stop rest with
      | nil => simpa [found] using ih
      | cons line lines => simpa [found] using ih

/-- A terminator at the end turns the unterminated rest into the last line. -/
theorem terminated_concat_stop (stream : List α) :
    terminated stop (stream ++ [stop]) =
      terminated stop stream ++ [unterminated stop stream ++ [stop]] := by
  induction stream with
  | nil => simp [terminated, unterminated]
  | cons c rest ih =>
    rw [cons_append, terminated, terminated, unterminated, ih]
    split
    · rfl
    · cases terminated stop rest <;> rfl

theorem unterminated_concat_stop (stream : List α) : unterminated stop (stream ++ [stop]) = [] := by
  induction stream with
  | nil => simp [unterminated]
  | cons c rest ih =>
    rw [cons_append, unterminated, ih, terminated_concat_stop]
    split
    · rfl
    · cases terminated stop rest <;> rfl

theorem terminated_concat_ne {c : α} (other : c ≠ stop) (stream : List α) :
    terminated stop (stream ++ [c]) = terminated stop stream := by
  induction stream with
  | nil => simp [terminated, other]
  | cons first rest ih => rw [cons_append, terminated, terminated, ih]

theorem unterminated_concat_ne {c : α} (other : c ≠ stop) (stream : List α) :
    unterminated stop (stream ++ [c]) = unterminated stop stream ++ [c] := by
  induction stream with
  | nil => simp [terminated, unterminated, other]
  | cons first rest ih =>
    rw [cons_append, unterminated, unterminated, ih, terminated_concat_ne other]
    split
    · rfl
    · cases terminated stop rest <;> rfl

theorem unterminated_of_not_mem {text : List α} (fresh : stop ∉ text) :
    unterminated stop text = text := by
  induction text using reverseRecOn with
  | nil => rfl
  | append_singleton text c ih =>
    rw [mem_append, mem_singleton, not_or] at fresh
    rw [unterminated_concat_ne (fun same => fresh.2 same.symm), ih fresh.1]

/-- Only the unterminated rest of what came before matters for what stays unterminated. -/
theorem unterminated_append (first second : List α) :
    unterminated stop (first ++ second) =
      unterminated stop (unterminated stop first ++ second) := by
  induction second using reverseRecOn with
  | nil =>
    rw [append_nil, append_nil, unterminated_of_not_mem (unterminated_not_mem first)]
  | append_singleton second c ih =>
    rw [← append_assoc, ← append_assoc]
    by_cases ended : c = stop
    · rw [ended, unterminated_concat_stop, unterminated_concat_stop]
    · rw [unterminated_concat_ne ended, unterminated_concat_ne ended, ih]

end List

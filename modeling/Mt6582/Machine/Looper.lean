import Mathlib.Data.List.Sort

/-! # Message queues ordered by time

A looper holds its pending messages in the order of the times they are due. A message posted for a time goes behind every
message that is due no later, so messages for one time are taken in the order they were posted. `Along` follows a quantity
that the messages change, as they are taken one after another.
-/

namespace Mt6582.Machine

/-- A message and the time from which it may be taken. -/
structure Timed (α : Type*) where
  what : α
  due : Nat
deriving DecidableEq, Repr

section Queue

variable {α : Type*}

def enqueue (queue : List (Timed α)) (m : Timed α) : List (Timed α) :=
  queue.orderedInsert (fun m p => m.due < p.due) m

/-- The queue is in the order in which its messages are due. -/
def InOrder (queue : List (Timed α)) : Prop := queue.Pairwise fun p q => p.due ≤ q.due

variable {queue front back : List (Timed α)} {m p : Timed α} {now : Nat}

theorem mem_enqueue : p ∈ enqueue queue m ↔ p = m ∨ p ∈ queue := List.mem_orderedInsert _

theorem enqueue_append (early : ∀ p ∈ front, p.due ≤ m.due) :
    enqueue (front ++ back) m = front ++ enqueue back m := by
  induction front with
  | nil => rfl
  | cons p front ih =>
    have behind : ¬ m.due < p.due := Nat.not_lt.mpr (early p List.mem_cons_self)
    have tail := ih fun q member => early q (List.mem_cons_of_mem p member)
    simp only [enqueue] at tail
    simp only [enqueue, List.cons_append, List.orderedInsert_cons, if_neg behind, tail]

/-- A message is inserted somewhere, and everything else stays in its order. -/
theorem enqueue_split (queue : List (Timed α)) (m : Timed α) :
    ∃ front back, queue = front ++ back ∧ enqueue queue m = front ++ m :: back := by
  refine ⟨_, _, ?_, List.orderedInsert_eq_take_drop _ m queue⟩
  exact List.takeWhile_append_dropWhile.symm

/-- A queue in order has the messages that are due in front. -/
theorem InOrder.split (order : InOrder queue) (now : Nat) :
    ∃ front back, queue = front ++ back ∧ (∀ p ∈ front, p.due ≤ now) ∧ ∀ p ∈ back, now < p.due := by
  induction queue with
  | nil => exact ⟨[], [], rfl, by simp, by simp⟩
  | cons m queue ih =>
    obtain ⟨first, rest⟩ := List.pairwise_cons.mp order
    rcases Nat.lt_or_ge now m.due with late | early
    · refine ⟨[], m :: queue, rfl, by simp, ?_⟩
      rintro p (_ | member)
      · exact late
      · exact Nat.lt_of_lt_of_le late (first p (by assumption))
    · obtain ⟨front, back, rfl, soon, later⟩ := ih rest
      refine ⟨m :: front, back, rfl, ?_, later⟩
      rintro p (_ | member)
      · exact early
      · exact soon p (by assumption)

theorem enqueue_first (late : ∀ p ∈ queue, m.due < p.due) : enqueue queue m = m :: queue := by
  cases queue with
  | nil => rfl
  | cons p queue => exact if_pos (late p List.mem_cons_self)

theorem InOrder.enqueue (order : InOrder queue) (m : Timed α) : InOrder (enqueue queue m) := by
  obtain ⟨front, back, rfl, soon, later⟩ := order.split m.due
  rw [enqueue_append soon, enqueue_first later]
  obtain ⟨ordered, ordered', across⟩ := List.pairwise_append.mp order
  refine List.pairwise_append.mpr ⟨ordered, List.pairwise_cons.mpr ⟨fun p member => (later p member).le, ordered'⟩, ?_⟩
  rintro p front_ q (_ | member)
  · exact soon p front_
  · exact across p front_ q (by assumption)

theorem InOrder.filter (order : InOrder queue) (keep : Timed α → Bool) :
    InOrder (queue.filter keep) :=
  List.Pairwise.filter keep order

/-- What is posted from now on goes behind everything that is due. -/
theorem enqueue_all (early : ∀ p ∈ front, p.due ≤ now) {posts : List (Timed α)}
    (fresh : ∀ p ∈ posts, now ≤ p.due) :
    posts.foldl enqueue (front ++ back) = front ++ posts.foldl enqueue back := by
  induction posts generalizing back with
  | nil => rfl
  | cons m posts ih =>
    have behind (p) (member : p ∈ front) : p.due ≤ m.due :=
      (early p member).trans (fresh m List.mem_cons_self)
    simp only [List.foldl_cons, enqueue_append behind]
    exact ih fun p member => fresh p (List.mem_cons_of_mem m member)

theorem exists_due (queue : List (Timed α)) : ∃ latest, ∀ p ∈ queue, p.due ≤ latest := by
  induction queue with
  | nil => exact ⟨0, by simp⟩
  | cons m queue ih =>
    obtain ⟨latest, bound⟩ := ih
    refine ⟨max m.due latest, ?_⟩
    rintro p (_ | member)
    · exact Nat.le_max_left _ _
    · exact (bound p (by assumption)).trans (Nat.le_max_right _ _)

end Queue

section Along

variable {σ α : Type*} (apply : σ → α → σ) (safe : σ → Prop)

/-- The quantity is safe before, between and after the messages. -/
def Along : σ → List α → Prop
  | s, [] => safe s
  | s, a :: rest => safe s ∧ Along (apply s a) rest

/-- A message that changes nothing. -/
def Idle (a : α) : Prop := ∀ s, apply s a = s

variable {apply safe} {s : σ} {a : α} {front back : List α}

theorem Along.here (along : Along apply safe s back) : safe s := by
  cases back with
  | nil => exact along
  | cons a rest => exact along.1

theorem along_append :
    Along apply safe s (front ++ back) ↔ Along apply safe s front ∧
      Along apply safe (front.foldl apply s) back := by
  induction front generalizing s with
  | nil => exact ⟨fun along => ⟨along.here, along⟩, fun both => both.2⟩
  | cons a front ih => simp only [List.cons_append, Along, List.foldl_cons, ih, and_assoc]

theorem foldl_idle (idle : ∀ a ∈ back, Idle apply a) : back.foldl apply s = s := by
  induction back generalizing s with
  | nil => rfl
  | cons a back ih =>
    rw [List.foldl_cons, idle a List.mem_cons_self s]
    exact ih fun b member => idle b (List.mem_cons_of_mem a member)

theorem along_idle (idle : ∀ a ∈ back, Idle apply a) : Along apply safe s back ↔ safe s := by
  induction back generalizing s with
  | nil => rfl
  | cons a back ih =>
    simp only [Along, idle a List.mem_cons_self s,
      ih fun b member => idle b (List.mem_cons_of_mem a member), and_self]

/-- Inserting a message that changes nothing is harmless. -/
theorem along_insert (idle : Idle apply a) :
    Along apply safe s (front ++ a :: back) ↔ Along apply safe s (front ++ back) := by
  simp only [along_append, Along, idle _]
  exact ⟨fun all => ⟨all.1, all.2.2⟩, fun both => ⟨both.1, both.2.here, both.2⟩⟩

end Along

end Mt6582.Machine

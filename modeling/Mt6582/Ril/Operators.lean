import Mt6582.Machine.Java
import Mt6582.Machine.System

/-! # Operator names by network code

`Operators` reads `selective-spn-conf.xml` into a table from network codes to names. The static
`operatorReplace` keeps its last answer; `unOptimizedOperatorReplace` keeps the table in its instance.
Neither memory shows in an answer.
-/

namespace Mt6582.Ril

open Machine

/-- What the pull parser makes of the file behind the root element: the elements up to the end of the
document or to an `XmlPullParserException` or `IOException`. -/
inductive SpnElements where
  | element (name : JavaString) (numeric spn : Option JavaString) (rest : SpnElements)
  | endDocument
  | exception
deriving DecidableEq, Repr

/-- `selective-spn-conf.xml`. -/
inductive SpnFile where
  | notFound
  /-- `beginDocument` throws. -/
  | noRoot
  | document (elements : SpnElements)
deriving DecidableEq, Repr

/-- A `HashMap`, the newest entry first. -/
abbrev Table := List (Option JavaString × Option JavaString)

/-- The loop of `initList`. -/
def initListLoop (init : Table) : SpnElements → Table
  | .element name numeric data rest =>
      if name = javaLit "spnOverride".toList then initListLoop ((numeric, data) :: init) rest else init
  -- `getName` is null here
  | .endDocument => init
  | .exception => init

def initList : SpnFile → Table
  | .notFound => []
  | .noRoot => []
  | .document elements => initListLoop [] elements

/-- `containsKey(response) ? get(response) : response`. -/
def Table.getOr (operators : Table) (response : Option JavaString) : Option JavaString :=
  (operators.lookup response).getD response

/-- The first check of both lookups. -/
def OutOfRange (response : Option JavaString) : Prop :=
  response = none ∨ ∀ text ∈ response, text.length ≠ 5 ∧ text.length ≠ 6

instance (response : Option JavaString) : Decidable (OutOfRange response) := inferInstanceAs (Decidable (_ ∨ _))

/-- The static fields. -/
structure Stored where
  stored : Option JavaString := none
  storedOperators : Option JavaString := none
deriving DecidableEq, Repr

def operatorReplace (file : SpnFile) (memory : Stored) (response : Option JavaString) : Option JavaString × Stored :=
  if OutOfRange response then (response, memory)
  else if memory.storedOperators ≠ none ∧ memory.stored ≠ none ∧ memory.stored = response then
    (memory.storedOperators, memory)
  else
    match parseInt 10 response with
    | .error _ => (response, { stored := response, storedOperators := response })
    | .ok _ =>
        let operators := initList file
        (operators.getOr response, { stored := response, storedOperators := operators.getOr response })

/-- On an instance whose `unOptOperators` is given; returns the field's new value as well. -/
def unOptimizedOperatorReplace (file : SpnFile) (unOptOperators : Option Table) (response : Option JavaString) :
    Option JavaString × Option Table :=
  if OutOfRange response then (response, unOptOperators)
  else
    match parseInt 10 response with
    | .error _ => (response, unOptOperators)
    | .ok _ =>
        let operators := unOptOperators.getD (initList file)
        (operators.getOr response, some operators)

/-! ## Calls in any order -/

/-- A call, of the static method or on one of the instances. -/
inductive Call where
  | operatorReplace (response : Option JavaString)
  | unOptimizedOperatorReplace (instanceId : Nat) (response : Option JavaString)
deriving DecidableEq, Repr

def Call.response : Call → Option JavaString
  | .operatorReplace response => response
  | .unOptimizedOperatorReplace _ response => response

/-- The static fields and the field of each instance. -/
structure Memory where
  static : Stored := {}
  unOptOperators : Nat → Option Table := fun _ => none

/-- Every call is answered; the observation is the value it returns. -/
def callStep (file : SpnFile) (memory : Memory) : Call → Memory × Option JavaString
  | .operatorReplace response =>
      let returned := operatorReplace file memory.static response
      ({ memory with static := returned.2 }, returned.1)
  | .unOptimizedOperatorReplace instanceId response =>
      let returned := unOptimizedOperatorReplace file (memory.unOptOperators instanceId) response
      ({ memory with unOptOperators := Function.update memory.unOptOperators instanceId returned.2 }, returned.1)

def operatorSystem (file : SpnFile) : System Memory Call (Option JavaString) where
  step memory call := some ((callStep file memory call).1, [(callStep file memory call).2])

/-- What a fresh instance answers. -/
def plainReplace (file : SpnFile) (response : Option JavaString) : Option JavaString :=
  (unOptimizedOperatorReplace file none response).1

/-- A remembered answer is the fresh one, and a table that is kept is the one in the file. -/
structure Memory.Fresh (file : SpnFile) (memory : Memory) : Prop where
  answer : memory.static.storedOperators ≠ none → memory.static.stored ≠ none →
    memory.static.storedOperators = plainReplace file memory.static.stored
  table : ∀ instanceId, ∀ operators ∈ memory.unOptOperators instanceId, operators = initList file

section Fresh

variable {file : SpnFile} {memory : Memory}

/-- The instance's table, once read, changes nothing. -/
theorem unOptimizedOperatorReplace_eq {unOptOperators : Option Table} (response : Option JavaString)
    (table : ∀ operators ∈ unOptOperators, operators = initList file) :
    (unOptimizedOperatorReplace file unOptOperators response).1 = plainReplace file response ∧
      ∀ operators ∈ (unOptimizedOperatorReplace file unOptOperators response).2,
      operators = initList file := by
  have read : unOptOperators.getD (initList file) = initList file := by
    cases unOptOperators with
    | none => rfl
    | some operators => exact table operators rfl
  rw [plainReplace, unOptimizedOperatorReplace, unOptimizedOperatorReplace, read]
  split_ifs with outOfRange
  · exact ⟨rfl, table⟩
  · cases parseInt 10 response with
    | error fault => exact ⟨rfl, table⟩
    | ok value => exact ⟨rfl, fun operators kept => (Option.some.inj kept).symm⟩

/-- Past the two early returns the answer is computed afresh and remembered with its argument. -/
theorem operatorReplace_eq_of_miss {static : Stored} {response : Option JavaString}
    (inRange : ¬ OutOfRange response)
    (miss : ¬ (static.storedOperators ≠ none ∧ static.stored ≠ none ∧ static.stored = response)) :
    operatorReplace file static response =
      (plainReplace file response, ⟨response, plainReplace file response⟩) := by
  rw [operatorReplace, if_neg inRange, if_neg miss, plainReplace, unOptimizedOperatorReplace,
    if_neg inRange]
  cases parseInt 10 response with
  | error fault => rfl
  | ok value => rfl

theorem operatorReplace_eq {static : Stored} (response : Option JavaString)
    (answer : static.storedOperators ≠ none → static.stored ≠ none →
      static.storedOperators = plainReplace file static.stored) :
    (operatorReplace file static response).1 = plainReplace file response ∧
      ((operatorReplace file static response).2 = static ∨
        (operatorReplace file static response).2 = ⟨response, plainReplace file response⟩) := by
  rcases Decidable.em (OutOfRange response) with outOfRange | inRange
  · rw [operatorReplace, if_pos outOfRange, plainReplace, unOptimizedOperatorReplace,
      if_pos outOfRange]
    exact ⟨rfl, .inl rfl⟩
  · rcases Decidable.em (static.storedOperators ≠ none ∧ static.stored ≠ none ∧ static.stored = response) with
      hit | miss
    · rw [operatorReplace, if_neg inRange, if_pos hit]
      obtain ⟨known, key, rfl⟩ := hit
      exact ⟨answer known key, .inl rfl⟩
    · rw [operatorReplace_eq_of_miss inRange miss]
      exact ⟨rfl, .inr rfl⟩

theorem callStep_fresh (fresh : memory.Fresh file) (call : Call) :
    (callStep file memory call).2 = plainReplace file call.response ∧
      (callStep file memory call).1.Fresh file := by
  cases call with
  | operatorReplace response =>
    obtain ⟨returned, kept⟩ := operatorReplace_eq response fresh.answer
    refine ⟨returned, ?_, fresh.table⟩
    rcases kept with same | written
    · rw [callStep, same]
      exact fresh.answer
    · rw [callStep, written]
      exact fun _ _ => rfl
  | unOptimizedOperatorReplace instanceId response =>
    obtain ⟨returned, kept⟩ := unOptimizedOperatorReplace_eq response (fresh.table instanceId)
    refine ⟨returned, fresh.answer, ?_⟩
    intro other operators found
    rcases Decidable.em (other = instanceId) with rfl | different
    · simp only [callStep, Function.update_self] at found
      exact kept operators found
    · simp only [callStep, Function.update_of_ne different] at found
      exact fresh.table other operators found

end Fresh

/-- In every sequence of calls each one returns what a fresh instance returns. -/
theorem operatorReplace_run (file : SpnFile) (calls : List Call) :
    ∃ memory, (operatorSystem file).run {} calls = some (memory, calls.map fun call => plainReplace file call.response) := by
  have initial : Memory.Fresh file {} :=
    ⟨fun known => absurd rfl known, fun _ _ found => nomatch found⟩
  have kept (memory : Memory) (call : Call) (fresh : memory.Fresh file) : ∃ next,
      (operatorSystem file).step memory call = some (next, [plainReplace file call.response]) ∧
        next.Fresh file := by
    obtain ⟨returned, next⟩ := callStep_fresh fresh call
    exact ⟨_, by simp only [operatorSystem, returned], next⟩
  obtain ⟨memory, ran, -⟩ := System.run_answers kept initial calls
  exact ⟨memory, ran⟩

end Mt6582.Ril

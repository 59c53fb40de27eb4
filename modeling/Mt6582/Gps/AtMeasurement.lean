import Mathlib.Algebra.BigOperators.Group.List.Basic
import Mt6582.Gps.AtThread

/-! # What a counting test measures, and when it ends

In the counting mode the thread collects values of the tested satellite and counts the reads between them. Seen from
outside, a test is a history of values, ends of counted reads, and results. A read that brings values counts for
each of them, a later read without one counts for one, and the test ends where the count is the number it was started
with, or after twenty reads without any value. The count can jump past the number; the test then goes on for ever.
-/

namespace Mt6582.Gps

open Machine

/-- A value that is counted, the end of a read that is counted, and the result a test ends with. -/
inductive CountEvent where
  | value (snr : Int)
  | readEnd
  | result (entries : Vector Int 8)
deriving DecidableEq, Repr

section Rounds

/-- The values of each counted read that has ended, and those after it. -/
structure Rounds where
  closed : List (List Int)
  opened : List Int
deriving DecidableEq, Repr

def Rounds.add (r : Rounds) : CountEvent → Rounds
  | .value snr => { r with opened := r.opened ++ [snr] }
  | .readEnd => ⟨r.closed ++ [r.opened], []⟩
  | .result _ => r

def roundsOf (events : List CountEvent) : Rounds := events.foldl Rounds.add ⟨[], []⟩

/-- All values so far. -/
def Rounds.values (r : Rounds) : List Int := r.closed.flatten ++ r.opened

/-- The reads without a value since the first value. -/
def idle (rounds : List (List Int)) : Nat := (rounds.dropWhile List.isEmpty).count []

/-- The reads before the first value. -/
def waits (rounds : List (List Int)) : Nat := (rounds.takeWhile List.isEmpty).length

/-- What the reads count for. -/
def completed (rounds : List (List Int)) : Nat :=
  ((rounds.dropWhile List.isEmpty).map fun values => max 1 values.length).sum

/-- The last of the reads ends a test of `n` values. -/
def Ends (n : Nat) (rounds : List (List Int)) : Prop :=
  if rounds.flatten = [] then rounds.length = maxValidStatusWaitCount else completed rounds = n

instance (n : Nat) (rounds : List (List Int)) : Decidable (Ends n rounds) := by
  unfold Ends
  infer_instance

/-- Ten times the mean of the values, in the arithmetic of `int`. -/
def mean (values : List Int) : Int := (wrap32 (10 * values.sum)).tdiv values.length

/-- The deviation from it. -/
def deviation (values : List Int) : Int :=
  ((wrap32 (values.map fun value => (10 * value - mean values) ^ 2).sum).tdiv values.length).toNat.sqrt

/-- The result of the reads; two entries are never measured. -/
def reportOf (before : Vector Int 8) (rounds : List (List Int)) : Vector Int 8 :=
  let values := rounds.flatten
  #v[if values = [] then 32 else 0, before.get 1, before.get 2, values.length,
    if values = [] then 1 else completed rounds, mean values, deviation values, before.get 7]

theorem roundsOf_concat (events : List CountEvent) (e : CountEvent) :
    roundsOf (events ++ [e]) = (roundsOf events).add e := List.foldl_concat ..

theorem flatten_eq_nil_iff_empty {rounds : List (List Int)} :
    rounds.flatten = [] ↔ ∀ values ∈ rounds, values.isEmpty = true := by
  rw [List.flatten_eq_nil_iff]
  simp only [List.isEmpty_iff]

theorem dropWhile_empty (rounds : List (List Int)) :
    rounds.dropWhile List.isEmpty = [] ↔ rounds.flatten = [] := by
  rw [List.dropWhile_eq_nil_iff, flatten_eq_nil_iff_empty]

private theorem dropWhile_empty_concat (rounds : List (List Int)) (values : List Int) :
    (rounds ++ [values]).dropWhile List.isEmpty =
      if rounds.flatten = [] ∧ values = [] then []
      else if rounds.flatten = [] then [values] else rounds.dropWhile List.isEmpty ++ [values] := by
  rw [List.dropWhile_append]
  by_cases quiet : rounds.flatten = []
  · rw [(dropWhile_empty rounds).mpr quiet, List.isEmpty_nil, if_pos rfl]
    cases values with
    | nil => rw [if_pos ⟨quiet, rfl⟩]; rfl
    | cons value values => rw [if_neg nofun, if_pos quiet]; rfl
  · have sounding : ¬ (rounds.dropWhile List.isEmpty).isEmpty = true := by
      rw [List.isEmpty_iff, dropWhile_empty]
      exact quiet
    rw [if_neg sounding, if_neg fun both => quiet both.1, if_neg quiet]

theorem idle_concat (rounds : List (List Int)) (values : List Int) :
    idle (rounds ++ [values]) = idle rounds + if rounds.flatten ≠ [] ∧ values = [] then 1 else 0 := by
  rw [idle, dropWhile_empty_concat]
  by_cases quiet : rounds.flatten = []
  · have before : idle rounds = 0 := by rw [idle, (dropWhile_empty rounds).mpr quiet, List.count_nil]
    rw [before]
    cases values with
    | nil => simp [quiet]
    | cons value values => simp [quiet]
  · rw [if_neg fun both => quiet both.1, if_neg quiet, List.count_append]
    cases values with
    | nil => simp [quiet, idle]
    | cons value values => simp [idle]

theorem completed_concat (rounds : List (List Int)) (values : List Int) :
    completed (rounds ++ [values]) =
      completed rounds + if rounds.flatten = [] ∧ values = [] then 0 else max 1 values.length := by
  rw [completed, dropWhile_empty_concat]
  by_cases quiet : rounds.flatten = []
  · have before : completed rounds = 0 := by
      rw [completed, (dropWhile_empty rounds).mpr quiet, List.map_nil, List.sum_nil]
    rw [before]
    cases values with
    | nil => simp [quiet]
    | cons value values => simp [quiet]
  · rw [if_neg fun both => quiet both.1, if_neg quiet, if_neg fun both => quiet both.1, List.map_append, List.sum_append]
    simp [completed]

theorem waits_concat (rounds : List (List Int)) (values : List Int) :
    waits (rounds ++ [values]) = waits rounds + if rounds.flatten = [] ∧ values = [] then 1 else 0 := by
  rw [waits, waits]
  by_cases quiet : rounds.flatten = []
  · have all := flatten_eq_nil_iff_empty.mp quiet
    rw [List.takeWhile_append_of_pos all, List.takeWhile_eq_self_iff.mpr all]
    cases values with
    | nil => simp [quiet]
    | cons value values => simp
  · have short : (rounds.takeWhile List.isEmpty).length ≠ rounds.length := fun whole => by
      have all := (List.takeWhile_prefix List.isEmpty).eq_of_length whole
      exact quiet (flatten_eq_nil_iff_empty.mpr (List.takeWhile_eq_self_iff.mp all))
    rw [List.takeWhile_append, if_neg short, if_neg fun both => quiet both.1, Nat.add_zero]

/-- The count is the number of values and of the reads without one. -/
theorem completed_eq (rounds : List (List Int)) : completed rounds = rounds.flatten.length + idle rounds := by
  induction rounds using List.reverseRecOn with
  | nil => rfl
  | append_singleton rounds values ih =>
    rw [completed_concat, idle_concat, ih, List.flatten_append, List.length_append, List.flatten_singleton]
    by_cases quiet : rounds.flatten = []
    · cases values with
      | nil => simp [quiet]
      | cons value values =>
        simp only [quiet, reduceCtorEq, and_false, if_false, List.length_cons, List.length_nil, not_true_eq_false, ne_eq]
        omega
    · cases values with
      | nil => simp [quiet, Nat.add_assoc]
      | cons value values =>
        simp only [reduceCtorEq, and_false, if_false, List.length_cons]
        omega

theorem completed_mono {first rounds : List (List Int)} (extends_ : first <+: rounds) :
    completed first ≤ completed rounds := by
  obtain ⟨rest, rfl⟩ := extends_
  induction rest using List.reverseRecOn with
  | nil => rw [List.append_nil]
  | append_singleton rest values ih =>
    rw [← List.append_assoc, completed_concat]
    exact ih.trans (Nat.le_add_right _ _)

/-- From the first value on every read counts. -/
theorem length_le_completed (rounds : List (List Int)) : rounds.length ≤ waits rounds + completed rounds := by
  have counted : (rounds.dropWhile List.isEmpty).length ≤ completed rounds := by
    have each := List.length_le_sum_of_one_le ((rounds.dropWhile List.isEmpty).map fun values => max 1 values.length)
      (List.forall_mem_map.mpr fun values _ => Nat.le_max_left 1 values.length)
    rwa [List.length_map] at each
  have split := congrArg List.length (List.takeWhile_append_dropWhile (p := List.isEmpty) (l := rounds))
  rw [List.length_append] at split
  rw [waits]
  omega

/-- The count reaches every number on the way if each read brings one value at most. -/
theorem exists_completed {rounds : List (List Int)} (single : ∀ values ∈ rounds, values.length ≤ 1) {n : Nat}
    (reached : n ≤ completed rounds) : ∃ k, completed (rounds.take k) = n := by
  induction rounds using List.reverseRecOn with
  | nil => exact ⟨0, (Nat.le_zero.mp reached).symm⟩
  | append_singleton rounds values ih =>
    obtain ⟨before, last⟩ := List.forall_mem_append.mp single
    have few := List.forall_mem_singleton.mp last
    rcases Nat.lt_or_ge (completed rounds) n with short | enough
    · refine ⟨rounds.length + 1, ?_⟩
      rw [List.take_of_length_le (by rw [List.length_append]; rfl)]
      rw [completed_concat] at reached ⊢
      split_ifs at reached ⊢
      · omega
      · omega
    · obtain ⟨k, found⟩ := ih before enough
      refine ⟨min k rounds.length, ?_⟩
      rwa [List.take_append_of_le_length (Nat.min_le_right ..), ← List.take_take, List.take_length]

/-- A test ends in time if each read brings one value at most. -/
theorem exists_ends {rounds : List (List Int)} (single : ∀ values ∈ rounds, values.length ≤ 1) {n : Nat} (some_ : 1 ≤ n)
    (long : n + 19 ≤ rounds.length) : ∃ k, Ends n (rounds.take k) := by
  by_cases quiet : (rounds.take 20).flatten = []
  · refine ⟨20, ?_⟩
    rw [Ends, if_pos quiet, List.length_take]
    exact Nat.min_eq_left (by omega)
  · have heard : waits rounds < 20 := by
      by_contra late
      refine quiet (flatten_eq_nil_iff_empty.mpr fun values member => ?_)
      rw [waits, not_lt] at late
      have inside : values ∈ (rounds.takeWhile List.isEmpty).take 20 := by
        rwa [List.prefix_iff_eq_take.mp (List.takeWhile_prefix List.isEmpty), List.take_take, Nat.min_eq_left late]
      exact List.mem_takeWhile_imp (List.mem_of_mem_take inside)
    have counts := length_le_completed rounds
    obtain ⟨k, reached⟩ := exists_completed single (n := n) (by omega)
    refine ⟨k, ?_⟩
    have sounding : (rounds.take k).flatten ≠ [] := fun none_ => by
      rw [completed, (dropWhile_empty _).mpr none_] at reached
      simp only [List.map_nil, List.sum_nil] at reached
      omega
    rw [Ends, if_neg sounding, reached]

/-- Past its number a test does not end. -/
theorem not_ends_of_lt {n : Nat} {rounds : List (List Int)} (past : n < completed rounds) : ¬ Ends n rounds := by
  rw [Ends]
  split
  · next quiet =>
    rw [completed, (dropWhile_empty rounds).mpr quiet] at past
    exact absurd past (Nat.not_lt_zero n)
  · exact past.ne'

end Rounds

section Events

/-- What the start of `nmea_reader_parse` counts. -/
def AtTest.tickEvents (env : AtEnv) (endTag : Bool) (t : AtTest) : List CountEvent :=
  if t.testFlag = true ∨ t.signalTestBegin = true then
    if t.hal.timeDelay ≤ wrap32 (env.now - t.startTime) then
      if endTag = true then
        .readEnd :: if t.countRead.2 = true then [.result (t.tick env endTag).1.result] else []
      else []
    else []
  else []

instance (t : AtTest) : Decidable t.Searches := inferInstanceAs (Decidable (_ ∧ _))

/-- The value that `gps_at_command_test_proc` counts. -/
def AtTest.searchEvents (t : AtTest) (svCount : Int) : List CountEvent :=
  if t.Searches then
    match t.found svCount with
    | some i => if t.Counts i then [.value (t.snrAt i)] else []
    | none => []
  else []

/-- The value that the end of a GSV sentence counts. -/
def gsvTestEvents (num seq cnt svCount : Int) (t : AtTest) : List CountEvent :=
  if seq = num ∧ svCount ≤ cnt ∧ (t.testFlag = true ∨ t.signalMode = true) then t.searchEvents svCount else []

variable {F : Type} {pf : Platform F}

/-- The line is a GSV sentence that is parsed. -/
def ParsesGsv (env : AtEnv) (s : NmeaState pf) (t : AtTest) : Prop :=
  (t.tick env s.gpsNmeaEndTag).2 = false ∧ sentenceKind s.reader.line = .gsv

instance (env : AtEnv) (s : NmeaState pf) (t : AtTest) : Decidable (ParsesGsv env s t) :=
  inferInstanceAs (Decidable (_ ∧ _))

/-- What the line in the buffer counts. -/
def lineEvents (env : AtEnv) (s : NmeaState pf) (t : AtTest) : List CountEvent :=
  t.tickEvents env s.gpsNmeaEndTag ++
    if ParsesGsv env s t then
      let entered := gsvEntered s (t.tick env s.gpsNmeaEndTag).1
      gsvTestEvents (strToInt (field s.reader.line 1)) (strToInt (field s.reader.line 2)) (strToInt (field s.reader.line 3))
        entered.1 entered.2
    else []

instance (r : NmeaReader pf) (c : Byte) : Decidable (r.Completes c) := inferInstanceAs (Decidable (_ ∧ _ ∧ _))

/-- What a step counts. -/
def AtThreadState.countEvents (s : AtThreadState pf) : AtAction → List CountEvent
  | .thread (.byte _ _) env =>
      match s.thread.mode with
      | .feed (c :: rest) =>
          if s.thread.nmea.reader.Completes c then
            lineEvents env { s.thread.nmea with
              reader := s.thread.nmea.reader.push c, gpsNmeaEndTag := rest.isEmpty || s.thread.nmea.gpsNmeaEndTag } s.test
          else []
      | _ => []
  | _ => []

/-- The thread, observed by what it counts. -/
def atMeasurement (pf : Platform F) : System (AtThreadState pf) AtAction CountEvent where
  step s a := (atThreadStep s a).map fun next => (next.1, s.countEvents a)

/-- An action that gives no order to the test. -/
def AtAction.Loops : AtAction → Prop
  | .thread _ _ | .testControl _ | .setInit _ => True
  | .datagram _ _ | .testStart _ _ _ _ _ | .testStop _ => False

end Events

section Values

theorem wrap32_wrap32_add (first second : Int) : wrap32 (wrap32 first + second) = wrap32 (first + second) := by
  unfold wrap32
  rw [Int.add_bmod, Int.bmod_bmod, ← Int.add_bmod]

theorem wrap32_add_wrap32 (first second : Int) : wrap32 (first + wrap32 second) = wrap32 (first + second) := by
  rw [Int.add_comm, wrap32_wrap32_add, Int.add_comm]

theorem wrap32_wrap32_mul (first second : Int) :
    wrap32 (wrap32 first * wrap32 second) = wrap32 (first * second) := by
  unfold wrap32
  rw [Int.mul_bmod, Int.bmod_bmod, Int.bmod_bmod, ← Int.mul_bmod]

/-- The square of a difference, each value taken as an `int`. -/
theorem wrap32_square (value average : Int) :
    wrap32 (wrap32 (wrap32 value - average) * wrap32 (wrap32 value - average)) = wrap32 ((value - average) ^ 2) := by
  rw [wrap32_wrap32_mul, Int.sub_eq_add_neg, ← wrap32_wrap32_mul, wrap32_wrap32_add, wrap32_wrap32_mul, sq,
    Int.sub_eq_add_neg]

theorem wrap32_foldl_sum (terms : List Int) (start : Int) :
    wrap32 (terms.foldl (fun sum term => wrap32 (sum + wrap32 term)) start) = wrap32 (start + terms.sum) := by
  induction terms generalizing start with
  | nil => rw [List.foldl_nil, List.sum_nil, Int.add_zero]
  | cons term terms ih =>
    rw [List.foldl_cons, ih, wrap32_wrap32_add, List.sum_cons, Int.add_right_comm, wrap32_add_wrap32,
      Int.add_right_comm, Int.add_assoc]

theorem foldl_sum {terms : List Int} (some_ : terms ≠ []) :
    terms.foldl (fun sum term => wrap32 (sum + wrap32 term)) 0 = wrap32 terms.sum := by
  rcases List.eq_nil_or_concat terms with rfl | ⟨before, last, rfl⟩
  · exact absurd rfl some_
  · rw [List.concat_eq_append, List.foldl_concat, wrap32_add_wrap32, ← wrap32_wrap32_add, wrap32_foldl_sum,
      wrap32_wrap32_add, Int.zero_add, List.sum_append, List.sum_singleton]

variable {t : AtTest} {values : List Int}

/-- The first entries of `Dev_CNr` hold the values, tenfold. -/
def AtTest.Keeps (t : AtTest) (values : List Int) : Prop :=
  ∀ j (inside : j < values.length), j < t.devCNr.length → t.devCNr.getD j 0 = wrap32 (10 * values[j])

theorem AtTest.Keeps.map_range (keeps : t.Keeps values) (fits : values.length ≤ t.devCNr.length) :
    (List.range values.length).map (fun j => t.devCNr.getD j 0) = values.map fun value => wrap32 (10 * value) := by
  refine List.ext_getElem (by simp) fun j inside _ => ?_
  have below : j < values.length := by simpa using inside
  rw [List.getElem_map, List.getElem_map, List.getElem_range]
  exact keeps j below (below.trans_le fits)

/-- The deviation that the search leaves. -/
theorem AtTest.deviate_devCNo (keeps : t.Keeps values) (size : t.successNum = values.length) (some_ : values ≠ [])
    (fits : values.length ≤ t.devCNr.length) (average : t.avgCNo = mean values) (clear : t.dCNo = 0) :
    t.deviate.devCNo = deviation values := by
  have squares :
      (values.map fun value => wrap32 (10 * value)).foldl (fun sum value =>
        wrap32 (sum + wrap32 (wrap32 (value - mean values) * wrap32 (value - mean values)))) 0 =
      wrap32 (values.map fun value => (10 * value - mean values) ^ 2).sum := by
    rw [← foldl_sum (by simpa using some_), List.foldl_map, List.foldl_map]
    simp only [wrap32_square]
  have counted : t.successNum ≠ 0 := by
    rw [size]
    exact (List.length_pos_iff.mpr some_).ne'
  rw [deviate, if_pos counted, size, keeps.map_range fits, average, clear, squares]
  rfl

theorem AtTest.deviate_eq (t : AtTest) (clear : t.dCNo = 0) : t.deviate = { t with devCNo := t.deviate.devCNo } := by
  rw [deviate]
  split
  · simp only [clear]
  · rfl

end Values

section Steps

variable {n : Nat} {before : Vector Int 8} {r : Rounds} {t : AtTest}

/-- A test of `n` values that has seen these rounds. -/
structure Measuring (n : Nat) (before : Vector Int 8) (r : Rounds) (t : AtTest) : Prop where
  testFlag : t.testFlag = true
  signalMode : t.signalMode = false
  state : t.state = .inprogress
  testNum : t.hal.testNum = n
  result : t.result = before
  successNum : t.successNum = r.values.length
  prevSuccessNum : t.prevSuccessNum = r.closed.flatten.length
  failureNum : t.failureNum = idle r.closed
  waitNum : t.waitNum = waits r.closed
  errCode : r.values ≠ [] → t.errCode = 0
  cNo : t.cNo = wrap32 (10 * r.values.sum)
  dCNo : t.dCNo = 0
  avgCNo : t.avgCNo = mean r.values
  devCNo : r.values.length ≤ t.devCNr.length → t.devCNo = deviation r.values
  room : n ≤ t.devCNr.length
  keeps : t.Keeps r.values

/-- A test that has just been started, and no earlier one was cut short. -/
structure AtTest.Starts (n : Nat) (t : AtTest) : Prop where
  testFlag : t.testFlag = true
  signalMode : t.signalMode = false
  state : t.state = .inprogress
  testNum : t.hal.testNum = n
  successNum : t.successNum = 0
  prevSuccessNum : t.prevSuccessNum = 0
  failureNum : t.failureNum = 0
  waitNum : t.waitNum = 0
  cNo : t.cNo = 0
  dCNo : t.dCNo = 0
  avgCNo : t.avgCNo = 0
  devCNo : t.devCNo = 0
  room : n ≤ t.devCNr.length

theorem AtTest.Starts.measuring (starts : t.Starts n) : Measuring n t.result ⟨[], []⟩ t where
  testFlag := starts.testFlag
  signalMode := starts.signalMode
  state := starts.state
  testNum := starts.testNum
  result := rfl
  successNum := starts.successNum
  prevSuccessNum := starts.prevSuccessNum
  failureNum := starts.failureNum
  waitNum := starts.waitNum
  errCode some_ := absurd rfl some_
  cNo := starts.cNo
  dCNo := starts.dCNo
  avgCNo := starts.avgCNo
  devCNo _ := starts.devCNo
  room := starts.room
  keeps _ inside := absurd inside (Nat.not_lt_zero _)

/-- No reads that have ended would have ended the test. -/
def Unended (n : Nat) (r : Rounds) : Prop := ∀ k, ¬ Ends n (r.closed.take k)

theorem AtTest.Starts.begun (starts : t.Starts n) :
    Measuring n t.result (roundsOf []) t ∧ Unended n (roundsOf []) := by
  refine ⟨starts.measuring, fun k => ?_⟩
  rw [roundsOf, List.foldl_nil, List.take_nil, Ends, if_pos List.flatten_nil]
  decide

@[simp] theorem Rounds.add_value_values (r : Rounds) (snr : Int) : (r.add (.value snr)).values = r.values ++ [snr] :=
  (List.append_assoc ..).symm

@[simp] theorem Rounds.add_readEnd_values (r : Rounds) : (r.add .readEnd).values = r.values := by
  simp [add, values]

/-- The satellites of a sentence are entered. -/
theorem Measuring.enter (measuring : Measuring n before r t) (prn snr : Vector Int atSatellites) :
    Measuring n before r { t with prn := prn, snr := snr } := { measuring with }

/-- A value in the counting mode, and nothing else of the modes. -/
theorem Measuring.heard (measuring : Measuring n before r t) (snr : Int) :
    t.heard snr = { t.countValue snr with cn := wrap32 (snr * 10) } := by
  simp only [AtTest.heard, measuring.signalMode, measuring.testFlag, Bool.false_eq_true, false_and, if_false, if_true]

theorem Measuring.countValue (measuring : Measuring n before r t) (snr : Int) :
    Measuring n before (r.add (.value snr)) { t.countValue snr with
      cn := wrap32 (snr * 10), devCNo := deviation (r.add (.value snr)).values } where
  testFlag := measuring.testFlag
  signalMode := measuring.signalMode
  state := measuring.state
  testNum := measuring.testNum
  result := measuring.result
  successNum := by simp [AtTest.countValue, measuring.successNum]
  prevSuccessNum := measuring.prevSuccessNum
  failureNum := measuring.failureNum
  waitNum := measuring.waitNum
  errCode _ := rfl
  cNo := by
    rw [Rounds.add_value_values, List.sum_append, List.sum_singleton, Int.mul_add]
    simp only [AtTest.countValue]
    rw [measuring.cNo, wrap32_wrap32_add, wrap32_add_wrap32, Int.mul_comm snr]
  dCNo := measuring.dCNo
  avgCNo := by
    rw [Rounds.add_value_values, mean, List.sum_append, List.sum_singleton, Int.mul_add, List.length_append,
      List.length_singleton]
    simp only [AtTest.countValue]
    rw [measuring.cNo, wrap32_wrap32_add, wrap32_add_wrap32, Int.mul_comm snr, measuring.successNum]
    rfl
  devCNo _ := rfl
  room := by
    simp only [AtTest.countValue, List.length_set]
    exact measuring.room
  keeps := by
    intro j inside stored
    simp only [Rounds.add_value_values, List.length_append, List.length_singleton] at inside
    simp only [AtTest.countValue, List.length_set] at stored
    simp only [AtTest.countValue, Rounds.add_value_values, measuring.successNum, List.getD_eq_getElem?_getD]
    rcases Nat.lt_or_ge j r.values.length with earlier | last
    · have kept := measuring.keeps j earlier stored
      rw [List.getElem?_set_ne (by omega), List.getElem_append_left earlier, ← kept, List.getD_eq_getElem?_getD]
    · obtain rfl : j = r.values.length := by omega
      rw [List.getElem?_set_self stored, List.getElem_concat_length rfl, Option.getD_some, Int.mul_comm snr]

/-- The tested satellite is found with a value. -/
theorem Measuring.meet_value (measuring : Measuring n before r t) {i : Nat} (sounding : t.snrAt i ≠ 0) :
    Measuring n before (r.add (.value (t.snrAt i))) (t.meet i).1 := by
  have counted := measuring.countValue (t.snrAt i)
  have met : (t.meet i).1 = { t.countValue (t.snrAt i) with
      cn := wrap32 (t.snrAt i * 10), devCNo := (t.heard (t.snrAt i)).deviate.devCNo } := by
    simp only [AtTest.meet, if_pos sounding]
    rw [AtTest.deviate_eq _ (by rw [measuring.heard]; exact measuring.dCNo), measuring.heard]
  rw [met]
  refine { counted with devCNo := fun fits => ?_ }
  rw [measuring.heard]
  exact AtTest.deviate_devCNo counted.keeps counted.successNum (by simp) fits counted.avgCNo counted.dCNo

/-- The tested satellite is found without a value. -/
theorem Measuring.meet_silent (measuring : Measuring n before r t) {i : Nat} (silence : t.snrAt i = 0) :
    Measuring n before r (t.meet i).1 := by
  obtain ⟨testNum, silent⟩ : ∃ testNum, t.silent = { t with testNum := testNum, sigSucNum := 0 } := by
    rw [AtTest.silent]
    split
    · exact ⟨_, rfl⟩
    · exact ⟨_, rfl⟩
  have met : (t.meet i).1 =
      { t with testNum := testNum, sigSucNum := 0, devCNo := t.silent.deviate.devCNo } := by
    simp only [AtTest.meet, silence, ne_eq, not_true_eq_false, if_false]
    rw [AtTest.deviate_eq _ (by rw [silent]; exact measuring.dCNo), silent]
  rw [met]
  refine { measuring with devCNo := fun fits => ?_ }
  rw [silent]
  by_cases some_ : r.values = []
  · have none_ : t.successNum = 0 := by rw [measuring.successNum, some_, List.length_nil]
    rw [AtTest.deviate, if_neg (by simpa using none_)]
    exact measuring.devCNo fits
  · exact AtTest.deviate_devCNo measuring.keeps measuring.successNum some_ fits measuring.avgCNo measuring.dCNo

theorem searchLoop_eq (t : AtTest) (indices : List Nat) :
    (gpsAtCommandSearchLoop t indices).1 =
      match indices.find? fun i => decide (t.prnAt i = t.hal.prnNum) with
      | some i => (t.meet i).1
      | none => t := by
  induction indices with
  | nil => rfl
  | cons i rest ih =>
    rw [gpsAtCommandSearchLoop]
    by_cases met : t.prnAt i = t.hal.prnNum
    · rw [if_pos met, List.find?_cons_of_pos (by simpa using met)]
    · rw [if_neg met, List.find?_cons_of_neg (by simpa using met)]
      exact ih

/-- A finished group is searched, and its value counts. -/
theorem Measuring.search (measuring : Measuring n before r t) (svCount : Int) :
    Measuring n before ((t.searchEvents svCount).foldl Rounds.add r) (gpsAtCommandTestProc t svCount).1 := by
  have running : t.state ≠ .done := by rw [measuring.state]; nofun
  have counting : ¬ t.signalMode = true := by rw [measuring.signalMode]; nofun
  rw [gpsAtCommandTestProc, if_pos running, if_neg counting, gpsAtCommandSearchSatellite, searchLoop_eq,
    AtTest.searchEvents, if_pos ⟨running, fun signal => absurd signal counting⟩, AtTest.found]
  split
  · next i found =>
    by_cases silence : t.snrAt i = 0
    · rw [if_neg fun counts : t.Counts i => counts.1 silence]
      exact measuring.meet_silent silence
    · rw [if_pos ⟨silence, measuring.testFlag⟩]
      exact measuring.meet_value silence
  · exact measuring

theorem Measuring.tested (measuring : Measuring n before r t) (num seq cnt svCount : Int) :
    Measuring n before ((gsvTestEvents num seq cnt svCount t).foldl Rounds.add r)
      (gsvTest num seq cnt svCount t).1 := by
  rw [gsvTest, gsvTestEvents]
  split_ifs
  · exact measuring.search svCount
  · exact measuring

theorem waits_eq_length {rounds : List (List Int)} (quiet : rounds.flatten = []) : waits rounds = rounds.length := by
  rw [waits, List.takeWhile_eq_self_iff.mpr (flatten_eq_nil_iff_empty.mp quiet)]

private theorem closed_flatten (r : Rounds) : (r.closed ++ [r.opened]).flatten = r.values := by
  rw [List.flatten_append, List.flatten_singleton]
  rfl

private theorem sameCount_iff (r : Rounds) (some_ : r.values ≠ []) :
    r.closed.flatten.length = r.values.length ↔ r.closed.flatten ≠ [] ∧ r.opened = [] := by
  rw [Rounds.values, List.length_append, Nat.left_eq_add, List.length_eq_zero_iff]
  exact ⟨fun none_ => ⟨fun quiet => some_ (by rw [Rounds.values, quiet, none_]; rfl), none_⟩, fun both => both.2⟩

/-- The count at the end of a read, which is the last one exactly if the reads end the test. -/
theorem Measuring.countRead (measuring : Measuring n before r t) : ∃ failureNum waitNum completedNum errCode,
    t.countRead = ({ t with
      failureNum := failureNum, waitNum := waitNum, completedNum := completedNum, errCode := errCode },
      decide (Ends n (r.closed ++ [r.opened]))) ∧
    failureNum = idle (r.closed ++ [r.opened]) ∧ waitNum = waits (r.closed ++ [r.opened]) ∧
    (¬ Ends n (r.closed ++ [r.opened]) → errCode = t.errCode) ∧
    (Ends n (r.closed ++ [r.opened]) → errCode = (if r.values = [] then 32 else 0) ∧
      completedNum = if r.values = [] then 1 else completed (r.closed ++ [r.opened])) := by
  have flat := closed_flatten r
  by_cases quiet : r.values = []
  · have none_ : ¬ 0 < t.successNum := by rw [measuring.successNum, quiet]; exact lt_irrefl 0
    obtain ⟨closed, opened⟩ : r.closed.flatten = [] ∧ r.opened = [] := List.append_eq_nil_iff.mp quiet
    have waited : t.waitNum + 1 = (r.closed ++ [r.opened]).length := by
      rw [measuring.waitNum, waits_eq_length closed, List.length_append, List.length_singleton]
    have silent : t.waitNum + 1 = waits (r.closed ++ [r.opened]) := by
      rw [waits_eq_length (flat.trans quiet), waited]
    have failed : t.failureNum = idle (r.closed ++ [r.opened]) := by
      rw [idle_concat, if_neg fun both => both.1 closed, Nat.add_zero, measuring.failureNum]
    have ends : Ends n (r.closed ++ [r.opened]) ↔ t.waitNum + 1 = maxValidStatusWaitCount := by
      rw [Ends, flat, if_pos quiet, waited]
    rw [AtTest.countRead, if_neg none_, if_pos quiet, if_pos quiet]
    dsimp only
    by_cases last : t.waitNum + 1 = maxValidStatusWaitCount
    · rw [if_pos last, decide_eq_true (ends.mpr last)]
      exact ⟨_, _, _, _, rfl, failed, silent, fun more => absurd (ends.mpr last) more, fun _ => ⟨rfl, rfl⟩⟩
    · rw [if_neg last, decide_eq_false (ends.not.mpr last)]
      exact ⟨_, _, _, _, rfl, failed, silent, fun _ => rfl, fun over_ => absurd (ends.mp over_) last⟩
  · have some_ : 0 < t.successNum := by
      rw [measuring.successNum]
      exact List.length_pos_iff.mpr quiet
    have same : t.prevSuccessNum = t.successNum ↔ r.closed.flatten ≠ [] ∧ r.opened = [] := by
      rw [measuring.prevSuccessNum, measuring.successNum]
      exact sameCount_iff r quiet
    have failed : (if t.prevSuccessNum = t.successNum then t.failureNum + 1 else t.failureNum) =
        idle (r.closed ++ [r.opened]) := by
      rw [idle_concat, measuring.failureNum, if_congr same rfl rfl]
      split <;> rfl
    have waited : t.waitNum = waits (r.closed ++ [r.opened]) := by
      have sounding : ¬ (r.closed.flatten = [] ∧ r.opened = []) := fun both => quiet (List.append_eq_nil_iff.mpr both)
      rw [waits_concat, if_neg sounding, Nat.add_zero, measuring.waitNum]
    have count : t.successNum + idle (r.closed ++ [r.opened]) = completed (r.closed ++ [r.opened]) := by
      rw [completed_eq, flat, measuring.successNum]
    have ends : Ends n (r.closed ++ [r.opened]) ↔ completed (r.closed ++ [r.opened]) = n := by
      rw [Ends, flat, if_neg quiet]
    refine ⟨idle (r.closed ++ [r.opened]), t.waitNum, completed (r.closed ++ [r.opened]), t.errCode, ?_, rfl, waited,
      fun _ => rfl, fun _ => ?_⟩
    · rw [AtTest.countRead, if_pos some_]
      split at failed
      · next stale =>
        rw [if_pos stale]
        dsimp only
        simp only [failed, count, measuring.testNum, ends, Nat.cast_inj]
      · next fresh =>
        rw [if_neg fresh]
        dsimp only
        simp only [failed, count, measuring.testNum, ends, Nat.cast_inj]
    · rw [if_neg quiet, if_neg quiet]
      exact ⟨measuring.errCode quiet, rfl⟩

/-- A read has ended, and the test goes on. -/
theorem Measuring.readEnd (measuring : Measuring n before r t) {failureNum waitNum : Nat} (completedNum : Nat)
    (failed : failureNum = idle (r.closed ++ [r.opened])) (waited : waitNum = waits (r.closed ++ [r.opened])) :
    Measuring n before (r.add .readEnd) { t with
      failureNum := failureNum, waitNum := waitNum, completedNum := completedNum, prevSuccessNum := t.successNum } := by
  have same := r.add_readEnd_values
  refine { measuring with
    prevSuccessNum := measuring.successNum.trans (congrArg List.length (closed_flatten r).symm)
    failureNum := failed, waitNum := waited, successNum := ?successNum, errCode := ?errCode, cNo := ?cNo
    avgCNo := ?avgCNo, devCNo := ?devCNo, keeps := ?keeps }
  case successNum => rw [same]; exact measuring.successNum
  case errCode => rw [same]; exact measuring.errCode
  case cNo => rw [same]; exact measuring.cNo
  case avgCNo => rw [same]; exact measuring.avgCNo
  case devCNo => rw [same]; exact measuring.devCNo
  case keeps => rw [same]; exact measuring.keeps

/-- Stopping the driver keeps the result. -/
@[simp] theorem AtTest.finish_result (env : AtEnv) (t : AtTest) : (t.finish env).result = t.result := by
  rw [finish, mtkGpsTestStop]
  split_ifs <;> rfl

/-- The result of a test that ends. -/
theorem Measuring.report_result (measuring : Measuring n before r t) (last : Ends n (r.closed ++ [r.opened]))
    {failureNum waitNum completedNum prevSuccessNum : Nat} {errCode : Int}
    (error : errCode = if r.values = [] then 32 else 0)
    (count : completedNum = if r.values = [] then 1 else completed (r.closed ++ [r.opened])) :
    ({ t with
      failureNum := failureNum, waitNum := waitNum, completedNum := completedNum, errCode := errCode
      prevSuccessNum := prevSuccessNum } : AtTest).report.result = reportOf before (r.closed ++ [r.opened]) := by
  have flat := closed_flatten r
  have fits : r.values.length ≤ t.devCNr.length := by
    by_cases quiet : r.values = []
    · rw [quiet]
      exact Nat.zero_le _
    · rw [Ends, flat, if_neg quiet, completed_eq, flat] at last
      exact le_trans (by omega) measuring.room
  rw [reportOf, flat]
  simp only [AtTest.report, AtTest.measured, measuring.result, measuring.successNum, measuring.avgCNo,
    measuring.devCNo fits, error, count, Nat.cast_ite, Nat.cast_one]
  rfl

/-- The start of the parser counts nothing, counts a read, or ends the test. -/
theorem Measuring.tick (measuring : Measuring n before r t) (env : AtEnv) (endTag : Bool) :
    (t.tickEvents env endTag = [] ∧ (t.tick env endTag).1 = t) ∨
    (t.tickEvents env endTag = [.readEnd] ∧ ¬ Ends n (r.closed ++ [r.opened]) ∧
      Measuring n before (r.add .readEnd) (t.tick env endTag).1) ∨
    (t.tickEvents env endTag = [.readEnd, .result (reportOf before (r.closed ++ [r.opened]))] ∧
      Ends n (r.closed ++ [r.opened])) := by
  have counting : t.testFlag = true ∨ t.signalTestBegin = true := .inl measuring.testFlag
  rw [AtTest.tickEvents, AtTest.tick, if_pos counting, if_pos counting]
  by_cases due : t.hal.timeDelay ≤ wrap32 (env.now - t.startTime)
  · rw [if_pos due, if_pos due]
    cases endTag with
    | false => exact .inl ⟨rfl, rfl⟩
    | true =>
      obtain ⟨failureNum, waitNum, completedNum, errCode, counted, failed, waited, same, last⟩ := measuring.countRead
      rw [if_pos rfl, if_pos rfl, counted]
      dsimp only
      by_cases over_ : Ends n (r.closed ++ [r.opened])
      · obtain ⟨error, count⟩ := last over_
        rw [decide_eq_true over_, if_pos rfl, if_pos rfl, AtTest.finish_result, measuring.report_result over_ error count]
        exact .inr (.inr ⟨rfl, over_⟩)
      · rw [decide_eq_false over_, if_neg Bool.false_ne_true, if_neg Bool.false_ne_true, same over_]
        exact .inr (.inl ⟨rfl, over_, measuring.readEnd completedNum failed waited⟩)
  · rw [if_neg due, if_neg due]
    exact .inl ⟨rfl, rfl⟩

end Steps

section Thread

variable {F : Type} {pf : Platform F}

/-- Entering satellites changes nothing of the test but its tables. -/
theorem gsvNoteLoop_test (tzer : List Token) (update : NmeaReader pf → Nat → NmeaReader pf) (indices : List Nat)
    (r : NmeaReader pf) (t : AtTest) :
    ∃ prn snr, (gsvNoteLoop tzer update indices r t).2.1 = { t with prn := prn, snr := snr } := by
  induction indices generalizing r t with
  | nil => exact ⟨t.prn, t.snr, rfl⟩
  | cons idx rest ih =>
    obtain ⟨prn, snr, entered⟩ := ih (update r idx) (gsvNote pf tzer idx r.svCount t)
    exact ⟨prn, snr, entered⟩

/-- What a line does to the test: the count of its read, and the search of the group it finishes. -/
theorem nmeaReaderParseAt_test {env : ParseEnv} (registered : env.callbacksSize = pf.sizeofGpsCallbacksMtk)
    {s : NmeaState pf} (holds : s.reader.HoldsLine) (atEnv : AtEnv) (t : AtTest) :
    (nmeaReaderParseAt env atEnv s t).test =
      if ParsesGsv atEnv s t then
        let entered := gsvEntered s (t.tick atEnv s.gpsNmeaEndTag).1
        (gsvTest (strToInt (field s.reader.line 1)) (strToInt (field s.reader.line 2))
          (strToInt (field s.reader.line 3)) entered.1 entered.2).1
      else (t.tick atEnv s.gpsNmeaEndTag).1 := by
  have tooShort := holds.short_iff 0 5
  have tokens : nmeaTokenizerInit s.reader.inBuf.toList 0 s.reader.pos = s.reader.tokens := rfl
  rw [nmeaReaderParseAt, tokens]
  dsimp only
  by_cases waits : (t.tick atEnv s.gpsNmeaEndTag).2 = true
  · rw [if_pos waits, if_neg fun gsv : ParsesGsv atEnv s t => Bool.false_ne_true (gsv.1.symm.trans waits)]
  · rw [if_neg waits, ← holds.length_line]
    by_cases long : s.reader.line.length < 9 ∨ (field s.reader.line 0).length < 5
    · have ignored : sentenceKind s.reader.line = .ignored := if_pos long
      have other : ¬ ParsesGsv atEnv s t := fun gsv => by
        have wrong := ignored.symm.trans gsv.2
        contradiction
      rw [if_neg other]
      rcases long with line | id
      · rw [if_pos line]
      · split
        · rfl
        · rw [if_pos (tooShort.mpr id)]
    · have dispatched := nmeaReaderDispatchAt_eq registered holds long (t.tick atEnv s.gpsNmeaEndTag).1
      rw [if_neg (not_or.mp long).1, if_neg (tooShort.not.mpr (not_or.mp long).2), dispatched]
      dsimp only
      by_cases gsv : sentenceKind s.reader.line = .gsv
      · have parses : ParsesGsv atEnv s t := ⟨Bool.eq_false_of_not_eq_true waits, gsv⟩
        rw [if_pos gsv, if_pos parses]
        simp only [parseGsvAt, holds.int]
        rfl
      · rw [if_neg gsv, if_neg fun both : ParsesGsv atEnv s t => gsv both.2]

theorem Unended.values {n : Nat} {r : Rounds} (unended : Unended n r) (values : List Int) :
    Unended n ((values.map CountEvent.value).foldl Rounds.add r) := by
  induction values generalizing r with
  | nil => exact unended
  | cons value values ih => exact ih unended

theorem Unended.readEnd {n : Nat} {r : Rounds} (unended : Unended n r) (more : ¬ Ends n (r.closed ++ [r.opened])) :
    Unended n (r.add .readEnd) := by
  intro k
  rw [Rounds.add]
  rcases Nat.lt_or_ge r.closed.length k with whole | earlier
  · rwa [List.take_of_length_le (by rw [List.length_append]; exact whole)]
  · rw [List.take_append_of_le_length earlier]
    exact unended k

def CountEvent.isResult : CountEvent → Bool
  | .result _ => true
  | .value _ | .readEnd => false

/-- What the events do to a test that is running: it goes on, or they end it. -/
def Goes (n : Nat) (before : Vector Int 8) (r : Rounds) (out : List CountEvent) (t : AtTest) : Prop :=
  ((∀ e ∈ out, e.isResult = false) ∧ Measuring n before (out.foldl Rounds.add r) t ∧
    (Unended n r → Unended n (out.foldl Rounds.add r))) ∨
  (Ends n (r.closed ++ [r.opened]) ∧
    ∃ after, out = .readEnd :: .result (reportOf before (r.closed ++ [r.opened])) :: after)

variable {n : Nat} {before : Vector Int 8} {r : Rounds} {t : AtTest}

theorem Measuring.goes (measuring : Measuring n before r t) : Goes n before r [] t :=
  .inl ⟨nofun, measuring, id⟩

/-- The end of a sentence counts values only. -/
theorem gsvTestEvents_values (num seq cnt svCount : Int) (t : AtTest) :
    ∃ values : List Int, gsvTestEvents num seq cnt svCount t = values.map .value := by
  rw [gsvTestEvents, AtTest.searchEvents]
  split_ifs
  · split
    · split_ifs
      · exact ⟨[_], rfl⟩
      · exact ⟨[], rfl⟩
    · exact ⟨[], rfl⟩
  · exact ⟨[], rfl⟩
  · exact ⟨[], rfl⟩

theorem values_calm (values : List Int) : ∀ e ∈ values.map CountEvent.value, e.isResult = false :=
  List.forall_mem_map.mpr fun _ _ => rfl

/-- The search at the end of a line goes on from the rounds that the count of the read has left. -/
theorem Measuring.searchLine {rounds : Rounds} (running : Measuring n before rounds t) (s : NmeaState pf) :
    Measuring n before ((gsvTestEvents (strToInt (field s.reader.line 1)) (strToInt (field s.reader.line 2))
        (strToInt (field s.reader.line 3)) (gsvEntered s t).1 (gsvEntered s t).2).foldl Rounds.add rounds)
      (gsvTest (strToInt (field s.reader.line 1)) (strToInt (field s.reader.line 2))
        (strToInt (field s.reader.line 3)) (gsvEntered s t).1 (gsvEntered s t).2).1 := by
  have entered : Measuring n before rounds (gsvEntered s t).2 := by
    obtain ⟨prn, snr, tables⟩ := gsvNoteLoop_test s.reader.tokens
      (gsvUpdate s.reader.tokens (isBds s.reader.line) s.svUsedInFix)
      (List.range (gsvSvNum (strToInt (field s.reader.line 2)) (strToInt (field s.reader.line 3))).toNat)
      (gsvStart (strToInt (field s.reader.line 2)) s.reader) t
    rw [gsvEntered]
    dsimp only
    rw [tables]
    exact running.enter prn snr
  exact entered.tested _ _ _ _

theorem Measuring.line (measuring : Measuring n before r t) {env : ParseEnv}
    (registered : env.callbacksSize = pf.sizeofGpsCallbacksMtk) {s : NmeaState pf} (holds : s.reader.HoldsLine)
    (atEnv : AtEnv) :
    Goes n before r (lineEvents atEnv s t) (nmeaReaderParseAt env atEnv s t).test := by
  rw [lineEvents, nmeaReaderParseAt_test registered holds]
  rcases measuring.tick atEnv s.gpsNmeaEndTag with ⟨none_, same⟩ | ⟨one, more, running⟩ | ⟨over_, last⟩
  · rw [none_, same, List.nil_append]
    split
    · obtain ⟨values, counted⟩ := gsvTestEvents_values (strToInt (field s.reader.line 1))
        (strToInt (field s.reader.line 2)) (strToInt (field s.reader.line 3)) (gsvEntered s t).1 (gsvEntered s t).2
      have searched := measuring.searchLine s
      dsimp only
      rw [counted] at searched ⊢
      exact .inl ⟨values_calm values, searched, fun unended => unended.values values⟩
    · exact measuring.goes
  · rw [one]
    split
    · generalize (t.tick atEnv s.gpsNmeaEndTag).1 = ticked at running ⊢
      obtain ⟨values, counted⟩ := gsvTestEvents_values (strToInt (field s.reader.line 1))
        (strToInt (field s.reader.line 2)) (strToInt (field s.reader.line 3)) (gsvEntered s ticked).1
        (gsvEntered s ticked).2
      have searched := running.searchLine s
      dsimp only
      rw [counted] at searched ⊢
      exact .inl ⟨List.forall_mem_cons.mpr ⟨rfl, values_calm values⟩, searched,
        fun unended => (unended.readEnd more).values values⟩
    · exact .inl ⟨List.forall_mem_singleton.mpr rfl, running, fun unended => unended.readEnd more⟩
  · rw [over_]
    exact .inr ⟨last, _, rfl⟩

/-- A byte that completes no line leaves the test alone. -/
theorem nmeaReaderAddcAt_test (env : ParseEnv) (atEnv : AtEnv) (s : NmeaState pf) (t : AtTest) (c : Byte) :
    (nmeaReaderAddcAt env atEnv s t c).test =
      if s.reader.Completes c then (nmeaReaderParseAt env atEnv { s with reader := s.reader.push c } t).test else t := by
  rw [nmeaReaderAddcAt]
  dsimp only
  by_cases skipping : s.reader.overflow = true
  · rw [if_pos skipping, if_neg fun completes : s.reader.Completes c => Bool.false_ne_true (completes.1.symm.trans skipping)]
  · rw [if_neg skipping]
    by_cases full : nmeaMaxSize ≤ s.reader.pos
    · rw [if_pos full, if_neg fun completes : s.reader.Completes c => absurd completes.2.1 (not_lt.mpr full)]
    · rw [if_neg full]
      by_cases ended : c = lf
      · have completes : s.reader.Completes c := ⟨Bool.eq_false_of_not_eq_true skipping, not_le.mp full, ended⟩
        rw [if_pos ended, if_pos completes]
      · rw [if_neg ended, if_neg fun completes : s.reader.Completes c => ended completes.2.2]

theorem AtThreadState.countEvents_byte {s : AtThreadState pf} {c : Byte} {rest : List Byte}
    (feeding : s.thread.mode = .feed (c :: rest)) (now : Int) (mnlProp : List Byte) (env : AtEnv) :
    s.countEvents (.thread (.byte now mnlProp) env) =
      if s.thread.nmea.reader.Completes c then
        lineEvents env { s.thread.nmea with
          reader := s.thread.nmea.reader.push c, gpsNmeaEndTag := rest.isEmpty || s.thread.nmea.gpsNmeaEndTag } s.test
      else [] := by
  rw [countEvents, feeding]

/-- A step of the loop that gives no order to the test. -/
theorem atMeasurement_step {s next : AtThreadState pf} {a : AtAction} {out : List CountEvent} (loops : a.Loops)
    (measuring : Measuring n before r s.test) (stepped : (atMeasurement pf).step s a = some (next, out)) :
    Goes n before r out next.test := by
  obtain ⟨⟨last, used⟩, moved, same⟩ := Option.map_eq_some_iff.mp stepped
  cases same
  unfold atThreadStep at moved
  split at moved
  · contradiction
  cases a with
  | datagram | testStart | testStop => exact loops.elim
  | testControl cmd =>
    dsimp only at moved
    split_ifs at moved
    cases moved
    cases cmd with
    | start | stop =>
      simp only [AtThreadState.testCommand]
      split <;> exact measuring.goes
    | smsNoResult => exact measuring.goes
  | setInit init =>
    cases moved
    exact Measuring.goes { measuring with }
  | thread a env =>
    dsimp only at moved
    unfold AtThreadState.threadStep at moved
    split at moved
    · split_ifs at moved
      · cases moved
        exact measuring.goes
      · cases moved
        exact measuring.goes
    · next now mnlProp =>
      split at moved
      · next c rest feeding =>
        cases moved
        rw [AtThreadState.countEvents_byte feeding]
        dsimp only [AtThreadState.addByte]
        rw [nmeaReaderAddcAt_test]
        by_cases completes : s.thread.nmea.reader.Completes c
        · obtain rfl := completes.2.2
          rw [if_pos completes, if_pos completes]
          exact measuring.line rfl (NmeaReader.holdsLine_push completes.2.1) env
        · rw [if_neg completes, if_neg completes]
          exact measuring.goes
      · contradiction
    · next notStart notByte =>
      obtain ⟨moved, -, same⟩ := Option.map_eq_some_iff.mp moved
      cases same
      cases a with
      | byte now mnlProp => exact absurd rfl (notByte now mnlProp)
      | control | gpsFd | read | readFails | hangUp | setPositionMode => exact measuring.goes

/-- A run that goes on from the events of an earlier one. -/
theorem Measuring.run {s last : AtThreadState pf} {tape : List AtAction} {history trace : List CountEvent}
    (measuring : Measuring n before (roundsOf history) s.test) (unended : Unended n (roundsOf history))
    (calm : ∀ e ∈ history, e.isResult = false) (loops : ∀ a ∈ tape, a.Loops)
    (ran : (atMeasurement pf).run s tape = some (last, trace)) :
    ∃ running rest, history ++ trace = running ++ rest ∧ (∀ e ∈ running, e.isResult = false) ∧
      Unended n (roundsOf running) ∧
      ((rest = [] ∧ Measuring n before (roundsOf running) last.test) ∨
        ∃ rounds after, rounds = (roundsOf (running ++ [.readEnd])).closed ∧ Ends n rounds ∧
          rest = .readEnd :: .result (reportOf before rounds) :: after) := by
  induction tape generalizing s history trace with
  | nil =>
    cases ran
    rw [List.append_nil]
    exact ⟨history, [], (List.append_nil _).symm, calm, unended, .inl ⟨rfl, measuring⟩⟩
  | cons a tape ih =>
    obtain ⟨here, later⟩ := List.forall_mem_cons.mp loops
    obtain ⟨next, out, more, stepped, tail, rfl⟩ := System.run_cons_iff.mp ran
    rcases atMeasurement_step here measuring stepped with ⟨quiet, kept, none_⟩ | ⟨over_, after, rfl⟩
    · have grown : roundsOf (history ++ out) = out.foldl Rounds.add (roundsOf history) := List.foldl_append ..
      rw [← grown] at kept none_
      obtain ⟨running, rest, split, parts⟩ :=
        ih kept (none_ unended) (List.forall_mem_append.mpr ⟨calm, quiet⟩) later tail
      exact ⟨running, rest, by rw [← split, List.append_assoc], parts⟩
    · refine ⟨history, _, rfl, calm, unended, .inr ⟨_, after ++ more, rfl, ?_, ?_⟩⟩
      · rw [roundsOf_concat]
        exact over_
      · rw [roundsOf_concat]
        rfl

/-- A run whose test has no result is one of a test that is still running. -/
theorem AtTest.Starts.running {s last : AtThreadState pf} {tape : List AtAction} {trace : List CountEvent}
    (starts : s.test.Starts n) (loops : ∀ a ∈ tape, a.Loops)
    (ran : (atMeasurement pf).run s tape = some (last, trace)) (calm : ∀ e ∈ trace, e.isResult = false) :
    Measuring n s.test.result (roundsOf trace) last.test ∧ Unended n (roundsOf trace) := by
  obtain ⟨measuring, none_⟩ := starts.begun
  obtain ⟨running, rest, rfl, -, unended, ⟨rfl, kept⟩ | ⟨rounds, after, -, -, rfl⟩⟩ :=
    measuring.run none_ nofun loops ran
  · rw [List.append_nil]
    exact ⟨kept, unended⟩
  · have wrong := calm _ (List.mem_append_right running (List.mem_cons_of_mem _ List.mem_cons_self))
    contradiction

/-- The rounds that have ended stay. -/
theorem foldl_add_closed (events : List CountEvent) (r : Rounds) :
    r.closed <+: (events.foldl Rounds.add r).closed := by
  induction events generalizing r with
  | nil => exact List.prefix_rfl
  | cons e events ih =>
    refine List.IsPrefix.trans ?_ (ih (r.add e))
    cases e with
    | value | result => exact List.prefix_rfl
    | readEnd => exact List.prefix_append _ _

/-- A test whose reads count for more than its values goes on for ever. -/
theorem Measuring.endless {s last : AtThreadState pf} {tape : List AtAction} {later : List CountEvent}
    (measuring : Measuring n before r s.test) (past : n < completed r.closed) (loops : ∀ a ∈ tape, a.Loops)
    (ran : (atMeasurement pf).run s tape = some (last, later)) : ∀ e ∈ later, e.isResult = false := by
  induction tape generalizing s r later with
  | nil =>
    cases ran
    exact nofun
  | cons a tape ih =>
    obtain ⟨here, there⟩ := List.forall_mem_cons.mp loops
    obtain ⟨next, out, more, stepped, tail, rfl⟩ := System.run_cons_iff.mp ran
    rcases atMeasurement_step here measuring stepped with ⟨quiet, kept, -⟩ | ⟨over_, -⟩
    · have still := past.trans_le (completed_mono (foldl_add_closed out r))
      exact List.forall_mem_append.mpr ⟨quiet, ih kept still there tail⟩
    · exact absurd over_ (not_ends_of_lt (past.trans_le (completed_mono (List.prefix_append _ _))))

end Thread

section Started

variable {env : AtEnv} {t next : AtTest}

/-- No value is counted, and no read. -/
structure AtTest.Idle (t : AtTest) : Prop where
  successNum : t.successNum = 0
  prevSuccessNum : t.prevSuccessNum = 0
  failureNum : t.failureNum = 0
  waitNum : t.waitNum = 0
  cNo : t.cNo = 0
  dCNo : t.dCNo = 0
  devCNo : t.devCNo = 0

theorem AtTest.Idle.stop (idle : t.Idle) (env : AtEnv) : (mtkGpsTestStop env t).1.Idle := by
  rw [mtkGpsTestStop]
  split_ifs
  · exact { idle with }
  · exact { idle with }
  · exact ⟨rfl, idle.prevSuccessNum, idle.failureNum, rfl, rfl, rfl, rfl⟩

/-- A start in the counting mode that succeeds. -/
theorem mtkGpsTestStart_starts {n : Nat} {prnNum timeDelay : Int} (idle : t.Idle) (counting : t.signalMode = false)
    (small : n < 2 ^ 30) (started : mtkGpsTestStart env t n prnNum timeDelay 0 = some (next, 0)) : next.Starts n := by
  have size : allocSize n / 4 = n := by
    rw [allocSize]
    omega
  have stopped : (if t.state ≠ .unknown ∧ t.testModeFlag = true then (mtkGpsTestStop env t).1 else t).Idle ∧
      (if t.state ≠ .unknown ∧ t.testModeFlag = true then (mtkGpsTestStop env t).1 else t).signalMode = false := by
    split
    · refine ⟨idle.stop env, ?_⟩
      rw [mtkGpsTestStop]
      split_ifs
      · exact counting
      · exact counting
      · rfl
    · exact ⟨idle, counting⟩
  rw [mtkGpsTestStart] at started
  generalize (if t.state ≠ .unknown ∧ t.testModeFlag = true then (mtkGpsTestStop env t).1 else t) = ready
    at stopped started
  obtain ⟨idle, counting⟩ := stopped
  dsimp only at started
  split_ifs at started
  · cases started
  unfold AtTest.startDriver at started
  split_ifs at started
  · cases started
  · cases started
  cases started
  exact {
    testFlag := rfl, signalMode := counting, state := rfl, testNum := rfl, avgCNo := rfl
    successNum := idle.successNum, prevSuccessNum := idle.prevSuccessNum, failureNum := idle.failureNum
    waitNum := idle.waitNum, cNo := idle.cNo, dCNo := idle.dCNo, devCNo := idle.devCNo
    room := (List.length_replicate.trans size).ge }

end Started

section Reads

/-- A test of that many values of satellite 1, whose driver has started. -/
def startedTest (testNum : Nat) : AtTest :=
  ((mtkGpsTestStart (answering 0) { AtTest.initial with init := true } testNum 1 2 0).getD (.initial, 0)).1

def startedThread (testNum : Nat) : AtThreadState (Platform.utc 64 satellites_lt) :=
  { freshAtThread with test := startedTest testNum }

/-- Reads of the loop, three seconds later. -/
def readsOf (reads : List (List Byte)) : List AtAction :=
  .thread .gpsFd (answering 3) :: reads.flatMap fun bytes =>
    .thread (.read bytes) (answering 3) :: List.replicate bytes.length (.thread (.byte 3 []) (answering 3))

theorem readsOf_loops (reads : List (List Byte)) : ∀ a ∈ readsOf reads, a.Loops := by
  refine List.forall_mem_cons.mpr ⟨trivial, fun a member => ?_⟩
  obtain ⟨bytes, -, here⟩ := List.mem_flatMap.mp member
  rcases List.mem_cons.mp here with rfl | byte
  · trivial
  · rw [List.eq_of_mem_replicate byte]
    trivial

theorem startedTest_starts {n : Nat} (small : n < 2 ^ 30)
    (started : mtkGpsTestStart (answering 0) { AtTest.initial with init := true } n 1 2 0 = some (startedTest n, 0)) :
    (startedTest n).Starts n :=
  mtkGpsTestStart_starts ⟨rfl, rfl, rfl, rfl, rfl, rfl, rfl⟩ rfl small started

end Reads

section Results

variable {F : Type} {pf : Platform F} {n : Nat}

/-- A test whose reads count for more than its values and that has no result so far never has one. -/
theorem atMeasurement_endless {s middle last : AtThreadState pf} {first second : List AtAction}
    {trace later : List CountEvent} (starts : s.test.Starts n) (loops : ∀ a ∈ first ++ second, a.Loops)
    (ran : (atMeasurement pf).run s first = some (middle, trace)) (calm : ∀ e ∈ trace, e.isResult = false)
    (past : n < completed (roundsOf trace).closed) (more : (atMeasurement pf).run middle second = some (last, later)) :
    ∀ e ∈ later, e.isResult = false := by
  obtain ⟨earlier, rest⟩ := List.forall_mem_append.mp loops
  exact (starts.running earlier ran calm).1.endless past rest more

/-- Reads with one value, none and two for a test of three, and one more read. -/
theorem atMeasurement_endless_three : ∃ middle last trace later,
    (atMeasurement _).run (startedThread 3) (readsOf [groupOfOne ['G', 'P'] ++ [lf], [lf],
      groupOfOne ['G', 'P'] ++ groupOfOne ['B', 'D'] ++ [lf]]) = some (middle, trace) ∧
      (roundsOf trace).closed = [[33], [], [33, 33]] ∧
      (atMeasurement _).run middle [.thread (.read [lf]) (answering 4), .thread (.byte 4 []) (answering 4)] =
        some (last, later) ∧ ∀ e ∈ later, e.isResult = false := by
  have both : (((atMeasurement _).run (startedThread 3) (readsOf [groupOfOne ['G', 'P'] ++ [lf], [lf],
      groupOfOne ['G', 'P'] ++ groupOfOne ['B', 'D'] ++ [lf]])).bind fun first =>
        ((atMeasurement _).run first.1 [.thread (.read [lf]) (answering 4), .thread (.byte 4 []) (answering 4)]).map
          fun second => (first.2, second.2)) =
      some ([.value 33, .readEnd, .readEnd, .value 33, .value 33, .readEnd], [.readEnd]) := by decide +kernel
  obtain ⟨⟨middle, _⟩, ran, more⟩ := Option.bind_eq_some_iff.mp both
  obtain ⟨⟨last, later⟩, more, same⟩ := Option.map_eq_some_iff.mp more
  cases same
  refine ⟨middle, last, _, _, ran, rfl, more, ?_⟩
  refine atMeasurement_endless (startedTest_starts (by decide) rfl) ?_ ran (by decide) (by decide) more
  exact List.forall_mem_append.mpr ⟨readsOf_loops _, by simp [AtAction.Loops]⟩

end Results

end Mt6582.Gps

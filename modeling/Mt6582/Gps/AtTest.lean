import Mt6582.Gps.Platform
import Mathlib.Data.List.Basic

/-! # Starting and stopping the AT test

A build with `GPS_AT_COMMAND` (`MTK_TC1_FEATURE`) can run a test that counts how often one satellite is received. Its data
are globals, written by the AT commands, by the framework's calls and by the NMEA parser. Flags that only ever hold 0 and 1
are booleans; the counters are natural numbers, without the overflow of `int`. What `Dev_CNr` points to is the list of its
entries, empty before the first allocation and after it is freed. A failing start keeps the mode variables only where they
already had the values it leaves behind.
-/

namespace Mt6582.Gps

/-- `MNL_AT_TEST_UNKNOWN` and its siblings. -/
inductive AtTestState where
  | unknown | start | stop | inprogress | done | resultDone
deriving DecidableEq, Repr

/-- `HAL_AT_TEST_T`. -/
structure HalAtTest where
  testNum : Int
  prnNum : Int
  timeDelay : Int
deriving DecidableEq, Repr

/-- The entries of `prn` and `snr`. -/
def atSatellites : Nat := 32

/-- The globals of the test, with `init` of the HAL's state and the parser's `prev_success_num`. -/
structure AtTest where
  init : Bool
  testFlag : Bool
  signalMode : Bool
  signalTestBegin : Bool
  setAlarm : Bool
  cancelAlarm : Bool
  state : AtTestState
  hal : HalAtTest
  startTime : Int
  devCNr : List Int
  prn : Vector Int atSatellites
  snr : Vector Int atSatellites
  cn : Int
  result : Vector Int 8
  testNum : Nat
  cNo : Int
  dCNo : Int
  avgCNo : Int
  devCNo : Int
  completedNum : Nat
  successNum : Nat
  failureNum : Nat
  waitNum : Nat
  sigSucNum : Int
  errCode : Int
  testModeFlag : Bool
  prevSuccessNum : Nat
deriving DecidableEq, Repr

/-- What the test asks of the system: the clock, whether `malloc` finds memory, and the results of `mtk_start` and
`mtk_stop`. -/
structure AtEnv where
  now : Int
  malloc : Bool
  mtkStart : Int
  mtkStop : Int
deriving DecidableEq, Repr

/-- `result` without a measurement. -/
def noResult : Vector Int 8 := #v[1, 0, 0, 0, 0, 0, 0, 0]

/-- The values the globals start with. -/
def AtTest.initial : AtTest where
  init := false
  testFlag := false
  signalMode := false
  signalTestBegin := false
  setAlarm := false
  cancelAlarm := false
  state := .unknown
  hal := ⟨0, 0, 0⟩
  startTime := 0
  devCNr := []
  prn := Vector.replicate _ 0
  snr := Vector.replicate _ 0
  cn := 0
  result := noResult
  testNum := 0
  cNo := 0
  dCNo := 0
  avgCNo := 0
  devCNo := 0
  completedNum := 0
  successNum := 0
  failureNum := 0
  waitNum := 0
  sigSucNum := 0
  errCode := 1
  testModeFlag := true
  prevSuccessNum := 0

/-- `sizeof(int)*test_num`, a 32-bit `size_t`. -/
def allocSize (testNum : Int) : Nat := (4 * testNum % 2 ^ 32).toNat

/-- `mtk_gps_test_stop`. -/
def mtkGpsTestStop (env : AtEnv) (t : AtTest) : AtTest × Int :=
  let t := { t with testModeFlag := true }
  if t.init = false then (t, -1)
  else if env.mtkStop ≠ 0 then (t, -1)
  else
    ({ t with
      hal := ⟨0, 0, 0⟩, testFlag := false, signalMode := false, state := .unknown
      setAlarm := false, cancelAlarm := false, signalTestBegin := false
      successNum := 0, completedNum := 0, waitNum := 0, cNo := 0, dCNo := 0, devCNo := 0, errCode := 1, testNum := 0
      devCNr := [] }, 0)

/-- The variable of the test mode is set. -/
def AtTest.enterMode (t : AtTest) (testMode : Int) : AtTest :=
  if testMode = 1 then { t with signalMode := true } else { t with testFlag := true }

/-- `mtk_gps_test_start` from the check of `init` on. -/
def AtTest.startDriver (env : AtEnv) (t : AtTest) : AtTest × Int :=
  if t.init = false then (t, -1)
  else
    let t := { t with state := .inprogress }
    if env.mtkStart ≠ 0 then ({ t with state := .unknown, testFlag := false }, -1) else (t, 0)

/-- `mtk_gps_test_start`; `none` is the `memset` of a failed allocation, which does not return. -/
def mtkGpsTestStart (env : AtEnv) (t : AtTest) (testNum prnNum timeDelay testMode : Int) : Option (AtTest × Int) :=
  let t := if t.state ≠ .unknown ∧ t.testModeFlag = true then (mtkGpsTestStop env t).1 else t
  let t := { t with hal := ⟨testNum, prnNum, timeDelay⟩, startTime := env.now, avgCNo := 0 }
  if env.malloc = false ∧ allocSize testNum ≠ 0 then none
  else
    let t := { t with devCNr := List.replicate (allocSize testNum / 4) 0 }
    if testNum = 0 ∧ testMode = 0 then some (t, -1) else some ((t.enterMode testMode).startDriver env)

section Start

/-- The mode variables that decide how sentences are parsed. -/
structure SameModes (t next : AtTest) : Prop where
  testFlag : next.testFlag = t.testFlag
  signalMode : next.signalMode = t.signalMode
  state : next.state = t.state

/-- The variable that a start sets for its mode. -/
def AtTest.modeVariable (t : AtTest) (testMode : Int) : Bool := if testMode = 1 then t.signalMode else t.testFlag

variable (env : AtEnv) (t : AtTest) (testNum prnNum timeDelay testMode : Int)

/-- A start that fails leaves the mode variables as they were. -/
def StartAtomic : Prop :=
  ∀ next, mtkGpsTestStart env t testNum prnNum timeDelay testMode = some (next, -1) → SameModes t next

/-- The driver does not fail, or the mode variables are as the failing exit leaves them. -/
def DriverFits : Prop :=
  if t.init = true then env.mtkStart = 0 ∨ (t.testFlag = false ∧ (testMode = 1 → t.signalMode = true))
  else t.modeVariable testMode = true

/-- A start of no tests, one whose `memset` faults, or one that fits the driver. -/
def StartFits : Prop :=
  (testNum = 0 ∧ testMode = 0) ∨ (env.malloc = false ∧ allocSize testNum ≠ 0) ∨ DriverFits env t testMode

variable {env t testNum prnNum timeDelay testMode}

@[simp] theorem AtTest.enterMode_init : (t.enterMode testMode).init = t.init := by
  rw [enterMode]
  split <;> rfl

@[simp] theorem AtTest.enterMode_state : (t.enterMode testMode).state = t.state := by
  rw [enterMode]
  split <;> rfl

@[simp] theorem AtTest.enterMode_signalMode :
    (t.enterMode testMode).signalMode = (decide (testMode = 1) || t.signalMode) := by
  rw [enterMode]
  split
  · next signal => rw [decide_eq_true signal, Bool.true_or]
  · next counting => rw [decide_eq_false counting, Bool.false_or]

@[simp] theorem AtTest.enterMode_testFlag :
    (t.enterMode testMode).testFlag = (!decide (testMode = 1) || t.testFlag) := by
  rw [enterMode]
  split
  · next signal => rw [decide_eq_true signal, Bool.not_true, Bool.false_or]
  · next counting => rw [decide_eq_false counting, Bool.not_false, Bool.true_or]

/-- Entering a mode changes its variable, and no other, unless it is set. -/
theorem AtTest.enterMode_sameModes_iff :
    SameModes t (t.enterMode testMode) ↔ t.modeVariable testMode = true := by
  rw [modeVariable]
  constructor
  · rintro ⟨flag, mode, -⟩
    split
    · next signal => simpa [signal] using mode.symm
    · next counting => simpa [counting] using flag.symm
  · intro already
    split at already
    · next signal => exact ⟨by simp [signal], by simp [already], by simp⟩
    · next counting => exact ⟨by simp [already], by simp [counting], by simp⟩

/-- Failing in the driver keeps the modes of an idle state exactly if it fits. -/
theorem startDriver_sameModes_iff (idle : t.state = .unknown) :
    (∀ next, (t.enterMode testMode).startDriver env = (next, -1) → SameModes t next) ↔
      DriverFits env t testMode := by
  rw [DriverFits]
  cases on : t.init with
  | false =>
    have exits : (t.enterMode testMode).startDriver env = (t.enterMode testMode, -1) :=
      if_pos (by simp [on])
    rw [exits, if_neg Bool.false_ne_true, ← AtTest.enterMode_sameModes_iff]
    constructor
    · exact fun atomic => atomic _ rfl
    · rintro same next found
      cases found
      exact same
  | true =>
    rw [if_pos rfl, AtTest.startDriver, if_neg (by simp [on])]
    rcases Decidable.em (env.mtkStart = 0) with works | fails
    · rw [if_neg (not_not_intro works)]
      constructor
      · exact fun _ => .inl works
      · rintro - next found
        have failed : (0 : Int) = -1 := congrArg Prod.snd found
        contradiction
    · rw [if_pos fails, or_iff_right fails]
      constructor
      · intro atomic
        obtain ⟨flag, mode, -⟩ := atomic _ rfl
        refine ⟨flag.symm, fun signal => ?_⟩
        rw [← mode]
        exact (AtTest.enterMode_signalMode).trans (by rw [decide_eq_true signal, Bool.true_or])
      · rintro ⟨off, signalling⟩ next found
        cases found
        refine ⟨off.symm, ?_, idle.symm⟩
        refine (AtTest.enterMode_signalMode).trans ?_
        rcases Decidable.em (testMode = 1) with signal | counting
        · rw [decide_eq_true signal, Bool.true_or, signalling signal]
        · rw [decide_eq_false counting, Bool.false_or]

/-- From an idle state, a start fails without a trace in the mode variables exactly if it fits. -/
theorem startAtomic_iff (idle : t.state = .unknown) :
    StartAtomic env t testNum prnNum timeDelay testMode ↔ StartFits env t testNum testMode := by
  have known : ¬ (t.state ≠ .unknown ∧ t.testModeFlag = true) := fun running => running.1 idle
  rw [StartAtomic, mtkGpsTestStart, if_neg known, StartFits]
  split_ifs with crashes none
  · exact iff_of_true (fun _ => nofun) (.inr (.inl crashes))
  · refine iff_of_true (fun next found => ?_) (.inl none)
    cases found
    exact ⟨rfl, rfl, rfl⟩
  · rw [or_iff_right none, or_iff_right crashes]
    have driver := @startDriver_sameModes_iff env
      { t with
        hal := ⟨testNum, prnNum, timeDelay⟩, startTime := env.now, avgCNo := 0
        devCNr := List.replicate (allocSize testNum / 4) 0 } testMode idle
    refine Iff.trans ?_ driver
    simp only [Option.some.injEq]
    constructor
    · exact fun atomic next found =>
        ⟨(atomic next found).1, (atomic next found).2, (atomic next found).3⟩
    · exact fun atomic next found =>
        ⟨(atomic next found).1, (atomic next found).2, (atomic next found).3⟩

/-- A started test whose driver cannot be reached. -/
theorem startAtomic_iff_unreachable :
    StartAtomic ⟨0, true, -1, 0⟩ { AtTest.initial with init := true } 5 1 2 0 ↔
      StartFits ⟨0, true, -1, 0⟩ { AtTest.initial with init := true } 5 0 :=
  startAtomic_iff rfl

/-- Before the HAL is initialised, a start fails and leaves the parser in the test mode. -/
theorem uninitialised_not_startAtomic : ¬ ∀ (env : AtEnv) (t : AtTest) (testNum prnNum timeDelay testMode : Int),
    t.state = .unknown → StartAtomic env t testNum prnNum timeDelay testMode := by
  intro atomic
  have failed := atomic ⟨0, true, 0, 0⟩ .initial 5 1 2 0 rfl
    { AtTest.initial with testFlag := true, hal := ⟨5, 1, 2⟩, devCNr := [0, 0, 0, 0, 0] } (by decide)
  exact absurd failed.testFlag (by decide)

end Start

end Mt6582.Gps

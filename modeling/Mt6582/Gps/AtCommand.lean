import Mt6582.Gps.AtTest
import Mt6582.Gps.Nmea.Reader

/-! # The AT commands and the measurement of the tested satellite

`at_command_parser` with its two sub-parsers, without the acknowledgements they send, and the parts of the AT test that
`nmea_reader_parse` runs: the bookkeeping at the end of a read and the search for the tested satellite in a finished group.
The search lists the array elements it uses. An element outside its array, undefined in C, reads as zero and is not
written.
-/

namespace Mt6582.Gps

/-- The arrays of the test, and the buffer for a command. -/
inductive AtArray where
  | prn | snr | devCNr | cmd
deriving DecidableEq, Repr

/-- The use of one array element. -/
structure AtAccess where
  array : AtArray
  index : Int
  size : Nat
deriving DecidableEq, Repr

def AtAccess.InRange (access : AtAccess) : Prop := 0 ≤ access.index ∧ access.index < access.size

instance (access : AtAccess) : Decidable access.InRange := inferInstanceAs (Decidable (_ ∧ _))

section Commands

/-- `GPS_OP`. -/
def gpsOp : List Byte := lit ['A', 'T', '%', 'G', 'P', 'S']

/-- `GNSS_OP`. -/
def gnssOp : List Byte := lit ['A', 'T', '%', 'G', 'N', 'S', 'S']

/-- `GPS_TEST_PRN`. -/
def gpsTestPrn : Int := 1

/-- `isspace` in the C locale. -/
def isspace (c : Byte) : Bool := c = 32 || (9 ≤ c && c ≤ 13)

/-- `strtoul` in base 10 on a 32-bit `unsigned long`, with the text after the number. Without digits nothing is read. -/
def strtoul (text : List Byte) : Nat × List Byte :=
  let body := text.dropWhile isspace
  let signed := body.head? = some minus ∨ body.head? = some 43
  let (value, count, rest) := leadingDigits (if signed then body.tail else body) 0 0
  if count = 0 then (0, text)
  else if 2 ^ 32 ≤ value then (2 ^ 32 - 1, rest)
  else (if body.head? = some minus then (2 ^ 32 - value) % 2 ^ 32 else value, rest)

/-- `at_command_parse_test_num`. -/
def atCommandParseTestNum (cmd : List Byte) : Int :=
  let start := if memEq cmd 0 gnssOp then 8 else 7
  let (res, rest) := strtoul ((cmd.drop start).takeWhile (· ≠ 0))
  if res ≠ 0 ∧ rest = [] then wrap32 res else -1

/-- The byte at `index` is the letter, in either case, and the command ends after it. -/
def endsWithLetter (cmd : List Byte) (index : Nat) (upper lower : Char) : Bool :=
  (memEq cmd index (lit [upper]) || memEq cmd index (lit [lower])) && memEq cmd (index + 1) [0]

/-- `at_gps_command_parser`; `none` where a start does not return. -/
def atGpsCommandParser (env : AtEnv) (cmd : List Byte) (t : AtTest) : Option AtTest :=
  let t := { t with testModeFlag := false }
  if memEq cmd 6 (lit ['=']) then
    if memEq cmd 7 (lit ['?']) && memEq cmd 8 [0] then some t
    else if endsWithLetter cmd 7 'E' 'e' then some t
    else if endsWithLetter cmd 7 'D' 'd' then some t
    else
      let testNum := atCommandParseTestNum cmd
      if 0 ≤ testNum then (mtkGpsTestStart env t testNum gpsTestPrn 2 0).map Prod.fst else some t
  else some t

/-- The result of the last test is cleared. -/
def AtTest.clear (t : AtTest) : AtTest :=
  { t with
    result := noResult
    avgCNo := 0, successNum := 0, completedNum := 0, cNo := 0, dCNo := 0, devCNo := 0, cn := 0 }

/-- The branch for `AT%GNSS=n`, behind the clearing. -/
def atGnssCommandNumber (env : AtEnv) (cmd : List Byte) (t : AtTest) : Option AtTest :=
  let testNum := atCommandParseTestNum cmd
  if t.signalMode = true then
    if testNum ≤ 0 then some (if t.state ≠ .unknown then (mtkGpsTestStop env t).1 else t)
    else some { t with signalTestBegin := true, state := .inprogress, startTime := env.now }
  else if 0 ≤ testNum then (mtkGpsTestStart env t testNum gpsTestPrn 2 0).map Prod.fst
  else some t

/-- `at_gnss_command_parser`. -/
def atGnssCommandParser (env : AtEnv) (cmd : List Byte) (t : AtTest) : Option AtTest :=
  let t := { t with testModeFlag := false }
  if memEq cmd 7 (lit ['=']) then
    if memEq cmd 8 (lit ['?']) && memEq cmd 9 [0] then some t
    else if endsWithLetter cmd 8 'S' 's' then
      if t.testFlag = false then (mtkGpsTestStart env t 0 1 2 1).map Prod.fst
      else
        let t := { t with signalMode := true, testFlag := false }
        some (if t.cancelAlarm = false then { t with cancelAlarm := false, setAlarm := false } else t)
    else if endsWithLetter cmd 8 'E' 'e' then some (if t.state = .unknown then t else (mtkGpsTestStop env t).1)
    else atGnssCommandNumber env cmd t.clear
  else some t

/-- `at_command_parser`. -/
def atCommandParser (env : AtEnv) (cmd : List Byte) (t : AtTest) : Option AtTest :=
  if memEq cmd 0 gpsOp then atGpsCommandParser env cmd t
  else if memEq cmd 0 gnssOp then atGnssCommandParser env cmd t
  else some t

end Commands

section Bookkeeping

/-- `MAX_VALID_STATUS_WAIT_COUNT`. -/
def maxValidStatusWaitCount : Nat := 20

/-- The count at the end of a read, with `test_stopped`. -/
def AtTest.countRead (t : AtTest) : AtTest × Bool :=
  if 0 < t.successNum then
    let t := if t.prevSuccessNum = t.successNum then { t with failureNum := t.failureNum + 1 } else t
    let t := { t with completedNum := t.successNum + t.failureNum }
    (t, decide (t.completedNum = t.hal.testNum))
  else
    let t := { t with waitNum := t.waitNum + 1 }
    if t.waitNum = maxValidStatusWaitCount then ({ t with errCode := 32, completedNum := 1 }, true) else (t, false)

/-- The entries of `result` that a measurement sets. -/
def AtTest.measured (t : AtTest) (error success completed average deviation : Int) : Vector Int 8 :=
  #v[error, t.result[1], t.result[2], success, completed, average, deviation, t.result[7]]

/-- The result of a test that has ended. -/
def AtTest.report (t : AtTest) : AtTest :=
  { t with
    result := t.measured t.errCode t.successNum t.completedNum t.avgCNo t.devCNo
    waitNum := 0, state := .done, errCode := 1 }

/-- The stop of the driver after a test in the counting mode. -/
def AtTest.finish (env : AtEnv) (t : AtTest) : AtTest :=
  if t.testFlag = true then { (mtkGpsTestStop env t).1 with failureNum := 0, prevSuccessNum := 0 } else t

/-- The start of `nmea_reader_parse`; the second component says that it returns there. -/
def AtTest.tick (env : AtEnv) (endTag : Bool) (t : AtTest) : AtTest × Bool :=
  if t.testFlag = true ∨ t.signalTestBegin = true then
    if t.hal.timeDelay ≤ wrap32 (env.now - t.startTime) then
      if endTag = true then
        let counted := t.countRead
        let t := { counted.1 with prevSuccessNum := counted.1.successNum }
        (if counted.2 = true then t.report.finish env else t, false)
      else (t, false)
    else (t, true)
  else (t, false)

end Bookkeeping

section Search

/-- `prn[i]`. -/
def AtTest.prnAt (t : AtTest) (i : Nat) : Int := t.prn.toList.getD i 0

/-- `snr[i]`. -/
def AtTest.snrAt (t : AtTest) (i : Nat) : Int := t.snr.toList.getD i 0

/-- A value in the counting mode. -/
def AtTest.countValue (t : AtTest) (snr : Int) : AtTest :=
  let cNo := wrap32 (t.cNo + wrap32 (snr * 10))
  { t with
    errCode := 0, cNo := cNo, devCNr := t.devCNr.set t.successNum (wrap32 (snr * 10))
    successNum := t.successNum + 1, avgCNo := cNo.tdiv (t.successNum + 1) }

/-- The branch for a value other than zero. -/
def AtTest.heard (t : AtTest) (snr : Int) : AtTest :=
  let t := if t.signalMode = true ∧ t.signalTestBegin = false then { t with state := .inprogress } else t
  let t := if t.signalMode = true ∧ t.signalTestBegin = true then { t with state := .resultDone, sigSucNum := 1 } else t
  let t := if t.testFlag = true then t.countValue snr else t
  { t with cn := wrap32 (snr * 10) }

/-- The branch for a value of zero. -/
def AtTest.silent (t : AtTest) : AtTest :=
  let t := if t.cancelAlarm = true ∧ t.testFlag = true then { t with testNum := t.testNum + 1 } else t
  { t with sigSucNum := 0 }

/-- The deviation of the values counted so far; the `sqrt` of a sum that is not negative. -/
def AtTest.deviate (t : AtTest) : AtTest :=
  if t.successNum ≠ 0 then
    let sum := ((List.range t.successNum).map fun j => t.devCNr.getD j 0).foldl
      (fun sum value => wrap32 (sum + wrap32 (wrap32 (value - t.avgCNo) * wrap32 (value - t.avgCNo)))) t.dCNo
    { t with devCNo := (sum.tdiv t.successNum).toNat.sqrt, dCNo := 0 }
  else t

/-- A value is counted. -/
def AtTest.Counts (t : AtTest) (i : Nat) : Prop := t.snrAt i ≠ 0 ∧ t.testFlag = true

instance (t : AtTest) (i : Nat) : Decidable (t.Counts i) := inferInstanceAs (Decidable (_ ∧ _))

/-- The tested satellite is found at `i`. -/
def AtTest.meet (t : AtTest) (i : Nat) : AtTest × List AtAccess :=
  let met := if t.snrAt i ≠ 0 then t.heard (t.snrAt i) else t.silent
  (met.deviate, ⟨.snr, i, atSatellites⟩ :: (if t.Counts i then [⟨.devCNr, t.successNum, t.devCNr.length⟩] else []) ++
    (List.range met.successNum).map fun j => ⟨.devCNr, j, t.devCNr.length⟩)

/-- The loop of `gps_at_command_search_satellite` over the indices that remain. -/
def gpsAtCommandSearchLoop (t : AtTest) : List Nat → AtTest × List AtAccess
  | [] => (t, [])
  | i :: rest =>
      if t.prnAt i = t.hal.prnNum then ((t.meet i).1, ⟨.prn, i, atSatellites⟩ :: (t.meet i).2)
      else
        let later := gpsAtCommandSearchLoop t rest
        (later.1, ⟨.prn, i, atSatellites⟩ :: later.2)

/-- `gps_at_command_search_satellite`, for the `sv_count` of the reader. -/
def gpsAtCommandSearchSatellite (t : AtTest) (svCount : Int) : AtTest × List AtAccess :=
  gpsAtCommandSearchLoop t (List.range svCount.toNat)

/-- `gps_at_command_test_proc`. -/
def gpsAtCommandTestProc (t : AtTest) (svCount : Int) : AtTest × List AtAccess :=
  if t.state ≠ .done then
    if t.signalMode = true then
      if t.signalTestBegin = true then
        let searched := gpsAtCommandSearchSatellite t svCount
        let t := searched.1
        ({ t with result := t.measured 0 t.sigSucNum 1 t.cn 0 }, searched.2)
      else (t, [])
    else gpsAtCommandSearchSatellite t svCount
  else (t, [])

/-- The entries of `Dev_CNr` suffice when the tested satellite is found at `i`: for the values counted so far, and for a
new one. -/
def AtTest.Room (t : AtTest) (i : Nat) : Prop :=
  if t.Counts i then t.successNum < t.devCNr.length else t.successNum ≤ t.devCNr.length

/-- Where the search finds the tested satellite, if it does. -/
def AtTest.found (t : AtTest) (svCount : Int) : Option Nat :=
  (List.range svCount.toNat).find? fun i => decide (t.prnAt i = t.hal.prnNum)

/-- A finished group is searched. -/
def AtTest.Searches (t : AtTest) : Prop := t.state ≠ .done ∧ (t.signalMode = true → t.signalTestBegin = true)

/-- A search stays inside `Dev_CNr`. -/
def AtTest.SearchFits (t : AtTest) (svCount : Int) : Prop := t.Searches → ∀ i ∈ t.found svCount, t.Room i

variable (t : AtTest)

theorem AtTest.heard_successNum (snr : Int) :
    (t.heard snr).successNum = if t.testFlag = true then t.successNum + 1 else t.successNum := by
  simp only [heard]
  split_ifs <;> rfl

theorem AtTest.silent_successNum : t.silent.successNum = t.successNum := by
  simp only [silent]
  split <;> rfl

/-- The number of values after the tested satellite is met. -/
theorem AtTest.met_successNum (i : Nat) :
    (if t.snrAt i ≠ 0 then t.heard (t.snrAt i) else t.silent).successNum =
    if t.Counts i then t.successNum + 1 else t.successNum := by
  rw [apply_ite AtTest.successNum, heard_successNum, silent_successNum]
  rcases Decidable.em (t.snrAt i ≠ 0) with sounding | silence
  · rw [if_pos sounding]
    exact if_congr (and_iff_right sounding).symm rfl rfl
  · rw [if_neg silence, if_neg (fun counts : t.Counts i => silence counts.1)]

private theorem entries_inRange_iff (count size : Nat) :
    (∀ access ∈ (List.range count).map (fun j : Nat => (⟨.devCNr, j, size⟩ : AtAccess)), access.InRange) ↔ count ≤ size := by
  simp only [List.forall_mem_map, List.mem_range, AtAccess.InRange]
  constructor
  · intro all
    by_contra more
    have last := (all (count - 1) (by omega)).2
    omega
  · intro fits j inside
    omega

/-- Meeting the tested satellite stays inside the arrays exactly if there is room. -/
theorem AtTest.meet_inRange_iff {i : Nat} (inside : i < atSatellites) :
    (∀ access ∈ (t.meet i).2, access.InRange) ↔ t.Room i := by
  have table : (⟨.snr, i, atSatellites⟩ : AtAccess).InRange :=
    ⟨Int.natCast_nonneg i, by dsimp only; exact_mod_cast inside⟩
  simp only [meet, List.cons_append, List.forall_mem_cons, List.forall_mem_append,
    entries_inRange_iff, met_successNum]
  rw [Room]
  split_ifs with counts
  · simp only [List.forall_mem_singleton, AtAccess.InRange]
    constructor
    · rintro ⟨-, -, fits⟩
      omega
    · intro fits
      exact ⟨table, by omega, by omega⟩
  · exact ⟨fun all => all.2.2, fun fits => ⟨table, nofun, fits⟩⟩

theorem searchLoop_inRange_iff {indices : List Nat} (inside : ∀ i ∈ indices, i < atSatellites) :
    (∀ access ∈ (gpsAtCommandSearchLoop t indices).2, access.InRange) ↔
      ∀ i ∈ indices.find? (fun i => decide (t.prnAt i = t.hal.prnNum)), t.Room i := by
  induction indices with
  | nil => exact iff_of_true nofun nofun
  | cons i rest ih =>
    obtain ⟨first, later⟩ := List.forall_mem_cons.mp inside
    have table : (⟨.prn, i, atSatellites⟩ : AtAccess).InRange :=
      ⟨Int.natCast_nonneg i, by dsimp only; exact_mod_cast first⟩
    rw [gpsAtCommandSearchLoop]
    rcases Decidable.em (t.prnAt i = t.hal.prnNum) with met | other
    · rw [if_pos met, List.find?_cons_of_pos (by simpa using met), List.forall_mem_cons,
        t.meet_inRange_iff first]
      simp only [table, true_and, Option.mem_def, Option.some.injEq, forall_eq']
    · rw [if_neg other, List.find?_cons_of_neg (by simpa using other),
        List.forall_mem_cons, ← ih later]
      exact and_iff_right table

/-- The test's part at the end of a group of at most 32 satellites stays inside the arrays exactly if the search does. -/
theorem testProc_inRange_iff {svCount : Int} (few : svCount ≤ atSatellites) :
    (∀ access ∈ (gpsAtCommandTestProc t svCount).2, access.InRange) ↔ t.SearchFits svCount := by
  have inside : ∀ i ∈ List.range svCount.toNat, i < atSatellites := by
    intro i member
    have := List.mem_range.mp member
    omega
  have search := searchLoop_inRange_iff t inside
  rw [AtTest.SearchFits, AtTest.Searches, gpsAtCommandTestProc]
  split_ifs with running signal begun
  · exact search.trans (by simp [running, begun, AtTest.found])
  · exact iff_of_true nofun fun searches => absurd (searches.2 signal) begun
  · exact search.trans (by simp [running, signal, AtTest.found])
  · exact iff_of_true nofun fun searches => absurd searches.1 running

end Search

end Mt6582.Gps

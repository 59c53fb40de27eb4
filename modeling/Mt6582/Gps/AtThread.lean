import Mt6582.Gps.AtCommand
import Mt6582.Gps.Nmea.LegalPrn
import Mt6582.Gps.Nmea.SvCount

/-! # The thread of a build with AT commands

The parser and the loop of `gps_state_thread` as the build with `GPS_AT_COMMAND` compiles them: GSV sentences also fill `prn`
and `snr` at the index `sv_count`, finished groups are searched, and datagrams of the AT socket end up in `cmd`. What is seen
of the thread is every use of an element of the four arrays. All are inside their array exactly in the runs in which no
datagram fills `cmd`, no group brings a satellite after its 32nd, and the tested satellite is never found with more values
than `Dev_CNr` has entries for.
-/

namespace Mt6582.Gps

open List Machine

variable {F : Type} {pf : Platform F}

section Parser

/-- The entries made for the satellite at loop index `idx`. -/
def gsvNote (pf : Platform F) (tzer : List Token) (idx : Nat) (svCount : Int) (t : AtTest) : AtTest :=
  { t with
    prn := storeAt t.prn svCount (nmeaTokenizerGet tzer (4 * (idx + 1))).int
    snr := storeAt t.snr svCount (pf.toInt ((nmeaTokenizerGet tzer (4 * (idx + 1) + 3)).float pf)) }

/-- The satellite loop of a GSV branch over the indices that remain; `update` stores one satellite. -/
def gsvNoteLoop (tzer : List Token) (update : NmeaReader pf → Nat → NmeaReader pf) :
    List Nat → NmeaReader pf → AtTest → NmeaReader pf × AtTest × List AtAccess
  | [], r, t => (r, t, [])
  | idx :: rest, r, t =>
      let later := gsvNoteLoop tzer update rest (update r idx) (gsvNote pf tzer idx r.svCount t)
      (later.1, later.2.1, [⟨.prn, r.svCount, atSatellites⟩, ⟨.snr, r.svCount, atSatellites⟩] ++ later.2.2)

/-- The end of a GSV branch: a finished group is searched in the test modes. -/
def gsvTest (num seq cnt svCount : Int) (t : AtTest) : AtTest × List AtAccess :=
  if seq = num ∧ svCount ≤ cnt ∧ (t.testFlag = true ∨ t.signalMode = true) then gpsAtCommandTestProc t svCount else (t, [])

/-- The call of `nmea_reader_update_sv_status_gnss` in the loop. -/
def gsvUpdate (tzer : List Token) (bds : Bool) (used : SvUsedInFix) (r : NmeaReader pf) (idx : Nat) : NmeaReader pf :=
  nmeaReaderUpdateSvStatusGnss used r (gsvSvId tzer bds idx) (nmeaTokenizerGet tzer (4 * (idx + 1) + 1))
    (nmeaTokenizerGet tzer (4 * (idx + 1) + 2)) (nmeaTokenizerGet tzer (4 * (idx + 1) + 3))

/-- The call of `nmea_reader_update_sv_status_gps` in the loop. -/
def gsvUpdateGps (tzer : List Token) (bds : Bool) (r : NmeaReader pf) (idx : Nat) : NmeaReader pf :=
  nmeaReaderUpdateSvStatusGps r (gsvSvId tzer bds idx) (nmeaTokenizerGet tzer (4 * (idx + 1) + 1))
    (nmeaTokenizerGet tzer (4 * (idx + 1) + 2)) (nmeaTokenizerGet tzer (4 * (idx + 1) + 3))

/-- The GSV branch for `GpsCallbacks_mtk`. -/
def parseGsvAt (tzer : List Token) (bds : Bool) (used : SvUsedInFix) (r : NmeaReader pf) (t : AtTest) :
    NmeaReader pf × AtTest × List AtAccess :=
  let num := (nmeaTokenizerGet tzer 1).int
  let seq := (nmeaTokenizerGet tzer 2).int
  let cnt := (nmeaTokenizerGet tzer 3).int
  let filled := gsvNoteLoop tzer (gsvUpdate tzer bds used) (List.range (gsvSvNum seq cnt).toNat) (gsvStart seq r) t
  let tested := gsvTest num seq cnt filled.1.svCount filled.2.1
  (gsvClose num seq cnt filled.1, tested.1, filled.2.2 ++ tested.2)

/-- The GSV branch for `GpsCallbacks`. -/
def parseGsvGpsAt (tzer : List Token) (bds : Bool) (r : NmeaReader pf) (t : AtTest) :
    NmeaReader pf × AtTest × List AtAccess :=
  let num := (nmeaTokenizerGet tzer 1).int
  let seq := (nmeaTokenizerGet tzer 2).int
  let cnt := (nmeaTokenizerGet tzer 3).int
  let filled := gsvNoteLoop tzer (gsvUpdateGps tzer bds) (List.range (gsvSvNum seq cnt).toNat) (gsvStart seq r) t
  let tested := gsvTest num seq cnt filled.1.svCount filled.2.1
  (gsvCloseGps num seq cnt filled.1, tested.1, filled.2.2 ++ tested.2)

/-- The dispatch on the sentence id. Only the GSV branches differ from the build without AT commands, and no other branch
takes their sentences. -/
def nmeaReaderDispatchAt (env : ParseEnv) (tzer : List Token) (tok : Token) (s : NmeaState pf) (t : AtTest) :
    NmeaState pf × AtTest × List AtAccess :=
  let bds := memEq tok.mem tok.p (lit ['B', 'D'])
  let is := memEq tok.mem tok.p
  if env.callbacksSize = pf.sizeofGpsCallbacksMtk ∧ memEq tok.mem (tok.p + 2) (lit ['G', 'S', 'V']) then
    let parsed := parseGsvAt tzer bds s.svUsedInFix s.reader t
    ({ s with reader := parsed.1 }, parsed.2)
  else if env.callbacksSize = pf.sizeofGpsCallbacks ∧
      (is (lit ['G', 'P', 'G', 'S', 'V']) ∨ is (lit ['G', 'L', 'G', 'S', 'V'])) then
    let parsed := parseGsvGpsAt tzer bds s.reader t
    ({ s with reader := parsed.1 }, parsed.2)
  else (nmeaReaderDispatch env tzer tok s, t, [])

/-- What a byte or a line leads to. -/
structure AtParsed (pf : Platform F) where
  nmea : NmeaState pf
  calls : List (Call pf)
  test : AtTest
  accesses : List AtAccess

/-- `nmea_reader_parse`. -/
def nmeaReaderParseAt (env : ParseEnv) (atEnv : AtEnv) (s : NmeaState pf) (t : AtTest) : AtParsed pf :=
  let ticked := t.tick atEnv s.gpsNmeaEndTag
  if ticked.2 = true then ⟨s, [], ticked.1, []⟩
  else if s.reader.pos < 9 then ⟨s, [], ticked.1, []⟩
  else
    let tzer := nmeaTokenizerInit s.reader.inBuf.toList 0 s.reader.pos
    let tok := nmeaTokenizerGet tzer 0
    if tok.fin < tok.p + 5 then ⟨s, [], ticked.1, []⟩
    else
      let dispatched := nmeaReaderDispatchAt env tzer tok s ticked.1
      let report := nmeaReaderReport env dispatched.1
      ⟨report.1, report.2, dispatched.2.1, dispatched.2.2⟩

/-- `nmea_reader_addc`. -/
def nmeaReaderAddcAt (env : ParseEnv) (atEnv : AtEnv) (s : NmeaState pf) (t : AtTest) (c : Byte) : AtParsed pf :=
  let r := s.reader
  if r.overflow then ⟨{ s with reader := { r with overflow := c ≠ lf } }, [], t, []⟩
  else if nmeaMaxSize ≤ r.pos then ⟨{ s with reader := { r with overflow := true, pos := 0 } }, [], t, []⟩
  else
    let s := { s with reader := r.push c }
    if c = lf then
      let parsed := nmeaReaderParseAt env atEnv s t
      { parsed with
        nmea := { parsed.nmea with reader := { parsed.nmea.reader with pos := 0 } }
        calls := .parse s.reader.line :: parsed.calls ++
          [.nmea parsed.nmea.reader.fix.timestamp parsed.nmea.reader.line] }
    else ⟨s, [], t, []⟩

end Parser

section Loop

/-- `CMD_TEST_START`, `CMD_TEST_STOP` and `CMD_TEST_SMS_NO_RESULT`. -/
inductive TestCommand where
  | start | stop | smsNoResult
deriving DecidableEq, Repr

/-- The thread with the test's globals; a process that crashed does nothing more. -/
structure AtThreadState (pf : Platform F) where
  thread : ThreadState pf
  test : AtTest
  testStarted : Bool
  crashed : Bool

/-- A step of the loop, a command or datagram of the test, a call of the framework, or a change of `init`. -/
inductive AtAction where
  | thread (a : ThreadAction) (env : AtEnv)
  | testControl (cmd : TestCommand)
  | datagram (bytes : List Byte) (env : AtEnv)
  | testStart (testNum prnNum timeDelay testMode : Int) (env : AtEnv)
  | testStop (env : AtEnv)
  | setInit (init : Bool)

/-- `sizeof(cmd)`. -/
def cmdSize : Nat := 20

/-- `nmea_reader_set_callback`: in the counting mode, registering clears nothing. -/
def nmeaReaderSetCallbackAt (t : AtTest) (r : NmeaReader pf) (registering : Bool) : NmeaReader pf :=
  if t.testFlag = true then r else nmeaReaderSetCallback r registering

/-- The branches for the test's commands. -/
def AtThreadState.testCommand (s : AtThreadState pf) : TestCommand → AtThreadState pf
  | .start =>
      if s.testStarted = false ∧ s.test.testModeFlag = true then
        { s with
          testStarted := true
          thread := { s.thread with nmea.reader := nmeaReaderSetCallbackAt s.test s.thread.nmea.reader true } }
      else s
  | .stop =>
      if s.testStarted = true then
        { s with
          testStarted := false
          thread := { s.thread with nmea.reader := nmeaReaderSetCallbackAt s.test s.thread.nmea.reader false } }
      else s
  | .smsNoResult => s

/-- The body of the byte loop. -/
def AtThreadState.addByte (s : AtThreadState pf) (c : Byte) (rest : List Byte) (now : Int) (mnlProp : List Byte)
    (env : AtEnv) : AtParsed pf :=
  nmeaReaderAddcAt (s.thread.parseEnv now mnlProp) env
    { s.thread.nmea with gpsNmeaEndTag := rest.isEmpty || s.thread.nmea.gpsNmeaEndTag } s.test c

/-- The test goes on with new data, or the process has crashed. -/
def AtThreadState.setTest (s : AtThreadState pf) (test : Option AtTest) : AtThreadState pf :=
  match test with
  | some test => { s with test := test }
  | none => { s with crashed := true }

/-- The steps of the loop itself; those that the test does not touch are those of the build without it. -/
def AtThreadState.threadStep (s : AtThreadState pf) (env : AtEnv) :
    ThreadAction → Option (AtThreadState pf × List AtAccess)
  | .control .start =>
      if s.thread.mode = .poll then
        if s.thread.started then some (s, [])
        else
          let reader := nmeaReaderSetCallbackAt s.test s.thread.nmea.reader true
          some ({ s with thread := { s.thread with started := true, nmea.reader := reader } }, [])
      else none
  | .byte now mnlProp =>
      match s.thread.mode with
      | .feed (c :: rest) =>
          let added := s.addByte c rest now mnlProp env
          let thread := { s.thread with nmea := added.nmea, mode := ThreadState.feedMode rest }
          some ({ s with thread := thread, test := added.test }, added.accesses)
      | _ => none
  | a => (gpsStateThreadStep s.thread a).map fun next => ({ s with thread := next.1 }, [])

def atThreadStep (s : AtThreadState pf) (a : AtAction) : Option (AtThreadState pf × List AtAccess) :=
  if s.crashed = true then none
  else
    match a with
    | .thread a env => s.threadStep env a
    | .testControl cmd => if s.thread.mode = .poll then some (s.testCommand cmd, []) else none
    | .datagram bytes env =>
        -- `recvfrom` drops what does not fit, and `cmd[ret]` ends the text.
        if s.thread.mode = .poll then
          some (s.setTest (atCommandParser env (bytes.take cmdSize) s.test), [⟨.cmd, (bytes.take cmdSize).length, cmdSize⟩])
        else none
    | .testStart testNum prnNum timeDelay testMode env =>
        some (s.setTest ((mtkGpsTestStart env s.test testNum prnNum timeDelay testMode).map Prod.fst), [])
    | .testStop env => some ({ s with test := (mtkGpsTestStop env s.test).1 }, [])
    | .setInit init => some ({ s with test.init := init }, [])

/-- The thread, observed by the array elements it uses. -/
def atThread (pf : Platform F) : System (AtThreadState pf) AtAction AtAccess := ⟨atThreadStep⟩

/-- The thread has just initialised its reader; the globals are whatever they are. -/
structure AtThreadState.Initial (s : AtThreadState pf) : Prop where
  thread : s.thread.Initial
  testStarted : s.testStarted = false
  crashed : s.crashed = false

end Loop

section Conditions

/-- How many of the satellites are stored. -/
def SvView.taken : List (GnssSvInfo F) → SvView pf → Nat
  | [], _ => 0
  | info :: rest, v =>
      (if prnRejected info.prn ∨ pf.gnssMaxSvs ≤ v.count ∨ pf.gnssMaxSvs ≤ wrap32 (v.count + v.status.numSvs) then 0
      else 1) + SvView.taken rest (v.store info)

/-- The satellites of a GSV sentence. -/
def gsvInfos (pf : Platform F) (line : List Byte) (used : SvUsedInFix) : List (GnssSvInfo F) :=
  (List.range (gsvSvNum (strToInt (field line 2)) (strToInt (field line 3))).toNat).map (gsvInfo pf line used)

/-- Each satellite of the sentence has at most 31 of its group stored before it. -/
def GsvFits (line : List Byte) (v : SvView pf) : Prop :=
  gsvInfos pf line v.used = [] ∨
    (v.start (strToInt (field line 2))).count +
      SvView.taken (gsvInfos pf line v.used).dropLast (v.start (strToInt (field line 2))) < atSatellites

/-- The count and the test's data once the satellites of the sentence are entered. -/
def gsvEntered (s : NmeaState pf) (t : AtTest) : Int × AtTest :=
  let seq := strToInt (field s.reader.line 2)
  let indices := List.range (gsvSvNum seq (strToInt (field s.reader.line 3))).toNat
  let filled := gsvNoteLoop s.reader.tokens (gsvUpdate s.reader.tokens (isBds s.reader.line) s.svUsedInFix) indices
    (gsvStart seq s.reader) t
  (filled.1.svCount, filled.2.1)

/-- If the sentence finishes a group in a test mode, the search of the group fits. -/
def GroupFits (line : List Byte) (entered : Int × AtTest) : Prop :=
  strToInt (field line 2) = strToInt (field line 1) → entered.1 ≤ strToInt (field line 3) →
    (entered.2.testFlag = true ∨ entered.2.signalMode = true) → entered.2.SearchFits entered.1

/-- The line in the buffer is not parsed, is no GSV sentence, or fits the arrays. -/
def LineFits (env : AtEnv) (s : NmeaState pf) (t : AtTest) : Prop :=
  (t.tick env s.gpsNmeaEndTag).2 = false → sentenceKind s.reader.line = .gsv →
    GsvFits s.reader.line s.svView ∧ GroupFits s.reader.line (gsvEntered s (t.tick env s.gpsNmeaEndTag).1)

/-- A datagram leaves a byte of `cmd` for its end; the line that a byte completes fits the arrays. -/
def AtThreadState.Fits (s : AtThreadState pf) : AtAction → Prop
  | .datagram bytes _ => bytes.length < cmdSize
  | .thread (.byte _ _) env => ∀ c rest, s.thread.mode = .feed (c :: rest) → s.thread.nmea.reader.Completes c →
      LineFits env { s.thread.nmea with
        reader := s.thread.nmea.reader.push c, gpsNmeaEndTag := rest.isEmpty || s.thread.nmea.gpsNmeaEndTag } s.test
  | _ => True

end Conditions

section Sentence

/-- The loop stores the satellites as the build without the test does. -/
theorem gsvNoteLoop_reader (tzer : List Token) (update : NmeaReader pf → Nat → NmeaReader pf)
    (indices : List Nat)
    (r : NmeaReader pf) (t : AtTest) :
    (gsvNoteLoop tzer update indices r t).1 = indices.foldl update r := by
  induction indices generalizing r t with
  | nil => rfl
  | cons idx rest ih => exact ih (update r idx) _

theorem parseGsvAt_reader (tzer : List Token) (bds : Bool) (used : SvUsedInFix) (r : NmeaReader pf)
    (t : AtTest) :
    (parseGsvAt tzer bds used r t).1 = parseGsv tzer bds used r := by
  simp only [parseGsvAt, gsvNoteLoop_reader]
  rfl

/-- Storing a satellite leaves the count or raises it by one. -/
structure CountStep (r next : NmeaReader pf) : Prop where
  grows : r.svCount ≤ next.svCount
  by_one : next.svCount ≤ r.svCount + 1

theorem gsvUpdate_countStep (tzer : List Token) (bds : Bool) (used : SvUsedInFix)
    {r : NmeaReader pf} (idx : Nat) (nonneg : 0 ≤ r.svCount) :
    CountStep r (gsvUpdate tzer bds used r idx) := by
  have small := pf.gnssMaxSvs_lt
  simp only [gsvUpdate, nmeaReaderUpdateSvStatusGnss]
  split_ifs with rejected full
  · exact ⟨le_rfl, by omega⟩
  · exact ⟨le_rfl, by omega⟩
  · have room : r.svCount < pf.gnssMaxSvs := by
      simp only [not_or, not_le] at rejected
      exact rejected.2.2.2.2
    have next : wrap32 (r.svCount + 1) = r.svCount + 1 := wrap32_eq_self (by omega) (by omega)
    exact ⟨by simp only [next]; omega, by simp only [next]; omega⟩

variable {tzer : List Token} {update : NmeaReader pf → Nat → NmeaReader pf}

theorem foldl_grows (each : ∀ r idx, 0 ≤ r.svCount → CountStep r (update r idx))
    (indices : List Nat) {r : NmeaReader pf}
    (nonneg : 0 ≤ r.svCount) : r.svCount ≤ (indices.foldl update r).svCount := by
  induction indices generalizing r with
  | nil => exact le_rfl
  | cons idx rest ih =>
    have first := (each r idx nonneg).grows
    exact first.trans (ih (nonneg.trans first))

/-- The loop stays inside the tables exactly if it reaches its last satellite with a count below 32. -/
theorem gsvNoteLoop_inRange_iff (each : ∀ r idx, 0 ≤ r.svCount → CountStep r (update r idx))
    (indices : List Nat) {r : NmeaReader pf} (nonneg : 0 ≤ r.svCount) (t : AtTest) :
    (∀ access ∈ (gsvNoteLoop tzer update indices r t).2.2, access.InRange) ↔
      indices = [] ∨ (indices.dropLast.foldl update r).svCount < atSatellites := by
  induction indices generalizing r t with
  | nil => exact iff_of_true nofun (.inl rfl)
  | cons idx rest ih =>
    have first := each r idx nonneg
    have here :
        (∀ access ∈ [(⟨.prn, r.svCount, atSatellites⟩ : AtAccess), ⟨.snr, r.svCount, atSatellites⟩], access.InRange) ↔
        r.svCount < atSatellites := by
      simp only [forall_mem_cons, not_mem_nil, false_imp_iff, implies_true, and_true,
        AtAccess.InRange, nonneg, true_and, and_self]
    rw [gsvNoteLoop, forall_mem_append, here, ih (nonneg.trans first.grows),
      or_iff_right (cons_ne_nil idx rest)]
    cases rest with
    | nil => exact ⟨fun all => all.1, fun last => ⟨last, .inl rfl⟩⟩
    | cons next rest =>
      rw [or_iff_right (cons_ne_nil next rest), dropLast_cons_of_ne_nil (cons_ne_nil next rest),
        foldl_cons]
      constructor
      · exact fun all => all.2
      · intro last
        have grows := foldl_grows each (next :: rest).dropLast (nonneg.trans first.grows)
        exact ⟨by have := first.grows; omega, last⟩

/-- A loop that stays inside the tables leaves a count of at most 32. -/
theorem foldl_few (each : ∀ r idx, 0 ≤ r.svCount → CountStep r (update r idx)) {indices : List Nat}
    {r : NmeaReader pf} (nonneg : 0 ≤ r.svCount) (few : r.svCount ≤ atSatellites)
    (fits : indices = [] ∨ (indices.dropLast.foldl update r).svCount < atSatellites) :
    (indices.foldl update r).svCount ≤ atSatellites := by
  rcases eq_nil_or_concat indices with rfl | ⟨before, last, rfl⟩
  · exact few
  · have below := fits.resolve_left (by simp)
    rw [concat_eq_append, dropLast_concat] at below
    rw [concat_eq_append, foldl_concat]
    have step := each (before.foldl update r) last (nonneg.trans (foldl_grows each before nonneg))
    exact step.by_one.trans (by omega)

/-- The count after storing satellites: those taken are added. -/
theorem SvView.count_foldl_store (infos : List (GnssSvInfo F)) {v : SvView pf}
    (nonneg : 0 ≤ v.count) :
    (infos.foldl SvView.store v).count = v.count + SvView.taken infos v := by
  induction infos generalizing v with
  | nil => simp [taken]
  | cons info rest ih =>
    have small := pf.gnssMaxSvs_lt
    rw [foldl_cons, taken]
    by_cases dropped : prnRejected info.prn ∨ pf.gnssMaxSvs ≤ v.count ∨
      pf.gnssMaxSvs ≤ wrap32 (v.count + v.status.numSvs)
    · have same : v.store info = v := if_pos dropped
      rw [if_pos dropped, same, Nat.zero_add]
      exact ih nonneg
    · have stored : (v.store info).count = v.count + 1 := by
        have room : v.count < pf.gnssMaxSvs := by
          simp only [not_or, not_le] at dropped
          exact dropped.2.1
        rw [store, if_neg dropped]
        exact wrap32_eq_self (by omega) (by omega)
      rw [if_neg dropped, ih (by omega), stored]
      push_cast
      omega

variable {s : NmeaState pf}

/-- The sentence's satellites are entered inside the tables exactly if they fit. -/
theorem gsvFits_iff (holds : s.reader.HoldsLine) (nonneg : 0 ≤ s.reader.svCount)
    (indices : List Nat)
    (all : indices = List.range (gsvSvNum (strToInt (field s.reader.line 2)) (strToInt (field s.reader.line 3))).toNat) :
    (indices = [] ∨ (indices.dropLast.foldl (gsvUpdate s.reader.tokens (isBds s.reader.line) s.svUsedInFix)
      (gsvStart (strToInt (field s.reader.line 2)) s.reader)).svCount < atSatellites) ↔
      GsvFits s.reader.line s.svView := by
  have start : (gsvStart (strToInt (field s.reader.line 2)) s.reader).Shows
      (s.svView.start (strToInt (field s.reader.line 2))) := by
    rw [gsvStart, SvView.start]
    split <;> exact ⟨rfl, rfl⟩
  have begun : 0 ≤ (s.svView.start (strToInt (field s.reader.line 2))).count := by
    rw [SvView.start]
    split
    · exact le_rfl
    · exact nonneg
  have stored := gsvStores_shows holds start s.svUsedInFix indices.dropLast
  have counted :=
    SvView.count_foldl_store (indices.dropLast.map (gsvInfo pf s.reader.line s.svUsedInFix)) begun
  have named :
      gsvInfos pf s.reader.line s.svView.used =
      indices.map (gsvInfo pf s.reader.line s.svUsedInFix) := by
    rw [gsvInfos, ← all]
    rfl
  rw [GsvFits, named, map_eq_nil_iff, ← map_dropLast, ← counted, ← stored.count]
  rfl

theorem gsvStart_count (seq : Int) (r : NmeaReader pf) (nonneg : 0 ≤ r.svCount) :
    0 ≤ (gsvStart seq r).svCount ∧ (gsvStart seq r).svCount ≤ r.svCount := by
  rw [gsvStart]
  split
  · exact ⟨le_rfl, nonneg⟩
  · exact ⟨nonneg, le_rfl⟩

theorem gsvTest_inRange_iff (num seq cnt : Int) {svCount : Int} (few : svCount ≤ atSatellites)
    (t : AtTest) :
    (∀ access ∈ (gsvTest num seq cnt svCount t).2, access.InRange) ↔
      (seq = num → svCount ≤ cnt → (t.testFlag = true ∨ t.signalMode = true) → t.SearchFits svCount) := by
  rw [gsvTest]
  split_ifs with finished
  · rw [testProc_inRange_iff t few]
    exact ⟨fun fits _ _ _ => fits, fun fits => fits finished.1 finished.2.1 finished.2.2⟩
  · exact iff_of_true nofun fun last complete mode => absurd ⟨last, complete, mode⟩ finished

/-- A GSV sentence stays inside the arrays exactly if its satellites and the search of its group fit. -/
theorem parseGsvAt_inRange_iff (holds : s.reader.HoldsLine) (nonneg : 0 ≤ s.reader.svCount)
    (few : s.reader.svCount ≤ atSatellites) (t : AtTest) :
    (∀ access ∈ (parseGsvAt s.reader.tokens (isBds s.reader.line) s.svUsedInFix s.reader t).2.2, access.InRange) ↔
      GsvFits s.reader.line s.svView ∧ GroupFits s.reader.line (gsvEntered s t) := by
  have each (r : NmeaReader pf) (idx : Nat) (nonneg : 0 ≤ r.svCount) :=
    gsvUpdate_countStep s.reader.tokens (isBds s.reader.line) s.svUsedInFix idx nonneg
  have start := gsvStart_count (strToInt (field s.reader.line 2)) s.reader nonneg
  simp only [parseGsvAt, holds.int]
  rw [forall_mem_append, gsvNoteLoop_inRange_iff each _ start.1]
  rw [← gsvFits_iff holds nonneg _ rfl]
  apply and_congr_right
  intro fits
  have below := foldl_few each start.1 (start.2.trans few) fits
  rw [← gsvNoteLoop_reader _ _ _ _ t] at below
  exact gsvTest_inRange_iff _ _ _ below _

/-- A sentence that fits keeps the count between 0 and 32. -/
theorem parseGsv_few (holds : s.reader.HoldsLine) (nonneg : 0 ≤ s.reader.svCount)
    (few : s.reader.svCount ≤ atSatellites) (fits : GsvFits s.reader.line s.svView) :
    0 ≤ (parseGsv s.reader.tokens (isBds s.reader.line) s.svUsedInFix s.reader).svCount ∧
      (parseGsv s.reader.tokens (isBds s.reader.line) s.svUsedInFix s.reader).svCount ≤
      atSatellites := by
  have each (r : NmeaReader pf) (idx : Nat) (nonneg : 0 ≤ r.svCount) :=
    gsvUpdate_countStep s.reader.tokens (isBds s.reader.line) s.svUsedInFix idx nonneg
  have start := gsvStart_count (strToInt (field s.reader.line 2)) s.reader nonneg
  have below :=
    foldl_few each start.1 (start.2.trans few) ((gsvFits_iff holds nonneg _ rfl).mpr fits)
  have above :=
    start.1.trans (foldl_grows each (List.range (gsvSvNum (strToInt (field s.reader.line 2))
    (strToInt (field s.reader.line 3))).toNat) start.1)
  simp only [parseGsv, holds.int]
  rw [gsvClose]
  split_ifs
  · exact ⟨above, below⟩
  · exact ⟨le_rfl, Int.natCast_nonneg _⟩
  · exact ⟨above, below⟩

end Sentence

section Line

/-- The count is the index of an element of `prn` and `snr`, or one past the last. -/
def NmeaReader.Few (r : NmeaReader pf) : Prop := 0 ≤ r.svCount ∧ r.svCount ≤ atSatellites

theorem NmeaReader.Few.of_count {r next : NmeaReader pf} (few : r.Few)
    (count : next.svCount = r.svCount ∨ next.svCount = 0) : next.Few := by
  rw [Few]
  rcases count with same | zero
  · rw [same]
    exact few
  · rw [zero]
    exact ⟨le_rfl, Int.natCast_nonneg _⟩

/-- A GSV sentence is told from the others by its type. -/
theorem sentenceKind_gsv_iff {line : List Byte}
    (long : ¬ (line.length < 9 ∨ (field line 0).length < 5)) :
    sentenceKind line = .gsv ↔ lit ['G', 'S', 'V'] <+: (field line 0).drop 2 := by
  rw [sentenceKind, if_neg long]
  constructor
  · intro kind
    split_ifs at kind
    assumption
  · intro type
    have other (word : List Byte) (size : word.length = 3)
        (different : word ≠ lit ['G', 'S', 'V']) :
        ¬ word <+: (field line 0).drop 2 :=
      fun found => different ((prefix_of_prefix_length_le found type size.le).eq_of_length size)
    have talker (head : List Byte) (size : head.length = 2) :
        ¬ head ++ lit ['G', 'S', 'A'] <+: field line 0 := by
      rintro ⟨rest, id⟩
      refine other (lit ['G', 'S', 'A']) rfl (by decide) ⟨rest, ?_⟩
      rw [← id, append_assoc, drop_left' size]
    rw [if_neg (other _ rfl (by decide)), if_neg, if_neg (other _ rfl (by decide)), if_pos type]
    rintro (gps | bds | glonass)
    · exact talker (lit ['G', 'P']) rfl gps
    · exact talker (lit ['B', 'D']) rfl bds
    · exact talker (lit ['G', 'L']) rfl glonass

variable {env : ParseEnv} (registered : env.callbacksSize = pf.sizeofGpsCallbacksMtk) {s : NmeaState pf}

include registered

/-- The dispatch acts on the reader as in the build without the test. -/
theorem nmeaReaderDispatchAt_eq (holds : s.reader.HoldsLine)
    (long : ¬ (s.reader.line.length < 9 ∨ (field s.reader.line 0).length < 5)) (t : AtTest) :
    nmeaReaderDispatchAt env s.reader.tokens (nmeaTokenizerGet s.reader.tokens 0) s t =
      (sentenceEffect env s, if sentenceKind s.reader.line = .gsv then
        (parseGsvAt s.reader.tokens (isBds s.reader.line) s.svUsedInFix s.reader t).2 else (t, [])) := by
  have type := holds.type_iff (by omega) (lit ['G', 'S', 'V']) (by decide)
  have legacy : pf.sizeofGpsCallbacksMtk = pf.sizeofGpsCallbacks := rfl
  have gsv := sentenceKind_gsv_iff long
  have plain := (nmeaReaderDispatch_eq registered holds long).1
  simp only [nmeaReaderDispatchAt, registered, true_and, type, ← gsv, holds.bds_eq]
  split_ifs with kind talker
  · simp only [sentenceEffect, kind, parseGsvAt_reader]
  · have named :=
      talker.2.imp (holds.identifier_iff _ (by decide)).mp (holds.identifier_iff _ (by decide)).mp
    exact absurd (gsv.mpr (gsv_of_talker named)) kind
  · rw [plain]

/-- A line is not parsed, or has the effect of its sentence and reports. -/
theorem nmeaReaderParseAt_cases (holds : s.reader.HoldsLine) (atEnv : AtEnv) (t : AtTest) :
    (((t.tick atEnv s.gpsNmeaEndTag).2 = true ∨ sentenceKind s.reader.line = .ignored) ∧
      (nmeaReaderParseAt env atEnv s t).nmea = s ∧ (nmeaReaderParseAt env atEnv s t).calls = [] ∧
      (nmeaReaderParseAt env atEnv s t).accesses = []) ∨
    ((t.tick atEnv s.gpsNmeaEndTag).2 = false ∧ sentenceKind s.reader.line ≠ .ignored ∧
      (nmeaReaderParseAt env atEnv s t).nmea = (nmeaReaderReport env (sentenceEffect env s)).1 ∧
      (nmeaReaderParseAt env atEnv s t).calls = (nmeaReaderReport env (sentenceEffect env s)).2 ∧
      (nmeaReaderParseAt env atEnv s t).accesses = if sentenceKind s.reader.line = .gsv then
        (parseGsvAt s.reader.tokens (isBds s.reader.line) s.svUsedInFix s.reader (t.tick atEnv s.gpsNmeaEndTag).1).2.2
      else []) := by
  have tooShort := holds.short_iff 0 5
  have tokens : nmeaTokenizerInit s.reader.inBuf.toList 0 s.reader.pos = s.reader.tokens := rfl
  rw [nmeaReaderParseAt, tokens]
  dsimp only
  cases waits : (t.tick atEnv s.gpsNmeaEndTag).2 with
  | true => exact .inl ⟨.inl rfl, rfl, rfl, rfl⟩
  | false =>
    rw [if_neg Bool.false_ne_true, ← holds.length_line]
    by_cases long : s.reader.line.length < 9 ∨ (field s.reader.line 0).length < 5
    · have ignored : sentenceKind s.reader.line = .ignored := if_pos long
      refine .inl ⟨.inr ignored, ?_⟩
      rcases long with line | id
      · rw [if_pos line]
        exact ⟨rfl, rfl, rfl⟩
      · split
        · exact ⟨rfl, rfl, rfl⟩
        · rw [if_pos (tooShort.mpr id)]
          exact ⟨rfl, rfl, rfl⟩
    · have kind := (nmeaReaderDispatch_eq registered holds long).2
      have dispatched :=
        nmeaReaderDispatchAt_eq registered holds long (t.tick atEnv s.gpsNmeaEndTag).1
      rw [if_neg (not_or.mp long).1, if_neg (tooShort.not.mpr (not_or.mp long).2), dispatched]
      refine .inr ⟨rfl, kind, rfl, rfl, ?_⟩
      dsimp only
      split <;> rfl

/-- Unless the test makes it wait, the parser treats a line as the build without the test does. -/
theorem nmeaReaderParseAt_plain (holds : s.reader.HoldsLine) {atEnv : AtEnv} {t : AtTest}
    (parsed : (t.tick atEnv s.gpsNmeaEndTag).2 = false) :
    ((nmeaReaderParseAt env atEnv s t).nmea, (nmeaReaderParseAt env atEnv s t).calls) =
      nmeaReaderParse env s := by
  rw [nmeaReaderParse_eq registered holds]
  obtain ⟨unparsed, nmea, calls, -⟩ | ⟨-, kind, nmea, calls, -⟩ :=
    nmeaReaderParseAt_cases registered holds atEnv t
  · rcases unparsed with waits | ignored
    · exact absurd (waits.symm.trans parsed) (by decide)
    · rw [if_pos ignored, nmea, calls]
  · rw [if_neg kind, nmea, calls]

/-- A line uses only elements inside the arrays exactly if it fits, and then keeps the count few. -/
theorem nmeaReaderParseAt_inRange (holds : s.reader.HoldsLine) (few : s.reader.Few) (atEnv : AtEnv)
    (t : AtTest) :
    ((∀ access ∈ (nmeaReaderParseAt env atEnv s t).accesses, access.InRange) ↔ LineFits atEnv s t) ∧
      (LineFits atEnv s t → (nmeaReaderParseAt env atEnv s t).nmea.reader.Few) := by
  rw [LineFits]
  obtain ⟨unparsed, same, -, none⟩ | ⟨parsed, -, after, -, used⟩ :=
    nmeaReaderParseAt_cases registered holds atEnv t
  · rw [none, same]
    refine ⟨iff_of_true nofun fun parsed gsv => ?_, fun _ => few⟩
    rcases unparsed with waits | ignored
    · exact absurd (waits.symm.trans parsed) (by decide)
    · exact absurd (ignored.symm.trans gsv) (by decide)
  · have kept (effect : (sentenceEffect env s).reader.Few) :
        (nmeaReaderReport env (sentenceEffect env s)).1.reader.Few := by
      rcases nmeaReaderReport_sv registered (sentenceEffect env s) with ⟨-, count, -⟩ | ⟨-, count, -⟩
      · exact effect.of_count (.inl count)
      · exact effect.of_count (.inr count)
    rw [after, used]
    rcases Decidable.em (sentenceKind s.reader.line = .gsv) with gsv | other
    · rw [if_pos gsv, parseGsvAt_inRange_iff holds few.1 few.2]
      refine ⟨⟨fun fits _ _ => fits, fun fits => fits parsed gsv⟩, fun fits => kept ?_⟩
      have effect := parseGsv_few holds few.1 few.2 (fits parsed gsv).1
      simpa only [NmeaReader.Few, sentenceEffect, gsv] using effect
    · rw [if_neg other]
      refine ⟨iff_of_true nofun fun _ gsv => absurd gsv other, fun _ => kept ?_⟩
      obtain ⟨count, -⟩ := sentenceEffect_sv env holds other
      exact few.of_count (.inl count)

end Line

section Bytes

/-- A byte enters the buffer or is dropped, or completes a line that is parsed. -/
theorem nmeaReaderAddcAt_cases (env : ParseEnv) (atEnv : AtEnv) (s : NmeaState pf) (t : AtTest)
    (c : Byte) :
    (¬ s.reader.Completes c ∧ (nmeaReaderAddcAt env atEnv s t c).accesses = [] ∧
      (nmeaReaderAddcAt env atEnv s t c).nmea.reader.svCount = s.reader.svCount) ∨
    (s.reader.Completes c ∧
      (nmeaReaderAddcAt env atEnv s t c).accesses =
        (nmeaReaderParseAt env atEnv { s with reader := s.reader.push c } t).accesses ∧
      (nmeaReaderAddcAt env atEnv s t c).nmea.reader.svCount =
        (nmeaReaderParseAt env atEnv { s with reader := s.reader.push c } t).nmea.reader.svCount) := by
  rw [nmeaReaderAddcAt]
  dsimp only
  cases skipping : s.reader.overflow with
  | true => exact .inl ⟨fun completes => absurd completes.1 (by simp [skipping]), rfl, rfl⟩
  | false =>
    rw [if_neg Bool.false_ne_true]
    rcases Nat.lt_or_ge s.reader.pos nmeaMaxSize with room | full
    · rw [if_neg (not_le.mpr room)]
      rcases Decidable.em (c = lf) with ended | inside
      · rw [if_pos ended]
        exact .inr ⟨⟨skipping, room, ended⟩, rfl, rfl⟩
      · rw [if_neg inside]
        exact .inl ⟨fun completes => inside completes.2.2, rfl, rfl⟩
    · rw [if_pos full]
      exact .inl ⟨fun completes => absurd completes.2.1 (not_lt.mpr full), rfl, rfl⟩

end Bytes

section Runs

theorem nmeaReaderSetCallbackAt_count (t : AtTest) (r : NmeaReader pf) (registering : Bool) :
    (nmeaReaderSetCallbackAt t r registering).svCount = r.svCount ∨
      (nmeaReaderSetCallbackAt t r registering).svCount = 0 := by
  rw [nmeaReaderSetCallbackAt, nmeaReaderSetCallback]
  split_ifs
  · exact .inl rfl
  · exact .inr rfl
  · exact .inl rfl

theorem AtThreadState.testCommand_count (s : AtThreadState pf) (cmd : TestCommand) :
    (s.testCommand cmd).thread.nmea.reader.svCount = s.thread.nmea.reader.svCount ∨
      (s.testCommand cmd).thread.nmea.reader.svCount = 0 := by
  cases cmd with
  | start =>
    rw [testCommand]
    split
    · exact nmeaReaderSetCallbackAt_count _ _ _
    · exact .inl rfl
  | stop =>
    rw [testCommand]
    split
    · exact nmeaReaderSetCallbackAt_count _ _ _
    · exact .inl rfl
  | smsNoResult => exact .inl rfl

/-- The steps of the loop that the test has no part in. -/
theorem gpsStateThreadStep_count {s next : ThreadState pf} {a : ThreadAction}
    {out : List (ThreadEvent pf)} (notByte : ∀ now mnlProp, a ≠ .byte now mnlProp)
    (stepped : gpsStateThreadStep s a = some (next, out)) :
    next.nmea.reader.svCount = s.nmea.reader.svCount ∨ next.nmea.reader.svCount = 0 := by
  obtain ⟨cmd, rfl, -, rfl, rfl⟩ | ⟨c, rest, now, mnlProp, rfl, -⟩ | ⟨-, -, reader, -⟩ :=
    gpsStateThread_cases stepped
  · cases cmd with
    | start =>
      simp only [ThreadState.command]
      split
      · exact .inl rfl
      · exact .inr rfl
    | stop =>
      simp only [ThreadState.command]
      split <;> exact .inl rfl
    | restart | quit | download | other => exact .inl rfl
  · exact absurd rfl (notByte now mnlProp)
  · exact .inl (congrArg NmeaReader.svCount reader)

theorem AtThreadState.setTest_thread (s : AtThreadState pf) (test : Option AtTest) :
    (s.setTest test).thread = s.thread := by
  cases test <;> rfl

theorem AtThreadState.threadStep_cases {s next : AtThreadState pf} {env : AtEnv} {a : ThreadAction}
    {out : List AtAccess} (stepped : s.threadStep env a = some (next, out)) :
    (∃ c rest now mnlProp, a = .byte now mnlProp ∧ s.thread.mode = .feed (c :: rest) ∧
      next.thread.nmea = (s.addByte c rest now mnlProp env).nmea ∧
      out = (s.addByte c rest now mnlProp env).accesses) ∨
    (s.Fits (.thread a env) ∧ out = [] ∧ (next.thread.nmea.reader.svCount = s.thread.nmea.reader.svCount ∨
      next.thread.nmea.reader.svCount = 0)) := by
  unfold threadStep at stepped
  split at stepped
  · -- The start command, whose callback registration depends on the test.
    split_ifs at stepped with polling started
    · cases stepped
      exact .inr ⟨trivial, rfl, .inl rfl⟩
    · cases stepped
      exact .inr ⟨trivial, rfl, nmeaReaderSetCallbackAt_count _ _ _⟩
  · next now mnlProp =>
    split at stepped
    · next c rest feeding =>
      cases stepped
      exact .inl ⟨c, rest, now, mnlProp, rfl, feeding, rfl, rfl⟩
    · contradiction
  · next notStart notByte =>
    obtain ⟨⟨thread, events⟩, moved, same⟩ := Option.map_eq_some_iff.mp stepped
    cases same
    refine .inr ⟨?_, rfl, gpsStateThreadStep_count notByte moved⟩
    cases a with
    | byte now mnlProp => exact absurd rfl (notByte now mnlProp)
    | control | gpsFd | read | readFails | hangUp | setPositionMode => trivial

/-- Everything a step can do: add a byte, receive a datagram, or neither use an array nor raise the count. -/
theorem atThread_cases {s next : AtThreadState pf} {a : AtAction} {out : List AtAccess}
    (stepped : (atThread pf).step s a = some (next, out)) :
    (∃ c rest now mnlProp env, a = .thread (.byte now mnlProp) env ∧ s.thread.mode = .feed (c :: rest) ∧
      next.thread.nmea = (s.addByte c rest now mnlProp env).nmea ∧
      out = (s.addByte c rest now mnlProp env).accesses) ∨
    (∃ bytes env, a = .datagram bytes env ∧ next.thread = s.thread ∧
      out = [⟨.cmd, (bytes.take cmdSize).length, cmdSize⟩]) ∨
    (s.Fits a ∧ out = [] ∧ (next.thread.nmea.reader.svCount = s.thread.nmea.reader.svCount ∨
      next.thread.nmea.reader.svCount = 0)) := by
  simp only [atThread, atThreadStep] at stepped
  split at stepped
  · contradiction
  cases a with
  | thread a env =>
    rcases AtThreadState.threadStep_cases stepped with ⟨c, rest, now, mnlProp, rfl, added⟩ | ⟨fits, quiet⟩
    · exact .inl ⟨c, rest, now, mnlProp, env, rfl, added⟩
    · exact .inr (.inr ⟨fits, quiet⟩)
  | testControl cmd =>
    dsimp only at stepped
    split_ifs at stepped
    cases stepped
    exact .inr (.inr ⟨trivial, rfl, s.testCommand_count cmd⟩)
  | datagram bytes env =>
    dsimp only at stepped
    split_ifs at stepped
    cases stepped
    exact .inr (.inl ⟨bytes, env, rfl, s.setTest_thread _, rfl⟩)
  | testStart testNum prnNum timeDelay testMode env =>
    cases stepped
    exact .inr (.inr ⟨trivial, rfl, .inl (by rw [s.setTest_thread])⟩)
  | testStop env =>
    cases stepped
    exact .inr (.inr ⟨trivial, rfl, .inl rfl⟩)
  | setInit init =>
    cases stepped
    exact .inr (.inr ⟨trivial, rfl, .inl rfl⟩)

/-- A step uses only elements inside the arrays exactly if it fits, and then keeps the count few. -/
theorem atThread_step {s next : AtThreadState pf} {a : AtAction} {out : List AtAccess}
    (few : s.thread.nmea.reader.Few)
    (stepped : (atThread pf).step s a = some (next, out)) :
    ((∀ access ∈ out, access.InRange) ↔ s.Fits a) ∧ (s.Fits a → next.thread.nmea.reader.Few) := by
  obtain ⟨c, rest, now, mnlProp, env, rfl, feeding, nmea, rfl⟩ | ⟨bytes, env, rfl, thread, rfl⟩ | ⟨fits, rfl, count⟩ :=
    atThread_cases stepped
  · have fits : s.Fits (.thread (.byte now mnlProp) env) ↔
        (s.thread.nmea.reader.Completes c → LineFits env
        { s.thread.nmea with
          reader := s.thread.nmea.reader.push c, gpsNmeaEndTag := rest.isEmpty || s.thread.nmea.gpsNmeaEndTag } s.test) := by
      constructor
      · exact fun all => all c rest feeding
      · intro this c' rest' feeding'
        cases feeding.symm.trans feeding'
        exact this
    rw [fits, nmea]
    obtain ⟨inside, none, count⟩ | ⟨completes, used, count⟩ :=
      nmeaReaderAddcAt_cases (s.thread.parseEnv now mnlProp) env
      { s.thread.nmea with gpsNmeaEndTag := rest.isEmpty || s.thread.nmea.gpsNmeaEndTag } s.test c
    · rw [AtThreadState.addByte, none]
      exact ⟨iff_of_true nofun fun completes => absurd completes inside,
        fun _ => few.of_count (.inl count)⟩
    · obtain rfl := completes.2.2
      have registered :
          (s.thread.parseEnv now mnlProp).callbacksSize = pf.sizeofGpsCallbacksMtk := rfl
      have line := nmeaReaderParseAt_inRange registered
        (s := { s.thread.nmea with
          reader := s.thread.nmea.reader.push lf, gpsNmeaEndTag := rest.isEmpty || s.thread.nmea.gpsNmeaEndTag })
        (NmeaReader.holdsLine_push completes.2.1) few env s.test
      rw [AtThreadState.addByte, used]
      refine ⟨line.1.trans ⟨fun fits _ => fits, fun fits => fits completes⟩, fun fits => ?_⟩
      exact (line.2 (fits completes)).of_count (.inl count)
  · rw [thread, forall_mem_singleton]
    refine ⟨?_, fun _ => few⟩
    simp only [AtAccess.InRange, length_take, AtThreadState.Fits]
    omega
  · exact ⟨iff_of_true nofun fits, fun _ => few.of_count count⟩

/-- In a run of the thread, every array element used is inside its array exactly if every step fits. -/
theorem atThread_inRange_iff {s t : AtThreadState pf} {tape : List AtAction} {trace : List AtAccess} (initial : s.Initial)
    (ran : (atThread pf).run s tape = some (t, trace)) :
    (∀ access ∈ trace, access.InRange) ↔ (atThread pf).Permitted (fun s _ a => s.Fits a) s [] tape := by
  have start : s.thread.nmea.reader.Few := by
    rw [initial.thread.reader]
    exact ⟨le_rfl, Int.natCast_nonneg _⟩
  have always (history out : List AtAccess) :
      Always (fun _ access => AtAccess.InRange access) history out ↔
        ∀ access ∈ out, access.InRange := by
    constructor
    · intro all access member
      obtain ⟨before, after, rfl⟩ := append_of_mem member
      exact all before access after rfl
    · exact fun all => always_of_forall fun access member _ => all access member
  have safe (s : AtThreadState pf) (_ : List AtAccess) (_ : s.thread.nmea.reader.Few) :
      True := trivial
  have kept (s : AtThreadState pf) (history : List AtAccess) (a : AtAction) (next : AtThreadState pf) (out : List AtAccess)
      (few : s.thread.nmea.reader.Few) (fits : s.Fits a) (stepped : (atThread pf).step s a = some (next, out)) :
      next.thread.nmea.reader.Few := (atThread_step few stepped).2 fits
  have exactly (s : AtThreadState pf) (history : List AtAccess) (a : AtAction) (next : AtThreadState pf)
      (out : List AtAccess) (few : s.thread.nmea.reader.Few) (stepped : (atThread pf).step s a = some (next, out)) :
      s.Fits a ↔ True ∧ Always (fun _ access => AtAccess.InRange access) history out := by
    rw [always, true_and]
    exact (atThread_step few stepped).1.symm
  have permitted : (atThread pf).Permitted (fun s _ a => s.Fits a) s [] tape ↔
      (atThread pf).Throughout (fun _ => True) s tape ∧
        Always (fun _ access => AtAccess.InRange access) [] trace :=
    System.run_permitted_iff safe kept exactly start ran
  rw [permitted, always]
  exact (and_iff_right fun _ _ _ _ _ _ => trivial).symm

/-- A process that has just started, with an initialised HAL. -/
def freshAtThread : AtThreadState (Platform.utc 64 satellites_lt) :=
  ⟨freshThread, { AtTest.initial with init := true }, false, false⟩

/-- A system that has memory and whose driver answers. -/
def answering (now : Int) : AtEnv := ⟨now, true, 0, 0⟩

/-- A group of one satellite 1. -/
def groupOfOne (talker : List Char) : List Byte :=
  lit (['$'] ++ talker ++
    ['G', 'S', 'V', ',', '1', ',', '1', ',', '1', ',', '1', ',', '4', '0', ',', '9', '0', ',', '3', '3', '\n'])

/-- The actions of one read, three seconds after a test was started. -/
def lateRead (bytes : List Byte) : List AtAction :=
  [.thread .gpsFd (answering 3), .thread (.read bytes) (answering 3)] ++
    List.replicate bytes.length (.thread (.byte 3 []) (answering 3))

/-- The command that starts a test of five values, and a read that brings two of them. -/
def testOfFive : List AtAction :=
  .datagram (lit ['A', 'T', '%', 'G', 'P', 'S', '=', '5']) (answering 0) ::
    lateRead (groupOfOne ['G', 'P'] ++ groupOfOne ['B', 'D'] ++ [lf])

theorem atThread_inRange_iff_searched : ∃ t trace, (atThread _).run freshAtThread testOfFive = some (t, trace) ∧
    (trace.filter fun access => access.array = .devCNr) = [⟨.devCNr, 0, 5⟩, ⟨.devCNr, 0, 5⟩, ⟨.devCNr, 1, 5⟩,
      ⟨.devCNr, 0, 5⟩, ⟨.devCNr, 1, 5⟩] ∧
    ((∀ access ∈ trace, access.InRange) ↔
      (atThread _).Permitted (fun s _ a => s.Fits a) freshAtThread [] testOfFive) := by
  have runs : (((atThread _).run freshAtThread testOfFive).map fun last =>
      last.2.filter fun access => access.array = .devCNr) = some [⟨.devCNr, 0, 5⟩, ⟨.devCNr, 0, 5⟩, ⟨.devCNr, 1, 5⟩,
        ⟨.devCNr, 0, 5⟩, ⟨.devCNr, 1, 5⟩] := by
    decide +kernel
  obtain ⟨⟨t, trace⟩, ran, values⟩ := Option.map_eq_some_iff.mp runs
  exact ⟨t, trace, ran, values, atThread_inRange_iff ⟨⟨rfl, rfl⟩, rfl, rfl⟩ ran⟩

/-- A datagram as long as `cmd` leaves no byte for its end. -/
theorem long_datagram_overflows : ¬ ∀ (tape : List AtAction) t trace, (atThread _).run freshAtThread tape = some (t, trace) →
    ∀ access ∈ trace, access.InRange := by
  intro inRange
  have overflows : ((atThread _).run freshAtThread
      [.datagram (lit ['A', 'T', '%', 'G', 'N', 'S', 'S', '='] ++ replicate 12 digit0) (answering 0)]).any
        (fun last => last.2.any fun access => !decide access.InRange) = true := by decide
  obtain ⟨⟨t, trace⟩, ran, uses⟩ := (Option.any_eq_true _ _).mp overflows
  obtain ⟨access, member, outside⟩ := any_eq_true.mp uses
  exact absurd (inRange _ t trace ran access member) (by simpa using outside)

/-- A GPS and a BeiDou satellite 1 in one read, with a line after them, are two values for a test of one. -/
example : (((atThread _).run freshAtThread ([.testStart 1 1 2 0 (answering 0)] ++
    lateRead (groupOfOne ['G', 'P'] ++ groupOfOne ['B', 'D'] ++ [lf]))).map fun last =>
      last.2.filter fun access => !decide access.InRange) = some [⟨.devCNr, 1, 1⟩, ⟨.devCNr, 1, 1⟩] := by
  decide +kernel

end Runs

end Mt6582.Gps

import Mt6582.Gps.Mnld

/-! # Raw measurements of the GPS daemon

`HAL_CMD_MEASUREMENT` carries 32 entries and the receiver clock as packed structures. The handler copies them field
by field to the structures of the framework and calls it back when it has counted a measurement.
-/

namespace Mt6582.Gps

open Machine

/-! ## The structures -/

/-- A `double` and a `float` by their bits; they are copied and never computed with here. -/
abbrev Double := UInt64
abbrev Single := UInt32

/-- `MTK_GPS_MEASUREMENT`. -/
structure MtkGpsMeasurement where
  size : UInt32
  flag : UInt32
  prn : Int8
  timeOffsetInNs : Double
  state : UInt16
  reGpsTowInNs : Int64
  reGpsTowUnInNs : Int64
  cn0InDbHz : Double
  prRateInMeterPreSec : Double
  prRateUnInMeterPreSec : Double
  acDRState10 : UInt16
  acDRInMeters : Double
  acDRUnInMeters : Double
  prInMeters : Double
  prUnInMeters : Double
  cpInChips : Double
  cpUnInChips : Double
  cfInhZ : Single
  carrierCycle : Int64
  carrierPhase : Double
  carrierPhaseUn : Double
  lossOfLock : UInt8
  bitNumber : Int32
  timeFromLastBitInMs : Int16
  dopperShiftInHz : Double
  dopperShiftUnInHz : Double
  multipathIndicater : UInt8
  snrInDb : Double
  elInDeg : Double
  elUnInDeg : Double
  azInDeg : Double
  azUnInDeg : Double
  usedInFix : UInt8

/-- `MTK_GPS_CLOCK`. -/
structure MtkGpsClock where
  size : UInt32
  flag : UInt16
  leapsecond : Int16
  type : UInt8
  timeInNs : Int64
  timeUncertaintyInNs : Double
  fullBiasInNs : Int64
  biasInNs : Double
  biasUncertaintyInNs : Double
  driftInNsPerSec : Double
  driftUncertaintyInNsPerSec : Double

/-- The little-endian number in `count` bytes from a place of memory on. -/
def wordAt (memory : List Byte) (place count : Nat) : Nat :=
  (bytesAt memory place count).foldr (fun byte number => byte.toNat + 256 * number) 0

/-- The fields stand where a packing of 4 puts them. -/
def MtkGpsMeasurement.ofMemory (memory : List Byte) : MtkGpsMeasurement where
  size := .ofNat (wordAt memory 0 4)
  flag := .ofNat (wordAt memory 4 4)
  prn := .ofNat (wordAt memory 8 1)
  timeOffsetInNs := .ofNat (wordAt memory 12 8)
  state := .ofNat (wordAt memory 20 2)
  reGpsTowInNs := .ofNat (wordAt memory 24 8)
  reGpsTowUnInNs := .ofNat (wordAt memory 32 8)
  cn0InDbHz := .ofNat (wordAt memory 40 8)
  prRateInMeterPreSec := .ofNat (wordAt memory 48 8)
  prRateUnInMeterPreSec := .ofNat (wordAt memory 56 8)
  acDRState10 := .ofNat (wordAt memory 64 2)
  acDRInMeters := .ofNat (wordAt memory 68 8)
  acDRUnInMeters := .ofNat (wordAt memory 76 8)
  prInMeters := .ofNat (wordAt memory 84 8)
  prUnInMeters := .ofNat (wordAt memory 92 8)
  cpInChips := .ofNat (wordAt memory 100 8)
  cpUnInChips := .ofNat (wordAt memory 108 8)
  cfInhZ := .ofNat (wordAt memory 116 4)
  carrierCycle := .ofNat (wordAt memory 120 8)
  carrierPhase := .ofNat (wordAt memory 128 8)
  carrierPhaseUn := .ofNat (wordAt memory 136 8)
  lossOfLock := .ofNat (wordAt memory 144 1)
  bitNumber := .ofNat (wordAt memory 148 4)
  timeFromLastBitInMs := .ofNat (wordAt memory 152 2)
  dopperShiftInHz := .ofNat (wordAt memory 156 8)
  dopperShiftUnInHz := .ofNat (wordAt memory 164 8)
  multipathIndicater := .ofNat (wordAt memory 172 1)
  snrInDb := .ofNat (wordAt memory 176 8)
  elInDeg := .ofNat (wordAt memory 184 8)
  elUnInDeg := .ofNat (wordAt memory 192 8)
  azInDeg := .ofNat (wordAt memory 200 8)
  azUnInDeg := .ofNat (wordAt memory 208 8)
  usedInFix := .ofNat (wordAt memory 216 1)

def MtkGpsClock.ofMemory (memory : List Byte) : MtkGpsClock where
  size := .ofNat (wordAt memory 0 4)
  flag := .ofNat (wordAt memory 4 2)
  leapsecond := .ofNat (wordAt memory 6 2)
  type := .ofNat (wordAt memory 8 1)
  timeInNs := .ofNat (wordAt memory 12 8)
  timeUncertaintyInNs := .ofNat (wordAt memory 20 8)
  fullBiasInNs := .ofNat (wordAt memory 28 8)
  biasInNs := .ofNat (wordAt memory 36 8)
  biasUncertaintyInNs := .ofNat (wordAt memory 44 8)
  driftInNsPerSec := .ofNat (wordAt memory 52 8)
  driftUncertaintyInNsPerSec := .ofNat (wordAt memory 60 8)

/-- `GpsMeasurement` of the framework; `used_in_fix` is a `bool` there. -/
structure GpsMeasurement where
  size : Nat
  accumulatedDeltaRangeM : Double
  accumulatedDeltaRangeState : UInt16
  accumulatedDeltaRangeUncertaintyM : Double
  azimuthDeg : Double
  azimuthUncertaintyDeg : Double
  bitNumber : Int32
  carrierCycles : Int64
  carrierPhase : Double
  carrierPhaseUncertainty : Double
  carrierFrequencyHz : Single
  cN0Dbhz : Double
  codePhaseChips : Double
  codePhaseUncertaintyChips : Double
  dopplerShiftHz : Double
  dopplerShiftUncertaintyHz : Double
  elevationDeg : Double
  elevationUncertaintyDeg : Double
  flags : UInt32
  lossOfLock : UInt8
  multipathIndicator : UInt8
  pseudorangeM : Double
  prn : Int8
  pseudorangeRateMps : Double
  pseudorangeRateUncertaintyMps : Double
  pseudorangeUncertaintyM : Double
  receivedGpsTowNs : Int64
  receivedGpsTowUncertaintyNs : Int64
  snrDb : Double
  state : UInt16
  timeFromLastBitMs : Int16
  timeOffsetNs : Double
  usedInFix : Bool

/-- `GpsClock` of the framework. -/
structure GpsClock where
  size : Nat
  biasNs : Double
  biasUncertaintyNs : Double
  driftNsps : Double
  flags : UInt16
  leapSecond : Int16
  timeNs : Int64
  timeUncertaintyNs : Double
  type : UInt8
  fullBiasNs : Int64
  driftUncertaintyNsps : Double

/-- `GpsData` of the framework. -/
structure GpsData where
  size : Nat
  measurementCount : Nat
  measurements : List GpsMeasurement
  clock : GpsClock

/-- The sizes of the framework's structures. -/
structure GpsSizes where
  measurement : Nat
  clock : Nat
  data : Nat

/-! ## The handler -/

section Handler

variable (sizes : GpsSizes)

/-- The assignments to `gpsdata.measurements[i]`. -/
def copyMeasurement (entry : MtkGpsMeasurement) : GpsMeasurement where
  size := sizes.measurement
  accumulatedDeltaRangeM := entry.acDRInMeters
  accumulatedDeltaRangeState := entry.acDRState10
  accumulatedDeltaRangeUncertaintyM := entry.acDRUnInMeters
  azimuthDeg := entry.azInDeg
  azimuthUncertaintyDeg := entry.azUnInDeg
  bitNumber := entry.bitNumber
  carrierCycles := entry.carrierCycle
  carrierPhase := entry.carrierPhase
  carrierPhaseUncertainty := entry.carrierPhaseUn
  carrierFrequencyHz := entry.cfInhZ
  cN0Dbhz := entry.cn0InDbHz
  codePhaseChips := entry.cpInChips
  codePhaseUncertaintyChips := entry.cpUnInChips
  dopplerShiftHz := entry.dopperShiftInHz
  dopplerShiftUncertaintyHz := entry.dopperShiftUnInHz
  elevationDeg := entry.elInDeg
  elevationUncertaintyDeg := entry.elUnInDeg
  flags := entry.flag
  lossOfLock := entry.lossOfLock
  multipathIndicator := entry.multipathIndicater
  pseudorangeM := entry.prInMeters
  prn := entry.prn
  pseudorangeRateMps := entry.prRateInMeterPreSec
  pseudorangeRateUncertaintyMps := entry.prRateUnInMeterPreSec
  pseudorangeUncertaintyM := entry.prUnInMeters
  receivedGpsTowNs := entry.reGpsTowInNs
  receivedGpsTowUncertaintyNs := entry.reGpsTowUnInNs
  snrDb := entry.snrInDb
  state := entry.state
  timeFromLastBitMs := entry.timeFromLastBitInMs
  timeOffsetNs := entry.timeOffsetInNs
  usedInFix := entry.usedInFix != 0

/-- The assignments to `gpsclock`. -/
def copyClock (clock : MtkGpsClock) : GpsClock where
  size := sizes.clock
  biasNs := clock.biasInNs
  biasUncertaintyNs := clock.biasUncertaintyInNs
  driftNsps := clock.driftInNsPerSec
  flags := clock.flag
  leapSecond := clock.leapsecond
  timeNs := clock.timeInNs
  timeUncertaintyNs := clock.timeUncertaintyInNs
  type := clock.type
  fullBiasNs := clock.fullBiasInNs
  driftUncertaintyNsps := clock.driftUncertaintyInNsPerSec

/-- A structure of zeros. -/
def zeroMeasurement : GpsMeasurement := { copyMeasurement sizes (.ofMemory []) with size := 0 }

/-- The loop over the entries from `i` on. -/
def measurementLoop : List MtkGpsMeasurement → Nat → GpsData → GpsData
  | [], _, data => data
  | entry :: entries, i, data =>
      measurementLoop entries (i + 1)
        { data with
          measurements := data.measurements.set i (copyMeasurement sizes entry)
          measurementCount :=
            if entry.prn ≠ 0 then data.measurementCount + 1 else data.measurementCount }

/-- `for (i = 0; i < 1; i++)`. -/
def measurementLoopBound : Nat := 1

/-- The 32 entries of an array of structures. -/
def measurementEntries (memory : List Byte) (place : Nat) : List MtkGpsMeasurement :=
  (List.range 32).map fun i => .ofMemory (bytesAt memory (place + sizeofMeasurement * i) sizeofMeasurement)

/-- The `gpsdata` built from the structures that were read. -/
def gpsDataOf (measurements clock : List Byte) : GpsData :=
  measurementLoop sizes ((measurementEntries measurements 0).take measurementLoopBound) 0
    { size := sizes.data
      measurementCount := 0
      measurements := .replicate 32 (zeroMeasurement sizes)
      clock := copyClock sizes (.ofMemory clock) }

/-- What `measurement_callback` is called with after a message, if it is called. -/
def measurementCallback : MnldMessage → Option GpsData
  | .measurement measurements clock =>
      let data := gpsDataOf sizes measurements clock
      if 0 < data.measurementCount then some data else none
  | _ => none

end Handler

/-! ## What is reported -/

/-- Every field of a measurement is that of the entry. -/
structure CopiedFrom (measurement : GpsMeasurement) (entry : MtkGpsMeasurement) : Prop where
  accumulatedDeltaRangeM : measurement.accumulatedDeltaRangeM = entry.acDRInMeters
  accumulatedDeltaRangeState : measurement.accumulatedDeltaRangeState = entry.acDRState10
  accumulatedDeltaRangeUncertaintyM : measurement.accumulatedDeltaRangeUncertaintyM = entry.acDRUnInMeters
  azimuthDeg : measurement.azimuthDeg = entry.azInDeg
  azimuthUncertaintyDeg : measurement.azimuthUncertaintyDeg = entry.azUnInDeg
  bitNumber : measurement.bitNumber = entry.bitNumber
  carrierCycles : measurement.carrierCycles = entry.carrierCycle
  carrierPhase : measurement.carrierPhase = entry.carrierPhase
  carrierPhaseUncertainty : measurement.carrierPhaseUncertainty = entry.carrierPhaseUn
  carrierFrequencyHz : measurement.carrierFrequencyHz = entry.cfInhZ
  cN0Dbhz : measurement.cN0Dbhz = entry.cn0InDbHz
  codePhaseChips : measurement.codePhaseChips = entry.cpInChips
  codePhaseUncertaintyChips : measurement.codePhaseUncertaintyChips = entry.cpUnInChips
  dopplerShiftHz : measurement.dopplerShiftHz = entry.dopperShiftInHz
  dopplerShiftUncertaintyHz : measurement.dopplerShiftUncertaintyHz = entry.dopperShiftUnInHz
  elevationDeg : measurement.elevationDeg = entry.elInDeg
  elevationUncertaintyDeg : measurement.elevationUncertaintyDeg = entry.elUnInDeg
  flags : measurement.flags = entry.flag
  lossOfLock : measurement.lossOfLock = entry.lossOfLock
  multipathIndicator : measurement.multipathIndicator = entry.multipathIndicater
  pseudorangeM : measurement.pseudorangeM = entry.prInMeters
  prn : measurement.prn = entry.prn
  pseudorangeRateMps : measurement.pseudorangeRateMps = entry.prRateInMeterPreSec
  pseudorangeRateUncertaintyMps : measurement.pseudorangeRateUncertaintyMps = entry.prRateUnInMeterPreSec
  pseudorangeUncertaintyM : measurement.pseudorangeUncertaintyM = entry.prUnInMeters
  receivedGpsTowNs : measurement.receivedGpsTowNs = entry.reGpsTowInNs
  receivedGpsTowUncertaintyNs : measurement.receivedGpsTowUncertaintyNs = entry.reGpsTowUnInNs
  snrDb : measurement.snrDb = entry.snrInDb
  state : measurement.state = entry.state
  timeFromLastBitMs : measurement.timeFromLastBitMs = entry.timeFromLastBitInMs
  timeOffsetNs : measurement.timeOffsetNs = entry.timeOffsetInNs
  usedInFix : measurement.usedInFix = (entry.usedInFix != 0)

theorem copiedFrom_copyMeasurement (sizes : GpsSizes) (entry : MtkGpsMeasurement) :
    CopiedFrom (copyMeasurement sizes entry) entry := by
  constructor <;> rfl

/-- The callback is made exactly when there is an entry with a PRN, and with the copies of these in order. -/
def ReportsAll (entries : List MtkGpsMeasurement) (called : Option GpsData) : Prop :=
  (called.isSome ↔ ∃ entry ∈ entries, entry.prn ≠ 0) ∧
    ∀ data ∈ called, List.Forall₂ CopiedFrom (data.measurements.take data.measurementCount)
      (entries.filter fun entry => entry.prn ≠ 0)

/-- The entries of a `HAL_CMD_MEASUREMENT` message. -/
def Datagram.entries (datagram : Datagram) : List MtkGpsMeasurement := measurementEntries datagram.buff 4

section Report

variable {sizes : GpsSizes}

/-- What the loop makes of the first entry, whatever the others hold. -/
theorem measurementCallback_eq {measurements clock : List Byte} {first : MtkGpsMeasurement}
    {rest : List MtkGpsMeasurement} (split : measurementEntries measurements 0 = first :: rest) :
    (first.prn = 0 ∧ measurementCallback sizes (.measurement measurements clock) = none) ∨
    (first.prn ≠ 0 ∧ ∃ data, measurementCallback sizes (.measurement measurements clock) = some data ∧
      data.measurements.take data.measurementCount = [copyMeasurement sizes first]) := by
  rw [measurementCallback, gpsDataOf, split]
  rcases Decidable.em (first.prn = 0) with zero | counted
  · refine .inl ⟨zero, ?_⟩
    simp [measurementLoopBound, measurementLoop, zero]
  · refine .inr ⟨counted, ?_⟩
    simp [measurementLoopBound, measurementLoop, counted, List.replicate_succ]

/-- An entry behind the first is lost, so all are reported when there is none. -/
theorem reportsAll_iff {measurements clock : List Byte} {first : MtkGpsMeasurement}
    {rest : List MtkGpsMeasurement} (split : measurementEntries measurements 0 = first :: rest) :
    ReportsAll (first :: rest) (measurementCallback sizes (.measurement measurements clock)) ↔
      ∀ entry ∈ rest, entry.prn = 0 := by
  have none_counted : (∀ entry ∈ rest, entry.prn = 0) ↔
      (rest.filter fun entry => entry.prn ≠ 0) = [] := by
    simp [List.filter_eq_nil_iff]
  rcases @measurementCallback_eq sizes measurements clock first rest split with
    ⟨zero, absent⟩ | ⟨counted, data, called, taken⟩
  · rw [absent, ReportsAll]
    simp [zero]
  · have kept : ((first :: rest).filter fun entry => entry.prn ≠ 0) =
        first :: rest.filter fun entry => entry.prn ≠ 0 :=
      List.filter_cons_of_pos (by simpa using counted)
    rw [called, ReportsAll, none_counted, kept]
    simp only [Option.isSome_some, true_iff, Option.mem_def, Option.some.injEq, forall_eq', taken]
    constructor
    · rintro ⟨-, copied⟩
      exact List.forall₂_nil_left_iff.mp (List.forall₂_cons.mp copied).2
    · intro empty
      rw [empty]
      exact ⟨⟨first, List.mem_cons_self, counted⟩,
        .cons (copiedFrom_copyMeasurement sizes first) .nil⟩

theorem bytesAt_bytesAt {memory : List Byte} {start length place count : Nat}
    (inside : place + count ≤ length) :
    bytesAt (bytesAt memory start length) place count = bytesAt memory (start + place) count := by
  rw [bytesAt, bytesAt, bytesAt, List.drop_take, List.take_take, List.drop_drop,
    Nat.min_eq_left (by omega)]

/-- The entries of the array the handler copies are those of the message. -/
theorem measurementEntries_bytesAt (buff : List Byte) :
    measurementEntries (bytesAt buff 4 (32 * sizeofMeasurement)) 0 = measurementEntries buff 4 := by
  apply List.map_congr_left
  intro i member
  have bound := List.mem_range.mp member
  rw [Nat.zero_add, bytesAt_bytesAt (by rw [sizeofMeasurement]; omega)]

theorem mnldToGpsHandler_measurement {env : MnldEnv} (enabled : env.gpsmeasurementInit)
    {datagram : Datagram} (command : MnldCommand.ofInt (intAt datagram.buff 0) = .measurement) :
    ∃ offsets,
      mnldToGpsHandler env datagram =
      .ok ⟨.measurement (bytesAt datagram.buff 4 (32 * sizeofMeasurement))
      (bytesAt datagram.buff (4 + 32 * sizeofMeasurement) sizeofClock), offsets⟩ := by
  have size := datagram.buff_length
  have small : datagram.buff.length < 2 ^ 31 := by omega
  have whole : 4 + 32 * sizeofMeasurement ≤ 9000 := by decide
  have clockFits : 4 + 32 * sizeofMeasurement + sizeofClock ≤ 9000 := by decide
  have bound : 32 * sizeofMeasurement < 2 ^ 31 := by decide
  have clockBound : sizeofClock < 2 ^ 31 := by decide
  have type := (@buffGetInt_ok_iff datagram.buff 0 _ small).mpr ⟨by omega, rfl⟩
  have entries :=
    (@copyOut_natCast_iff datagram.buff 4 (.replicate (32 * sizeofMeasurement) 0) _ _ small bound).mpr
    ⟨by omega, List.length_replicate.ge, rfl⟩
  have clock :=
    (@copyOut_natCast_iff datagram.buff (4 + 32 * sizeofMeasurement) (.replicate sizeofClock 0) _ _ small
    clockBound).mpr ⟨by omega, List.length_replicate.ge, rfl⟩
  rw [overwrite_whole (by rw [bytesAt_length (by omega), List.length_replicate])] at entries clock
  have handled : dispatch env .measurement ⟨datagram.buff, (4 : Nat)⟩ =
      .ok ⟨.measurement (bytesAt datagram.buff 4 (32 * sizeofMeasurement))
        (bytesAt datagram.buff (4 + 32 * sizeofMeasurement) sizeofClock),
        [(4 + 32 * sizeofMeasurement : Nat),
          (4 + 32 * sizeofMeasurement + sizeofClock : Nat)]⟩ := by
    rw [dispatch, handleMeasurement, if_pos enabled]
    exact bind_eq_ok_iff.mpr ⟨_, entries, bind_eq_ok_iff.mpr ⟨_, clock, rfl⟩⟩
  rw [← command] at handled
  exact ⟨_, bind_eq_ok_iff.mpr ⟨_, type, bind_eq_ok_iff.mpr ⟨_, handled, rfl⟩⟩⟩

theorem reportsAll_entries_iff (datagram : Datagram) (clock : List Byte) :
    ReportsAll datagram.entries (measurementCallback sizes
        (.measurement (bytesAt datagram.buff 4 (32 * sizeofMeasurement)) clock)) ↔
      ∀ entry ∈ datagram.entries.drop 1, entry.prn = 0 := by
  have same := measurementEntries_bytesAt datagram.buff
  rw [Datagram.entries]
  cases entries : measurementEntries datagram.buff 4 with
  | nil =>
    have length := congrArg List.length entries
    rw [measurementEntries, List.length_map, List.length_range] at length
    cases length
  | cons first rest => exact reportsAll_iff (same.trans entries)

/-- Every entry with a PRN is reported exactly when only the first of the 32 may have one. -/
theorem measurementCallback_reportsAll_iff {env : MnldEnv} (enabled : env.gpsmeasurementInit) (datagram : Datagram)
    (command : MnldCommand.ofInt (intAt datagram.buff 0) = .measurement) :
    ∃ handled, mnldToGpsHandler env datagram = .ok handled ∧
      (ReportsAll datagram.entries (measurementCallback sizes handled.message) ↔
        ∀ entry ∈ datagram.entries.drop 1, entry.prn = 0) := by
  obtain ⟨offsets, ran⟩ := mnldToGpsHandler_measurement enabled command
  exact ⟨_, ran, reportsAll_entries_iff datagram _⟩

end Report

/-- Behind what was read the buffer is still zero. -/
theorem Datagram.bytesAt_behind (datagram : Datagram) {place count : Nat}
    (behind : datagram.bytes.length ≤ place) (inside : place + count ≤ 9000) :
    bytesAt datagram.buff place count = .replicate count 0 := by
  rw [bytesAt, Datagram.buff, List.drop_append, List.drop_eq_nil_of_le behind, List.nil_append,
    List.drop_replicate, List.take_replicate, Nat.min_eq_left (by omega)]

/-- The framework has registered its callback. -/
def measuringEnv : MnldEnv := { idleMnldEnv with gpsmeasurementInit := true }

/-- A message with a PRN in one entry only. -/
def onePrn (index : Nat) (inside : 13 + sizeofMeasurement * index ≤ 9000) : Datagram where
  bytes := intBytes 0x76 ++ .replicate (8 + sizeofMeasurement * index) 0 ++ [5]
  length_le := by
    simp only [List.length_append, intBytes_length, List.length_replicate, List.length_singleton]
    omega

/-- A satellite in the first entry. -/
def firstPrn : Datagram := onePrn 0 (by decide)

theorem measurementCallback_reportsAll_firstPrn :
    ∃ handled, mnldToGpsHandler measuringEnv firstPrn = .ok handled ∧
      ReportsAll firstPrn.entries (measurementCallback ⟨0, 0, 0⟩ handled.message) := by
  have others : ∀ entry ∈ firstPrn.entries.drop 1, entry.prn = 0 := by
    intro entry member
    rw [Datagram.entries, measurementEntries, ← List.map_drop] at member
    obtain ⟨i, index, rfl⟩ := List.mem_map.mp member
    have later : ∀ i ∈ (List.range 32).drop 1, 1 ≤ i ∧ i < 32 := by decide
    obtain ⟨behind, bound⟩ := later i index
    have length : firstPrn.bytes.length = 13 := by decide
    rw [firstPrn.bytesAt_behind (by rw [length, sizeofMeasurement]; omega) (by rw [sizeofMeasurement]; omega)]
    decide
  obtain ⟨handled, ran, reported⟩ :=
    @measurementCallback_reportsAll_iff ⟨0, 0, 0⟩ measuringEnv rfl firstPrn (by decide)
  exact ⟨handled, ran, reported.mpr others⟩

/-- A satellite in the second entry. -/
def secondPrn : Datagram := onePrn 1 (by decide)

theorem measurementCallback_secondPrn_lost : ¬ ∀ (sizes : GpsSizes) (env : MnldEnv) (datagram : Datagram),
    env.gpsmeasurementInit → MnldCommand.ofInt (intAt datagram.buff 0) = .measurement →
      ∃ handled, mnldToGpsHandler env datagram = .ok handled ∧
        ReportsAll datagram.entries (measurementCallback sizes handled.message) := by
  intro reported
  have command : MnldCommand.ofInt (intAt secondPrn.buff 0) = .measurement := by decide
  obtain ⟨handled, ran, all⟩ := reported ⟨0, 0, 0⟩ measuringEnv secondPrn rfl command
  obtain ⟨offsets, same⟩ := @mnldToGpsHandler_measurement measuringEnv rfl secondPrn command
  cases ran.symm.trans same
  have entry :
      MtkGpsMeasurement.ofMemory (bytesAt secondPrn.buff (4 + sizeofMeasurement * 1) sizeofMeasurement) ∈
      secondPrn.entries.drop 1 := by
    rw [Datagram.entries, measurementEntries, ← List.map_drop]
    exact List.mem_map.mpr ⟨1, by decide, rfl⟩
  have zero := (reportsAll_entries_iff secondPrn _).mp all _ entry
  revert zero
  decide

end Mt6582.Gps

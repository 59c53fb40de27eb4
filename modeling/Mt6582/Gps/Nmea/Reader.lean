import Mt6582.Gps.Nmea.Tokenizer
import Mathlib.Logic.Function.Basic

/-! # The NMEA reader and its field updates

The record `NmeaReader` with the helpers that copy one field of a sentence into it. Fields of the C
record that no modelled function reads (`utc_diff`, `cb_status_changed`, the unused `callbacks` copy
and the `size` members of reported structures) are left out. Array stores take the computed `int`
index as it is; a store outside the array, undefined in C, has no effect here.
-/

namespace Mt6582.Gps

/-- The `GPS_LOCATION_HAS_*` bits of `hardware/gps.h`. -/
inductive LocationFlag where
  | latLong | altitude | speed | bearing | accuracy
deriving DecidableEq, Repr

def LocationFlag.bit : LocationFlag → Nat
  | latLong => 0
  | altitude => 1
  | speed => 2
  | bearing => 3
  | accuracy => 4

def LocationFlag.mask (flag : LocationFlag) : BitVec 16 := BitVec.twoPow 16 flag.bit

structure GpsLocation (F : Type) where
  flags : BitVec 16
  latitude : F
  longitude : F
  altitude : F
  speed : F
  bearing : F
  accuracy : F
  timestamp : Int
deriving DecidableEq, Repr

/-- Whether a location carries the data of a flag. -/
def GpsLocation.has {F : Type} (fix : GpsLocation F) (flag : LocationFlag) : Bool := fix.flags.getLsbD flag.bit

structure GpsSvInfo (F : Type) where
  prn : Int
  snr : F
  elevation : F
  azimuth : F
deriving DecidableEq, Repr

structure GpsSvStatus (F : Type) where
  numSvs : Int
  svList : Vector (GpsSvInfo F) gpsMaxSvs
  ephemerisMask : BitVec 32
  almanacMask : BitVec 32
  usedInFixMask : BitVec 32
deriving DecidableEq, Repr

structure GnssSvInfo (F : Type) where
  prn : Int
  snr : F
  elevation : F
  azimuth : F
  usedInFix : Bool
deriving DecidableEq, Repr

structure GnssSvStatus {F : Type} (pf : Platform F) where
  numSvs : Int
  svList : Vector (GnssSvInfo F) pf.gnssMaxSvs

/-- `NMEA_MAX_SIZE`; the array `in` holds one byte more. -/
def nmeaMaxSize : Nat := 128

/-- `NMEA_MAX_SV_INFO`: satellites carried by one GSV sentence. -/
def nmeaMaxSvInfo : Nat := 4

structure NmeaReader {F : Type} (pf : Platform F) where
  pos : Nat
  overflow : Bool
  utcYear : Int
  utcMon : Int
  utcDay : Int
  fix : GpsLocation F
  fixMode : Int
  svCount : Int
  svStatusGps : GpsSvStatus F
  svStatusGnss : GnssSvStatus pf
  inBuf : Vector Byte (nmeaMaxSize + 1)

/-- `sv_used_in_fix[256]`, with entries 0 and 1. -/
abbrev SvUsedInFix := Int → Bool

/-- `list[index] = value` with an `int` index. -/
def storeAt {α : Type} {n : Nat} (list : Vector α n) (index : Int) (value : α) : Vector α n :=
  if 0 ≤ index then list.setIfInBounds index.toNat value else list

variable {F : Type} {pf : Platform F}

/-- `LOC_FIXED`. -/
def NmeaReader.locFixed (r : NmeaReader pf) : Bool := r.fixMode == 2 || r.fixMode == 3

/-- `nmea_reader_init`, started from `memset(r, 0, sizeof(*r))`. -/
def nmeaReaderInit (pf : Platform F) : NmeaReader pf :=
  let zero := pf.ofInt 0
  { pos := 0, overflow := false, utcYear := -1, utcMon := -1, utcDay := -1
    fix := ⟨0, zero, zero, zero, zero, zero, zero, 0⟩
    fixMode := 0, svCount := 0
    svStatusGps := ⟨0, Vector.replicate _ ⟨0, zero, zero, zero⟩, 0, 0, 0⟩
    svStatusGnss := ⟨0, Vector.replicate _ ⟨0, zero, zero, zero, false⟩⟩
    inBuf := Vector.replicate _ 0 }

/-- `nmea_reader_set_callback` outside the AT test mode; `registering` is `cbs != NULL`. -/
def nmeaReaderSetCallback (r : NmeaReader pf) (registering : Bool) : NmeaReader pf :=
  if registering then
    { r with
      fix := { r.fix with flags := 0 }
      svCount := 0
      svStatusGps := { r.svStatusGps with numSvs := 0 }
      svStatusGnss := { r.svStatusGnss with numSvs := 0 } }
  else r

/-- Record that the fix carries the data of `flag`. -/
def NmeaReader.setFlag (r : NmeaReader pf) (flag : LocationFlag) : NmeaReader pf :=
  { r with fix := { r.fix with flags := r.fix.flags ||| flag.mask } }

/-- `nmea_reader_update_time`; `now` is `time(NULL)`. -/
def nmeaReaderUpdateTime (r : NmeaReader pf) (now : Int) (tok : Token) : NmeaReader pf × Int :=
  if tok.fin < tok.p + 6 then (r, -1)
  else
    let fresh := r.utcYear < 0
    let tm : Tm := if fresh then pf.gmtime now else {}
    let r := if fresh then { r with utcYear := tm.year + 1900, utcMon := tm.mon + 1, utcDay := tm.mday } else r
    let tm := { tm with
      hour := str2int tok.mem tok.p (tok.p + 2)
      min := str2int tok.mem (tok.p + 2) (tok.p + 4)
      sec := pf.toInt (str2float pf tok.mem (tok.p + 4) tok.fin)
      year := r.utcYear - 1900, mon := r.utcMon - 1, mday := r.utcDay, isdst := -1 }
    -- The first call only checks for an error, but it normalises `tm`.
    let fixTime := (pf.mktime (pf.mktime tm).1).2
    let fixTime := fixTime + (pf.localtime fixTime).gmtoff
    ({ r with fix := { r.fix with timestamp := fixTime * 1000 } }, 0)

/-- `nmea_reader_update_date`. -/
def nmeaReaderUpdateDate (r : NmeaReader pf) (now : Int) (date time : Token) : NmeaReader pf × Int :=
  if date.p + 6 ≠ date.fin then (r, -1)
  else
    let day := str2int date.mem date.p (date.p + 2)
    let mon := str2int date.mem (date.p + 2) (date.p + 4)
    let year := str2int date.mem (date.p + 4) (date.p + 6) + 2000
    -- `(day|mon|year) < 0`: the sign bits are or-ed.
    if day < 0 ∨ mon < 0 ∨ year < 0 then (r, -1)
    else nmeaReaderUpdateTime { r with utcYear := year, utcMon := mon, utcDay := day } now time

/-- `convert_from_hhmm`, on the value `str2float` read. -/
def convertFromHhmm (pf : Platform F) (val : F) : F :=
  let degrees := pf.toInt (pf.div (pf.floor val) (pf.ofInt 100))
  let minutes := pf.sub val (pf.mul (pf.ofInt degrees) (pf.ofInt 100))
  pf.add (pf.ofInt degrees) (pf.div minutes (pf.ofInt 60))

/-- `nmea_reader_update_latlong`. -/
def nmeaReaderUpdateLatlong (r : NmeaReader pf) (latitude latitudeHemi longitude longitudeHemi : Token) :
    NmeaReader pf × Int :=
  if latitude.fin < latitude.p + 6 then (r, -1)
  else
    let lat := convertFromHhmm pf (latitude.float pf)
    let lat := if latitudeHemi.first = 'S'.toUInt8 then pf.neg lat else lat
    if longitude.fin < longitude.p + 6 then (r, -1)
    else
      let lon := convertFromHhmm pf (longitude.float pf)
      let lon := if longitudeHemi.first = 'W'.toUInt8 then pf.neg lon else lon
      ({ r with fix := { (r.setFlag .latLong).fix with latitude := lat, longitude := lon } }, 0)

/-- The helpers for one optional number: an empty token leaves the reader alone. -/
def nmeaReaderUpdateNumber (r : NmeaReader pf) (flag : LocationFlag) (tok : Token)
    (store : GpsLocation F → F → GpsLocation F) : NmeaReader pf × Int :=
  if tok.fin ≤ tok.p then (r, -1)
  else ({ r with fix := store (r.setFlag flag).fix (tok.float pf) }, 0)

/-- `nmea_reader_update_altitude`; the units token is not read. -/
def nmeaReaderUpdateAltitude (r : NmeaReader pf) (altitude : Token) : NmeaReader pf × Int :=
  nmeaReaderUpdateNumber r .altitude altitude fun fix value => { fix with altitude := value }

/-- `nmea_reader_update_bearing`. -/
def nmeaReaderUpdateBearing (r : NmeaReader pf) (bearing : Token) : NmeaReader pf × Int :=
  nmeaReaderUpdateNumber r .bearing bearing fun fix value => { fix with bearing := pf.toSingle value }

/-- `nmea_reader_update_speed`, from knots to m/s. -/
def nmeaReaderUpdateSpeed (r : NmeaReader pf) (speed : Token) : NmeaReader pf × Int :=
  nmeaReaderUpdateNumber r .speed speed fun fix value =>
    { fix with speed := pf.toSingle (pf.div value (pf.ofRat (1942795467 / 1000000000))) }

/-- `nmea_reader_update_accuracy`. -/
def nmeaReaderUpdateAccuracy (r : NmeaReader pf) (accuracy : Token) : NmeaReader pf × Int :=
  nmeaReaderUpdateNumber r .accuracy accuracy fun fix value => { fix with accuracy := pf.toSingle value }

/-- `nmea_reader_update_sv_status_gps`; its `sv_index` argument is overwritten before use. -/
def nmeaReaderUpdateSvStatusGps (r : NmeaReader pf) (prn : Int) (elevation azimuth snr : Token) : NmeaReader pf :=
  if prn ≤ 0 ∨ (prn < 65 ∧ gpsMaxSvs < prn) ∨ 96 < prn ∨ gpsMaxSvs ≤ r.svCount then r
  else
    let svIndex := wrap32 (r.svCount + r.svStatusGps.numSvs)
    if gpsMaxSvs ≤ svIndex then r
    else
      let info : GpsSvInfo F := ⟨prn, pf.toSingle (snr.float pf),
        pf.toSingle (pf.ofInt elevation.int), pf.toSingle (pf.ofInt azimuth.int)⟩
      { r with
        svStatusGps := { r.svStatusGps with svList := storeAt r.svStatusGps.svList svIndex info }
        svCount := wrap32 (r.svCount + 1) }

/-- `nmea_reader_update_sv_status_gnss`; its `sv_index` argument is overwritten before use. -/
def nmeaReaderUpdateSvStatusGnss (used : SvUsedInFix) (r : NmeaReader pf) (prn : Int)
    (elevation azimuth snr : Token) : NmeaReader pf :=
  if prn ≤ 0 ∨ (prn < 65 ∧ gpsMaxSvs < prn) ∨ (96 < prn ∧ prn < 200) ∨ 232 < prn ∨
      pf.gnssMaxSvs ≤ r.svCount then r
  else
    let svIndex := wrap32 (r.svCount + r.svStatusGnss.numSvs)
    if pf.gnssMaxSvs ≤ svIndex then r
    else
      let info : GnssSvInfo F := ⟨prn, pf.toSingle (snr.float pf),
        pf.toSingle (pf.ofInt elevation.int), pf.toSingle (pf.ofInt azimuth.int), used prn⟩
      { r with
        svStatusGnss := { r.svStatusGnss with svList := storeAt r.svStatusGnss.svList svIndex info }
        svCount := wrap32 (r.svCount + 1) }

end Mt6582.Gps

import Mathlib.Data.Rat.Floor
import Mathlib.Data.Int.Basic
import Mathlib.Data.Set.Defs

/-! # What the GPS HAL takes from outside its sources

Bytes, 32-bit `int` arithmetic, libc's calendar and `strtod`, the C floating-point types and the
constants of `hardware/gps.h`. Floating point and libc are fields of `Platform`, so the model stays
generic in them; `Platform.utc` is an executable instance with exact rationals and a UTC calendar.
Signed overflow is undefined in C; it is modelled by two's-complement wraparound, `wrap32`.
-/

namespace Mt6582.Gps

abbrev Byte := UInt8

abbrev lf : Byte := 10
abbrev cr : Byte := 13
abbrev dollar : Byte := 36
abbrev star : Byte := 42
abbrev comma : Byte := 44
abbrev minus : Byte := 45
abbrev digit0 : Byte := 48

/-- The bytes of an ASCII literal. -/
def lit (text : List Char) : List Byte := text.map Char.toUInt8

/-- A value stored into a 32-bit `int`. -/
def wrap32 (value : Int) : Int := value.bmod (2 ^ 32)

theorem wrap32_eq_self {value : Int} (lower : -2 ^ 31 ≤ value) (upper : value < 2 ^ 31) :
    wrap32 value = value := by
  rw [wrap32]
  rw [Int.bmod_def]
  split <;> omega

theorem wrap32_bounds (value : Int) : -2 ^ 31 ≤ wrap32 value ∧ wrap32 value < 2 ^ 31 :=
  ⟨Int.le_bmod (by decide), Int.bmod_lt (by decide)⟩

/-- Past the largest `int` a value wraps below zero. -/
theorem wrap32_of_ge {value : Int} (beyond : 2 ^ 31 ≤ value) (upper : value < 3 * 2 ^ 31) :
    wrap32 value = value - 2 ^ 32 := by
  rw [wrap32]
  rw [Int.bmod_def]
  split <;> omega

/-- `struct tm`, with the fields the HAL reads or writes. -/
structure Tm where
  sec : Int := 0
  min : Int := 0
  hour : Int := 0
  mday : Int := 0
  mon : Int := 0
  year : Int := 0
  isdst : Int := 0
  gmtoff : Int := 0
deriving DecidableEq, Repr, Inhabited

/-- libc, the C floating-point types (carrier `F`) and the constants of `hardware/gps.h`. -/
structure Platform (F : Type) where
  strtod : List Byte → F
  ofRat : ℚ → F
  neg : F → F
  add : F → F → F
  sub : F → F → F
  mul : F → F → F
  div : F → F → F
  floor : F → F
  /-- The cast `(int)`. -/
  toInt : F → Int
  /-- Rounding a `double` to a `float` field. -/
  toSingle : F → F
  gmtime : Int → Tm
  localtime : Int → Tm
  /-- `mktime` also normalises the structure it is given. -/
  mktime : Tm → Tm × Int
  sizeofGpsCallbacks : Nat
  gnssMaxSvs : Nat
  /-- `sv_list[GNSS_MAX_SVS]` is an object in a 32-bit address space. -/
  gnssMaxSvs_lt : gnssMaxSvs < 2 ^ 28

namespace Platform

variable {F : Type} (pf : Platform F)

/-- `GpsCallbacks_mtk` of `inc/hardware/gps_mtk.h` has `base` as its only member. -/
def sizeofGpsCallbacksMtk : Nat := pf.sizeofGpsCallbacks

def ofInt (value : Int) : F := pf.ofRat value

end Platform

/-- `GPS_MAX_SVS` of `hardware/gps.h`. -/
def gpsMaxSvs : Nat := 32

section Calendar

/-- Days from 1970-01-01 to a proleptic Gregorian date. -/
def daysFromCivil (year month day : Int) : Int :=
  let y := if month ≤ 2 then year - 1 else year
  let era := y / 400
  let yoe := y - era * 400
  let doy := (153 * (month + if month > 2 then -3 else 9) + 2) / 5 + day - 1
  era * 146097 + (yoe * 365 + yoe / 4 - yoe / 100 + doy) - 719468

/-- The proleptic Gregorian date a number of days after 1970-01-01. -/
def civilFromDays (days : Int) : Int × Int × Int :=
  let z := days + 719468
  let era := z / 146097
  let doe := z - era * 146097
  let yoe := (doe - doe / 1460 + doe / 36524 - doe / 146096) / 365
  let doy := doe - (365 * yoe + yoe / 4 - yoe / 100)
  let mp := (5 * doy + 2) / 153
  let month := if mp < 10 then mp + 3 else mp - 9
  (yoe + era * 400 + (if month ≤ 2 then 1 else 0), month, doy - (153 * mp + 2) / 5 + 1)

def gmtimeUtc (time : Int) : Tm :=
  let (year, month, day) := civilFromDays (time / 86400)
  { sec := time % 60, min := time % 3600 / 60, hour := time % 86400 / 3600,
    mday := day, mon := month - 1, year := year - 1900 }

def mktimeUtc (tm : Tm) : Tm × Int :=
  let days := daysFromCivil (tm.year + 1900 + tm.mon / 12) (tm.mon % 12 + 1) 1 + tm.mday - 1
  let time := days * 86400 + tm.hour * 3600 + tm.min * 60 + tm.sec
  (gmtimeUtc time, time)

end Calendar

/-- The instants that `time_t` stands for on the target, where it has 32 bits. -/
def timeT : Set Int := {time | -2 ^ 31 ≤ time ∧ time < 2 ^ 31}

instance (time : Int) : Decidable (time ∈ timeT) := inferInstanceAs (Decidable (_ ∧ _))

/-- `mktime` with that `time_t`: -1 where the instant does not fit. -/
def mktimeFitting (mktime : Tm → Tm × Int) (tm : Tm) : Tm × Int :=
  if (mktime tm).2 ∈ timeT then mktime tm else (tm, -1)

/-- The leading digits of a text as a natural number, and what follows them. -/
def leadingDigits : List Byte → Nat → Nat → Nat × Nat × List Byte
  | [], value, count => (value, count, [])
  | c :: rest, value, count =>
      if digit0 ≤ c ∧ c ≤ 57 then leadingDigits rest (value * 10 + (c.toNat - 48)) (count + 1)
      else (value, count, c :: rest)

/-- `strtod` on plain decimal notation, without rounding. -/
def strtodExact (text : List Byte) : ℚ :=
  let (sign, body) : ℚ × List Byte := if text.head? = some minus then (-1, text.tail) else (1, text)
  let (whole, _, rest) := leadingDigits body 0 0
  let (frac, count, _) := if rest.head? = some 46 then leadingDigits rest.tail 0 0 else (0, 0, [])
  sign * (whole + frac / 10 ^ count)

/-- The bound on the 64 satellites of the platform. -/
theorem satellites_lt : 64 < 2 ^ 28 := by decide

/-- An executable platform: exact rationals for the floating-point types and UTC as local time. -/
def Platform.utc (gnssMaxSvs : Nat) (bound : gnssMaxSvs < 2 ^ 28) : Platform ℚ where
  strtod := strtodExact
  ofRat := id
  neg := (- ·)
  add := (· + ·)
  sub := (· - ·)
  mul := (· * ·)
  div := (· / ·)
  floor value := (⌊value⌋ : ℤ)
  toInt value := if value < 0 then -⌊-value⌋ else ⌊value⌋
  toSingle := id
  gmtime := gmtimeUtc
  localtime := gmtimeUtc
  mktime := mktimeFitting mktimeUtc
  sizeofGpsCallbacks := 72
  gnssMaxSvs := gnssMaxSvs
  gnssMaxSvs_lt := bound

/-- Calendar conversion and its inverse at a leap day. -/
example : civilFromDays (daysFromCivil 2016 2 29) = (2016, 2, 29) := by decide

end Mt6582.Gps

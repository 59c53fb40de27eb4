import Mt6582.Gps.Platform

/-! # EPO files and the times in their records

The HAL keeps its EPO data in plain files: the pieces as they are downloaded, the merged `EPOHAL.DAT`, and
`EPO.DAT`, which the daemon uses. A record of 72 bytes begins with its GPS time in hours; a file is dated by
its first and its last record. `unsigned int` arithmetic is taken modulo `2 ^ 32`.
-/

namespace Mt6582.Gps

/-- The files by path; a path without a file is `none`. -/
abbrev FileStore := String → Option (List Byte)

def gpsDir : String := "/data/misc/gps/"

/-- `EPO_FILE` -/
def epoFile : String := gpsDir ++ "EPO.DAT"

/-- `EPO_FILE_HAL` -/
def epoFileHal : String := gpsDir ++ "EPOHAL.DAT"

/-- `MTK_EPO_ONE_SV_SIZE` -/
def mtkEpoOneSvSize : Nat := 72

def secondsPerDay : Int := 24 * 60 * 60

/-- `unlink` -/
def FileStore.unlink (files : FileStore) (path : String) : FileStore := Function.update files path none

/-- A file opened for appending is created when it does not exist. -/
def FileStore.append (files : FileStore) (path : String) (data : List Byte) : FileStore :=
  Function.update files path (some ((files path).getD [] ++ data))

section Calendar

/-- The year is a leap year, `years` counted from 1980. -/
def gpsLeapYear (years : Nat) : Bool :=
  if years % 100 = 20 then years % 400 = 20 else years % 4 = 0

/-- The year loop of `GpsToUtcTime`: the days left over and the years that have passed. -/
def gpsYears : (fuel days years : Nat) → Nat × Nat
  | 0, days, years => (days, years)
  | fuel + 1, days, years =>
      if 365 ≤ days then
        if years % 100 = 20 then
          if years % 400 = 20 then
            if 366 ≤ days then gpsYears fuel (days - 366) (years + 1) else (days, years)
          else gpsYears fuel (days - 365) (years + 1)
        else if years % 4 = 0 then
          if 366 ≤ days then gpsYears fuel (days - 366) (years + 1) else (days, years)
        else gpsYears fuel (days - 365) (years + 1)
      else (days, years)

/-- The loop leaves when the days that remain fit into the year. -/
theorem gpsYears_done {fuel days : Nat} (years : Nat) (enough : days < 365 * fuel) :
    (gpsYears fuel days years).1 <
      if gpsLeapYear (gpsYears fuel days years).2 then 366 else 365 := by
  induction fuel generalizing days years with
  | zero => omega
  | succ fuel ih =>
    have ends (leap : gpsLeapYear years = true) (short : ¬ 366 ≤ days) :
        days < if gpsLeapYear years then 366 else 365 := by
      rw [if_pos leap]
      omega
    rw [gpsYears]
    split
    · split
      · next century =>
        split
        · next leap =>
          split
          · exact ih _ (by omega)
          · next short => exact ends (by simp [gpsLeapYear, century, leap]) short
        · exact ih _ (by omega)
      · next ordinary =>
        split
        · next leap =>
          split
          · exact ih _ (by omega)
          · next short => exact ends (by simp [gpsLeapYear, ordinary, leap]) short
        · exact ih _ (by omega)
    · split <;> omega

/-- Days into the year at the start of each month. -/
def monthStarts (leap : Bool) : List Nat :=
  [0, 31, 59, 90, 120, 151, 181, 212, 243, 273, 304, 334].mapIdx fun i start => if leap ∧ 2 ≤ i then start + 1 else start

variable {F : Type} (pf : Platform F)

/-- The time of a week number and a second of that week, as local time. -/
def gpsToUtcTime (week tow : Nat) : Int :=
  let elapsed := week * 7 + tow / 86400 + 5
  let seconds := tow - tow / 86400 * 86400
  let year := gpsYears (elapsed / 365 + 1) elapsed 0
  let starts := monthStarts (gpsLeapYear year.2)
  let month := starts.findIdx fun start => year.1 < start
  let day : Int := if month > 0 then year.1 - starts.getD (month - 1) 0 + 1 else 0
  (pf.mktime { year := 1980 + year.2 - 1900, mon := month - 1, mday := day, hour := seconds / 3600,
               min := seconds % 3600 / 60, sec := seconds - seconds / 60 * 60, isdst := -1 }).2

end Calendar

section Records

variable {F : Type} (pf : Platform F)

/-- The low three bytes of the record's first word are its GPS time in hours. -/
def epoGpsSecs (record : List Byte) : Nat :=
  ((record.getD 0 0).toNat + 256 * (record.getD 1 0).toNat + 65536 * (record.getD 2 0).toNat) * 3600 % 2 ^ 32

def gpsSecsToUtc (secs : Nat) : Int := gpsToUtcTime pf (secs / 604800) (secs % 604800)

/-- The time of the first record, if a whole record can be read. -/
def epoStart (contents : List Byte) : Option Int :=
  if contents.length < mtkEpoOneSvSize then none else some (gpsSecsToUtc pf (epoGpsSecs contents))

/-- Six hours after the last record, which is found by the file's size as an `int`. -/
def epoEnd (contents : List Byte) : Option Int :=
  let fileSize := wrap32 contents.length
  if fileSize < mtkEpoOneSvSize then none
  else
    let record := contents.drop (fileSize.toNat - mtkEpoOneSvSize)
    if record.length < mtkEpoOneSvSize then none
    else some (gpsSecsToUtc pf ((epoGpsSecs record + 21600) % 2 ^ 32))

def mtkGpsEpoPieceDataStart : List Byte → Option Int := epoStart pf

def mtkGpsEpoPieceDataEnd : List Byte → Option Int := epoEnd pf

def mtkGpsSysEpoPeriodStart : List Byte → Option Int := epoStart pf

def mtkGpsSysEpoPeriodEnd : List Byte → Option Int := epoEnd pf

/-- The start and expiry of the EPO data in use, `EPOHAL.DAT` before `EPO.DAT`; zero where it cannot be read. -/
def mtkGpsEpoFileTimeHal (files : FileStore) : Int × Int :=
  match (files epoFileHal).or (files epoFile) with
  | none => (0, 0)
  | some contents =>
      match mtkGpsSysEpoPeriodStart pf contents with
      | none => (0, 0)
      | some start => (start, (mtkGpsSysEpoPeriodEnd pf contents).getD 0)

/-- The age at which EPO data is to be replaced: by Wi-Fi after `wifi_epo_period` days, otherwise after the
configured period or, when the data covers less than that, after a part of what it covers. -/
def epoExpiredSet (wifiTrigger : Bool) (gpsEpoPeriod wifiEpoPeriod : Int) (times : Int × Int) : Int :=
  if wifiTrigger then wifiEpoPeriod * secondsPerDay
  else if times.2 - times.1 < gpsEpoPeriod * secondsPerDay then
    let downloadDay := (times.2 - times.1).tdiv secondsPerDay
    if downloadDay < 3 then 0
    else if downloadDay < 6 then 2 * secondsPerDay
    else if downloadDay < 9 then 5 * secondsPerDay
    else 7 * secondsPerDay
  else gpsEpoPeriod * secondsPerDay

/-- The test of `mtk_epo_is_expired`. -/
def epoExpired (wifiTrigger : Bool) (gpsEpoPeriod wifiEpoPeriod : Int) (timeUtc : Nat) (files : FileStore) : Bool :=
  let times := mtkGpsEpoFileTimeHal pf files
  epoExpiredSet wifiTrigger gpsEpoPeriod wifiEpoPeriod times + times.1 ≤ timeUtc

end Records

end Mt6582.Gps

import Mt6582.Gps.Nmea.Sentence

/-! # The date and time a reader keeps

The time of day comes with every GGA and RMC sentence, the date with RMC alone; the reader keeps the
date and the timestamp of the last complete time. `Stamp` is this part of the reader, and the update
functions act on it through the text of their fields only.
-/

namespace Mt6582.Gps

variable {F : Type} {pf : Platform F}

/-- The date and the timestamp of a reader. -/
structure Stamp where
  year : Int
  mon : Int
  day : Int
  timestamp : Int
deriving DecidableEq, Repr

/-- Hour, minute and second. -/
structure TimeOfDay where
  hour : Int
  min : Int
  sec : Int
deriving DecidableEq, Repr

/-- The first six characters of a time field and its fraction; a shorter one is no time. -/
def timeOfDay (pf : Platform F) (text : List Byte) : Option TimeOfDay :=
  if text.length < 6 then none
  else some ⟨strToInt (text.take 2), strToInt ((text.drop 2).take 2), pf.toInt (strToFloat pf (text.drop 4))⟩

/-- `ddmmyy`; the year comes out with its century. -/
def dateOf (text : List Byte) : Option (Int × Int × Int) :=
  if text.length ≠ 6 then none
  else
    let day := strToInt (text.take 2)
    let mon := strToInt ((text.drop 2).take 2)
    let year := strToInt (text.drop 4) + 2000
    if day < 0 ∨ mon < 0 ∨ year < 0 then none else some (year, mon, day)

/-- A time of day on the date kept, or on the clock's when none was ever received. -/
def Stamp.setTime (pf : Platform F) (now : Int) (stamp : Stamp) (time : TimeOfDay) : Stamp :=
  let fresh := stamp.year < 0
  let tm : Tm := if fresh then pf.gmtime now else {}
  let dated := if fresh then { stamp with year := tm.year + 1900, mon := tm.mon + 1, day := tm.mday } else stamp
  let tm := { tm with
    hour := time.hour, min := time.min, sec := time.sec
    year := dated.year - 1900, mon := dated.mon - 1, mday := dated.day, isdst := -1 }
  let fixTime := (pf.mktime (pf.mktime tm).1).2
  { dated with timestamp := (fixTime + (pf.localtime fixTime).gmtoff) * 1000 }

def NmeaReader.stamp (r : NmeaReader pf) : Stamp := ⟨r.utcYear, r.utcMon, r.utcDay, r.fix.timestamp⟩

def NmeaReader.withStamp (r : NmeaReader pf) (stamp : Stamp) : NmeaReader pf :=
  { r with
    utcYear := stamp.year, utcMon := stamp.mon, utcDay := stamp.day
    fix := { r.fix with timestamp := stamp.timestamp } }

@[simp] theorem NmeaReader.stamp_withStamp (r : NmeaReader pf) (stamp : Stamp) :
    (r.withStamp stamp).stamp = stamp := rfl

/-- What a time field does to the stamp. -/
def Stamp.updateTime (pf : Platform F) (now : Int) (stamp : Stamp) (time : List Byte) : Stamp :=
  match timeOfDay pf time with
  | none => stamp
  | some time => stamp.setTime pf now time

/-- What the date and time fields of an RMC sentence do to the stamp. -/
def Stamp.updateDate (pf : Platform F) (now : Int) (stamp : Stamp) (date time : List Byte) : Stamp :=
  match dateOf date with
  | none => stamp
  | some (year, mon, day) => Stamp.updateTime pf now { stamp with year := year, mon := mon, day := day } time

section Updates

variable {tok date time : Token}

private theorem str2int_part (good : tok.Good) (skip : Nat) (inside : skip + 2 ≤ tok.text.length) :
    str2int tok.mem (tok.p + skip) (tok.p + skip + 2) = strToInt ((tok.text.drop skip).take 2) := by
  have bound := good.bound
  rw [good.length_eq] at inside
  rw [str2int_eq (by omega) (by omega) (.inl (by omega)), Token.text, slice_drop,
    slice_take_prefix _ (by omega) bound]

theorem nmeaReaderUpdateTime_eq (r : NmeaReader pf) (now : Int) (good : tok.Good) :
    (nmeaReaderUpdateTime r now tok).1 = r.withStamp (r.stamp.updateTime pf now tok.text) := by
  have length := good.length_eq
  have order := good.order
  rw [Stamp.updateTime, timeOfDay, nmeaReaderUpdateTime]
  by_cases short : tok.text.length < 6
  · rw [if_pos short, if_pos (by omega)]
    rfl
  · have hour := str2int_part good 0 (by omega)
    have min := str2int_part good 2 (by omega)
    have sec : str2float pf tok.mem (tok.p + 4) tok.fin = strToFloat pf (tok.text.drop 4) := by
      rw [str2float_eq good.bound, Token.text, slice_drop]
    rw [Nat.add_zero, List.drop_zero] at hour
    rw [Nat.add_assoc] at min
    rw [if_neg short, if_neg (by omega)]
    dsimp only
    rw [hour, min, sec]
    by_cases fresh : r.utcYear < 0
    · simp only [fresh, ↓reduceIte, Stamp.setTime, NmeaReader.stamp, NmeaReader.withStamp]
    · simp only [fresh, ↓reduceIte, Stamp.setTime, NmeaReader.stamp, NmeaReader.withStamp]

/-- The date is taken from its text; the time is looked at only then. -/
theorem nmeaReaderUpdateDate_dateOf (r : NmeaReader pf) (now : Int) (goodDate : date.Good)
    (time : Token) :
    nmeaReaderUpdateDate r now date time =
      match dateOf date.text with
      | none => (r, -1)
      | some (year, mon, day) =>
        nmeaReaderUpdateTime { r with utcYear := year, utcMon := mon, utcDay := day } now time := by
  have length := goodDate.length_eq
  have order := goodDate.order
  rw [dateOf, nmeaReaderUpdateDate]
  by_cases exact_ : date.text.length ≠ 6
  · rw [if_pos exact_, if_pos (by omega)]
  · have day := str2int_part goodDate 0 (by omega)
    have mon := str2int_part goodDate 2 (by omega)
    have year := str2int_part goodDate 4 (by omega)
    have rest : (date.text.drop 4).take 2 = date.text.drop 4 :=
      List.take_of_length_le (by rw [List.length_drop]; omega)
    rw [Nat.add_zero, List.drop_zero] at day
    rw [Nat.add_assoc] at mon year
    rw [rest] at year
    rw [if_neg exact_, if_neg (by omega)]
    dsimp only
    rw [day, mon, year]
    split_ifs <;> rfl

theorem nmeaReaderUpdateDate_eq (r : NmeaReader pf) (now : Int) (goodDate : date.Good)
    (goodTime : time.Good) :
    (nmeaReaderUpdateDate r now date time).1 =
      r.withStamp (r.stamp.updateDate pf now date.text time.text) := by
  rw [nmeaReaderUpdateDate_dateOf r now goodDate, Stamp.updateDate]
  cases dateOf date.text with
  | none => rfl
  | some stored => exact nmeaReaderUpdateTime_eq _ _ goodTime

theorem nmeaReaderUpdateTime_code (r : NmeaReader pf) (now : Int) (good : tok.Good) :
    (nmeaReaderUpdateTime r now tok).2 = if 6 ≤ tok.text.length then 0 else -1 := by
  have length := good.length_eq
  have order := good.order
  rw [nmeaReaderUpdateTime]
  rcases Nat.lt_or_ge tok.text.length 6 with short | long
  · rw [if_pos (by omega), if_neg (by omega)]
  · rw [if_neg (by omega), if_pos long]

theorem nmeaReaderUpdateDate_code (r : NmeaReader pf) (now : Int) (goodDate : date.Good)
    (goodTime : time.Good) :
    (nmeaReaderUpdateDate r now date time).2 =
      if (dateOf date.text).isSome ∧ 6 ≤ time.text.length then 0 else -1 := by
  rw [nmeaReaderUpdateDate_dateOf r now goodDate]
  cases dateOf date.text with
  | none => rfl
  | some stored =>
    simp only [Option.isSome_some, true_and]
    exact nmeaReaderUpdateTime_code _ now goodTime

end Updates

end Mt6582.Gps

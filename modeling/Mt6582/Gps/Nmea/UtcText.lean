import Mt6582.Gps.Calendar
import Mt6582.Gps.Nmea.Clock

/-! # Dates and times of day as an RMC sentence writes them

`hhmmss` with an optional fraction and `ddmmyy`, and what the reader makes of them. `Platform.ReadsSeconds` says what is
taken from `strtod`.
-/

namespace Mt6582.Gps

open List

variable {F : Type} {pf : Platform F}

def twoDigits (n : Nat) : List Byte := [.ofNat (48 + n / 10), .ofNat (48 + n % 10)]

/-- Nothing, or a point and at most twelve digits. -/
def IsFraction (text : List Byte) : Prop :=
  text = [] ∨ ∃ digits, text = 46 :: digits ∧ digits.length ≤ 12 ∧ ∀ c ∈ digits, digit0 ≤ c ∧ c ≤ 57

/-- `(int) strtod` drops the fraction of a number of seconds. -/
def Platform.ReadsSeconds (pf : Platform F) : Prop :=
  ∀ sec fraction, sec < 60 → IsFraction fraction → pf.toInt (pf.strtod (twoDigits sec ++ fraction)) = sec

theorem strToInt_twoDigits {n : Nat} (small : n < 100) : strToInt (twoDigits n) = n := by
  have all : ∀ n : Fin 100, strToInt (twoDigits n) = n := by decide
  exact all ⟨n, small⟩

/-- A date of the years 2000 to 2099 and a time of day. -/
structure UtcText where
  year : Nat
  mon : Nat
  day : Nat
  hour : Nat
  min : Nat
  sec : Nat
  fraction : List Byte

namespace UtcText

def timeText (u : UtcText) : List Byte := twoDigits u.hour ++ twoDigits u.min ++ twoDigits u.sec ++ u.fraction

def dateText (u : UtcText) : List Byte := twoDigits u.day ++ twoDigits u.mon ++ twoDigits (u.year - 2000)

/-- Seconds since 1970-01-01. -/
def seconds (u : UtcText) : Int := daysFromCivil u.year u.mon u.day * 86400 + u.hour * 3600 + u.min * 60 + u.sec

structure WellFormed (u : UtcText) : Prop where
  year : 2000 ≤ u.year ∧ u.year < 2100
  mon : 1 ≤ u.mon ∧ u.mon ≤ 12
  day : 1 ≤ u.day ∧ (u.day : Int) ≤ daysInMonth u.year u.mon
  hour : u.hour < 24
  min : u.min < 60
  sec : u.sec < 60
  fraction : IsFraction u.fraction

variable {u : UtcText}

theorem WellFormed.day_lt (wf : u.WellFormed) : u.day < 100 := by
  have := wf.day.2
  rw [daysInMonth] at this
  split_ifs at this <;> omega

theorem six_le_timeText (u : UtcText) : 6 ≤ u.timeText.length := by
  simp only [timeText, twoDigits, length_append, length_cons, length_nil]
  omega

namespace WellFormed

variable (wf : u.WellFormed)

include wf

theorem timeOfDay_eq (reads : pf.ReadsSeconds) :
    timeOfDay pf u.timeText = some ⟨u.hour, u.min, u.sec⟩ := by
  have hour : strToInt (u.timeText.take 2) = u.hour :=
    strToInt_twoDigits (by have := wf.hour; omega)
  have min : strToInt ((u.timeText.drop 2).take 2) = u.min :=
    strToInt_twoDigits (by have := wf.min; omega)
  have sec : strToFloat pf (u.timeText.drop 4) = pf.strtod (twoDigits u.sec ++ u.fraction) := by
    have short : (twoDigits u.sec ++ u.fraction).length < 16 := by
      rcases wf.fraction with none | ⟨digits, some, few, -⟩
      · rw [none]
        simp [twoDigits]
      · rw [some]
        simp only [twoDigits, length_append, length_cons, length_nil]
        omega
    exact if_neg (not_le.mpr short)
  rw [timeOfDay, if_neg (not_lt.mpr u.six_le_timeText), hour, min, sec,
    reads u.sec u.fraction wf.sec wf.fraction]

theorem dateOf_eq : dateOf u.dateText = some ((u.year : Int), (u.mon : Int), (u.day : Int)) := by
  have day : strToInt (u.dateText.take 2) = u.day := strToInt_twoDigits wf.day_lt
  have mon : strToInt ((u.dateText.drop 2).take 2) = u.mon :=
    strToInt_twoDigits (by have := wf.mon; omega)
  have year : strToInt (u.dateText.drop 4) + 2000 = u.year := by
    have := wf.year
    have short : strToInt (u.dateText.drop 4) = (u.year - 2000 : Nat) :=
      strToInt_twoDigits (by omega)
    omega
  have positive : ¬ ((u.day : Int) < 0 ∨ (u.mon : Int) < 0 ∨ (u.year : Int) < 0) := by omega
  simp only [dateOf, day, mon, year, if_neg positive]
  rfl

end WellFormed

end UtcText

section Fields

/-- The fields that a time of day on the date kept gives `mktime`. -/
def Stamp.fields (stamp : Stamp) (time : TimeOfDay) : Tm :=
  { hour := time.hour, min := time.min, sec := time.sec
    year := stamp.year - 1900, mon := stamp.mon - 1, mday := stamp.day, isdst := -1 }

variable {stamp : Stamp} {time : TimeOfDay}

theorem Stamp.setTime_dated (now : Int) (dated : 0 ≤ stamp.year) :
    stamp.setTime pf now time = { stamp with timestamp :=
      ((pf.mktime (pf.mktime (stamp.fields time)).1).2 +
        (pf.localtime (pf.mktime (pf.mktime (stamp.fields time)).1).2).gmtoff) * 1000 } := by
  simp only [Stamp.setTime, if_neg (not_lt.mpr dated)]
  rfl

theorem Stamp.fields_inRange (stamp : Stamp) (mon : 1 ≤ stamp.mon ∧ stamp.mon ≤ 12)
    (day : 1 ≤ stamp.day ∧ stamp.day ≤ daysInMonth stamp.year stamp.mon)
    (hour : 0 ≤ time.hour ∧ time.hour < 24)
    (min : 0 ≤ time.min ∧ time.min < 60) (sec : 0 ≤ time.sec ∧ time.sec < 60) :
    (stamp.fields time).InRange := by
  refine ⟨sec, min, hour, ?_, ?_⟩
  · simp only [fields]
    omega
  · simpa only [fields, Int.sub_add_cancel] using day

theorem Stamp.utcSeconds_fields (stamp : Stamp) (time : TimeOfDay) :
    (stamp.fields time).utcSeconds =
    daysFromCivil stamp.year stamp.mon stamp.day * 86400 + time.hour * 3600 + time.min * 60 + time.sec := by
  simp only [fields, Tm.utcSeconds, Int.sub_add_cancel]

end Fields

section Civil

private theorem leadingDigits_digits {digits : List Byte} (each : ∀ c ∈ digits, digit0 ≤ c ∧ c ≤ 57)
    (value count : Nat) :
    ∃ tail < 10 ^ digits.length, leadingDigits digits value count =
      (value * 10 ^ digits.length + tail, count + digits.length, []) := by
  induction digits generalizing value count with
  | nil => exact ⟨0, by simp, by simp [leadingDigits]⟩
  | cons c rest ih =>
    obtain ⟨lower, upper⟩ := each c mem_cons_self
    obtain ⟨tail, small, read⟩ := ih (fun c member => each c (mem_cons_of_mem _ member))
      (value * 10 + (c.toNat - 48)) (count + 1)
    have digit : c.toNat - 48 ≤ 9 := by
      have : c.toNat ≤ 57 := UInt8.le_iff_toNat_le.mp upper
      omega
    refine ⟨(c.toNat - 48) * 10 ^ rest.length + tail, ?_, ?_⟩
    · rw [length_cons, Nat.pow_succ]
      nlinarith
    · rw [leadingDigits, if_pos ⟨lower, upper⟩, read, length_cons, Nat.pow_succ]
      refine Prod.ext ?_ (Prod.ext ?_ rfl)
      · ring
      · dsimp only
        omega

private theorem leadingDigits_seconds {sec : Nat} (small : sec < 60) (rest : List Byte) :
    leadingDigits (twoDigits sec ++ rest) 0 0 = leadingDigits rest sec 2 := by
  have all :
      ∀ sec : Fin 60, (digit0 ≤ UInt8.ofNat (48 + sec / 10) ∧ UInt8.ofNat (48 + sec / 10) ≤ 57) ∧
      (digit0 ≤ UInt8.ofNat (48 + sec % 10) ∧ UInt8.ofNat (48 + sec % 10) ≤ 57) ∧
      ((0 * 10 + ((UInt8.ofNat (48 + sec / 10)).toNat - 48)) * 10 + ((UInt8.ofNat (48 + sec % 10)).toNat - 48)) = sec := by
    decide
  obtain ⟨tens, ones, value⟩ := all ⟨sec, small⟩
  dsimp only at tens ones value
  rw [twoDigits, cons_append, cons_append, nil_append, leadingDigits, if_pos tens, leadingDigits,
    if_pos ones, value]

theorem Platform.civil_readsSeconds : Platform.civil.ReadsSeconds := by
  intro sec fraction small isFraction
  have unsigned : (twoDigits sec ++ fraction).head? ≠ some minus := by
    have all : ∀ sec : Fin 60, UInt8.ofNat (48 + sec / 10) ≠ minus := by decide
    intro signed
    exact all ⟨sec, small⟩ (Option.some.inj signed)
  have value :
      ∃ part : ℚ, 0 ≤ part ∧ part < 1 ∧ strtodExact (twoDigits sec ++ fraction) = sec + part := by
    rw [strtodExact, if_neg unsigned]
    dsimp only
    rw [leadingDigits_seconds small]
    rcases isFraction with rfl | ⟨digits, rfl, -, each⟩
    · exact ⟨0, le_rfl, by norm_num, by simp [leadingDigits]⟩
    · obtain ⟨tail, bound, read⟩ := leadingDigits_digits each 0 0
      have stops : leadingDigits (46 :: digits) sec 2 = (sec, 2, 46 :: digits) := by
        rw [leadingDigits, if_neg (by decide)]
      simp only [stops, head?_cons, tail_cons, ↓reduceIte, read]
      have positive : (0 : ℚ) < 10 ^ digits.length := by positivity
      refine ⟨tail / 10 ^ digits.length, by positivity, ?_, ?_⟩
      · rw [div_lt_one positive]
        exact_mod_cast bound
      · simp
  obtain ⟨part, lower, upper, value⟩ := value
  change (if strtodExact (twoDigits sec ++ fraction) < 0 then _ else ⌊strtodExact (twoDigits sec ++ fraction)⌋) = (sec : Int)
  have positive : ¬ ((sec : ℚ) + part < 0) := by
    have : (0 : ℚ) ≤ sec := Nat.cast_nonneg sec
    linarith
  rw [value, if_neg positive, Int.floor_eq_iff]
  constructor
  · push_cast
    linarith
  · push_cast
    linarith

/-- A text as a token of its own. -/
def ownToken (text : List Byte) : Token := ⟨text ++ [comma], 0, text.length⟩

theorem ownToken_good (text : List Byte) : (ownToken text).Good ∧ (ownToken text).text = text := by
  refine ⟨⟨Nat.zero_le _, ?_, ?_⟩, ?_⟩
  · simp [ownToken]
  · simp [ownToken, byteAt]
  · simp [ownToken, Token.text, slice]

end Civil

end Mt6582.Gps

import Mt6582.Gps.Platform

/-! # The Gregorian calendar

Dates and the date after a date. A date some days later is reached by taking that many steps; `daysFromCivil`
counts them.
-/

namespace Mt6582.Gps

def daysInMonth (year mon : Int) : Int :=
  if mon = 2 then if (4 ∣ year ∧ ¬ 100 ∣ year) ∨ 400 ∣ year then 29 else 28
  else if mon = 4 ∨ mon = 6 ∨ mon = 9 ∨ mon = 11 then 30 else 31

/-- The fields lie in the ranges that `mktime` would normalise them to. -/
structure Tm.InRange (tm : Tm) : Prop where
  sec : 0 ≤ tm.sec ∧ tm.sec < 60
  min : 0 ≤ tm.min ∧ tm.min < 60
  hour : 0 ≤ tm.hour ∧ tm.hour < 24
  mon : 0 ≤ tm.mon ∧ tm.mon < 12
  mday : 1 ≤ tm.mday ∧ tm.mday ≤ daysInMonth (tm.year + 1900) (tm.mon + 1)

/-- The fields as seconds since the epoch, read in UTC. -/
def Tm.utcSeconds (tm : Tm) : Int :=
  daysFromCivil (tm.year + 1900) (tm.mon + 1) tm.mday * 86400 + tm.hour * 3600 + tm.min * 60 + tm.sec

structure Date where
  year : Int
  mon : Int
  day : Int
deriving DecidableEq, Repr

namespace Date

structure Valid (d : Date) : Prop where
  mon : 1 ≤ d.mon ∧ d.mon ≤ 12
  day : 1 ≤ d.day ∧ d.day ≤ daysInMonth d.year d.mon

def next (d : Date) : Date :=
  if d.day < daysInMonth d.year d.mon then { d with day := d.day + 1 }
  else if d.mon < 12 then ⟨d.year, d.mon + 1, 1⟩
  else ⟨d.year + 1, 1, 1⟩

/-- Days since 1970-01-01. -/
def number (d : Date) : Int := daysFromCivil d.year d.mon d.day

def ofTm (tm : Tm) : Date := ⟨tm.year + 1900, tm.mon + 1, tm.mday⟩

variable {d : Date}

theorem one_le_daysInMonth (year mon : Int) : 1 ≤ daysInMonth year mon := by
  rw [daysInMonth]
  split_ifs <;> decide

theorem Valid.next (valid : d.Valid) : d.next.Valid := by
  obtain ⟨⟨low, high⟩, first, last⟩ := valid
  rw [Date.next]
  split
  · next room => exact ⟨⟨low, high⟩, Int.le_add_one first, Int.add_one_le_of_lt room⟩
  · split
    · next before =>
        exact ⟨⟨Int.le_add_one low, Int.add_one_le_of_lt before⟩, le_rfl, one_le_daysInMonth _ _⟩
    · exact ⟨⟨le_rfl, by norm_num⟩, le_rfl, one_le_daysInMonth _ _⟩

/-- The last day of a month is followed by the first of the next one. -/
private theorem number_month {year mon : Int} (low : 1 ≤ mon) (before : mon < 12) :
    daysFromCivil year (mon + 1) 1 = daysFromCivil year mon (daysInMonth year mon) + 1 := by
  have which : mon = 1 ∨ mon = 2 ∨ mon = 3 ∨ mon = 4 ∨ mon = 5 ∨ mon = 6 ∨ mon = 7 ∨ mon = 8 ∨
      mon = 9 ∨ mon = 10 ∨
      mon = 11 := by omega
  unfold daysInMonth daysFromCivil
  dsimp only
  rcases which with rfl | rfl | rfl | rfl | rfl | rfl | rfl | rfl | rfl | rfl | rfl <;> norm_num <;> (try split_ifs) <;>
    omega

theorem number_next (valid : d.Valid) : d.next.number = d.number + 1 := by
  obtain ⟨⟨low, high⟩, first, last⟩ := valid
  obtain ⟨year, mon, day⟩ := d
  dsimp only at low high first last
  unfold Date.next number
  dsimp only
  split
  · simp only [daysFromCivil]
    omega
  · next full =>
    obtain rfl : day = daysInMonth year mon := by omega
    split
    · next before => exact number_month low before
    · next final =>
      obtain rfl : mon = 12 := by omega
      unfold daysInMonth daysFromCivil
      norm_num
      omega

theorem Valid.iterate (valid : d.Valid) (n : Nat) :
    (Date.next^[n] d).Valid ∧ (Date.next^[n] d).number = d.number + n := by
  induction n with
  | zero => exact ⟨valid, (Int.add_zero _).symm⟩
  | succ n ih =>
    rw [Function.iterate_succ_apply', number_next ih.1, ih.2]
    exact ⟨ih.1.next, by omega⟩

/-- Inside a month, only the day moves. -/
theorem iterate_day {year mon : Int} {n : Nat} (inside : (n : Int) < daysInMonth year mon) :
    Date.next^[n] ⟨year, mon, 1⟩ = ⟨year, mon, n + 1⟩ := by
  induction n with
  | zero => rfl
  | succ n ih =>
    rw [Function.iterate_succ_apply', ih (by omega), Date.next, if_pos (by dsimp only; omega)]
    rfl

/-- The first of a month, once the month is over. -/
theorem iterate_month {year mon : Int} {n : Nat} (whole : (n : Int) = daysInMonth year mon) :
    Date.next^[n] ⟨year, mon, 1⟩ = if mon < 12 then ⟨year, mon + 1, 1⟩ else ⟨year + 1, 1, 1⟩ := by
  have some := one_le_daysInMonth year mon
  obtain ⟨k, rfl⟩ : ∃ k, n = k + 1 := ⟨n - 1, by omega⟩
  rw [Function.iterate_succ_apply', iterate_day (by omega), Date.next,
    if_neg (by dsimp only; omega)]

end Date

section Libc

variable {F : Type}

/-- `mktime` and `localtime_r` at the instants in `times`, in a zone that is always `offset` seconds ahead of UTC. -/
structure Platform.FixedOffset (pf : Platform F) (times : Set Int) (offset : Int) : Prop where
  time : ∀ tm, tm.InRange → tm.utcSeconds - offset ∈ times → (pf.mktime tm).2 = tm.utcSeconds - offset
  fields : ∀ tm, tm.InRange → tm.utcSeconds - offset ∈ times →
    ∃ isdst gmtoff, (pf.mktime tm).1 = { tm with isdst := isdst, gmtoff := gmtoff }
  gmtoff : ∀ time ∈ times, (pf.localtime time).gmtoff = offset

theorem Platform.FixedOffset.mono {pf : Platform F} {times fewer : Set Int} {offset : Int}
    (libc : pf.FixedOffset times offset) (within : fewer ⊆ times) : pf.FixedOffset fewer offset where
  time tm inRange inside := libc.time tm inRange (within inside)
  fields tm inRange inside := libc.fields tm inRange (within inside)
  gmtoff time inside := libc.gmtoff time (within inside)

/-- libc in UTC, with a `time_t` that stands for the instants in `times`: `gmtime_r` and `mktime` are inverse to each
other, and for any other instant `mktime` returns -1. -/
structure Platform.InUtc (pf : Platform F) (times : Set Int) : Prop where
  epoch : 0 ∈ times
  fixedOffset : pf.FixedOffset times 0
  beyond : ∀ tm, tm.InRange → tm.utcSeconds ∉ times → (pf.mktime tm).2 = -1
  gmtime : ∀ time ∈ times, (pf.mktime (pf.gmtime time)).2 = time

/-- UTC as local time; `mktime` leaves the fields as they are. -/
def Platform.civil : Platform ℚ :=
  { Platform.utc 64 satellites_lt with mktime := mktimeFitting fun tm => (tm, (mktimeUtc tm).2) }

theorem mktimeUtc_inRange {tm : Tm} (inRange : tm.InRange) : (mktimeUtc tm).2 = tm.utcSeconds := by
  obtain ⟨lower, upper⟩ := inRange.mon
  have noCarry : tm.mon / 12 = 0 := by omega
  have same : tm.mon % 12 = tm.mon := by omega
  simp only [mktimeUtc, Tm.utcSeconds, noCarry, same, Int.add_zero, daysFromCivil]
  omega

theorem Platform.civil_mktime {tm : Tm} (fits : (mktimeUtc tm).2 ∈ timeT) :
    Platform.civil.mktime tm = (tm, (mktimeUtc tm).2) := if_pos fits

theorem Platform.civil_fixedOffset : Platform.civil.FixedOffset timeT 0 := by
  refine ⟨fun tm inRange fits => ?_, fun tm inRange fits => ⟨tm.isdst, tm.gmtoff, ?_⟩, fun _ _ => rfl⟩
  · rw [Int.sub_zero, ← mktimeUtc_inRange inRange] at fits ⊢
    rw [Platform.civil_mktime fits]
  · rw [Int.sub_zero, ← mktimeUtc_inRange inRange] at fits
    rw [Platform.civil_mktime fits]

/-- The year of an era, and the day of that year, as `civilFromDays` finds them. -/
private theorem yearOfEra_bounds {doe a b c yoe doy : Int} (low : 0 ≤ doe) (high : doe < 146097)
    (ha : a = doe / 1460) (hb : b = doe / 36524) (hc : c = doe / 146096)
    (hy : yoe = (doe - a + b - c) / 365) (hd : doy = doe - (365 * yoe + yoe / 4 - yoe / 100)) :
    (0 ≤ yoe ∧ yoe ≤ 399) ∧ 0 ≤ doy ∧ doy ≤ 365 := by
  have cases : b = 0 ∨ b = 1 ∨ b = 2 ∨ b = 3 ∨ b = 4 := by omega
  have century : b - c ≤ yoe / 100 ∧ yoe / 100 ≤ b := by
    rcases cases with h | h | h | h | h <;> rw [h] at hb ⊢ <;> omega
  have four : yoe / 4 ≤ a := by omega
  refine ⟨by omega, by omega, ?_⟩
  rcases cases with h | h | h | h | h <;> rw [h] at hb hy century <;> omega

theorem daysFromCivil_civilFromDays (days : Int) :
    let (year, month, day) := civilFromDays days
    daysFromCivil year month day = days ∧ 1 ≤ month ∧ month ≤ 12 := by
  rw [civilFromDays]
  dsimp only
  have low : 0 ≤ days + 719468 - (days + 719468) / 146097 * 146097 := by omega
  have high : days + 719468 - (days + 719468) / 146097 * 146097 < 146097 := by omega
  generalize era : (days + 719468) / 146097 = e at low high ⊢
  generalize hdoe : days + 719468 - e * 146097 = doe at low high ⊢
  generalize hy : (doe - doe / 1460 + doe / 36524 - doe / 146096) / 365 = yoe
  generalize hd : doe - (365 * yoe + yoe / 4 - yoe / 100) = doy
  obtain ⟨⟨yLow, yHigh⟩, dLow, dHigh⟩ := yearOfEra_bounds low high rfl rfl rfl hy.symm hd.symm
  have sameEra : (yoe + e * 400) / 400 = e := by omega
  have sameYear : yoe + e * 400 - e * 400 = yoe := by omega
  generalize hm : (5 * doy + 2) / 153 = mp
  clear hy
  rw [daysFromCivil]
  rcases lt_or_ge mp 10 with march | january
  · have month : mp + 3 + -3 = mp := by omega
    have later : ¬ mp + 3 ≤ 2 := by omega
    simp only [if_pos march, if_neg later, if_pos (show mp + 3 > 2 by omega), Int.add_zero, sameEra,
      sameYear, month]
    omega
  · have month : mp - 9 + 9 = mp := by omega
    have early : mp - 9 ≤ 2 := by omega
    simp only [if_neg (not_lt.mpr january), if_pos early, if_neg (not_lt.mpr early),
      Int.add_sub_cancel, sameEra, sameYear, month]
    omega

theorem mktimeUtc_gmtimeUtc (time : Int) : (mktimeUtc (gmtimeUtc time)).2 = time := by
  have civil := daysFromCivil_civilFromDays (time / 86400)
  unfold mktimeUtc gmtimeUtc
  generalize civilFromDays (time / 86400) = date at civil ⊢
  obtain ⟨year, month, day⟩ := date
  obtain ⟨days, low, high⟩ := civil
  have noCarry : (month - 1) / 12 = 0 := by omega
  have same : (month - 1) % 12 = month - 1 := by omega
  have first : daysFromCivil year month 1 + day - 1 = daysFromCivil year month day := by
    unfold daysFromCivil
    dsimp only
    omega
  dsimp only
  rw [noCarry, same, Int.sub_add_cancel, Int.sub_add_cancel, Int.add_zero, first, days]
  omega

theorem Platform.civil_inUtc : Platform.civil.InUtc timeT := by
  refine ⟨by decide, Platform.civil_fixedOffset, fun tm inRange unfit => ?_, fun time inside => ?_⟩
  · rw [← mktimeUtc_inRange inRange] at unfit
    exact congrArg Prod.snd (if_neg unfit)
  · have fits : (mktimeUtc (gmtimeUtc time)).2 ∈ timeT := by
      rw [mktimeUtc_gmtimeUtc]
      exact inside
    exact (congrArg Prod.snd (Platform.civil_mktime fits)).trans (mktimeUtc_gmtimeUtc time)

end Libc

end Mt6582.Gps

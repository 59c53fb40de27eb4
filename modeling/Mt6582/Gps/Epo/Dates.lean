import Mathlib.Computability.StateTransition
import Mathlib.Data.List.GetD
import Mathlib.Tactic.IntervalCases
import Mt6582.Gps.Calendar
import Mt6582.Gps.Epo.Time

/-! # The dates of EPO records

`GpsToUtcTime` counts years from 1980 and looks the month up in a table. The date it builds is the Gregorian date
that many days after 1980-01-01.
-/

namespace Mt6582.Gps

open StateTransition

section Years

/-- One turn of the year loop of `GpsToUtcTime`, on the days left over and the years that have passed; `none` when
the loop is left. -/
def gpsYearTurn : Nat × Nat → Option (Nat × Nat)
  | (days, years) =>
      if 365 ≤ days then
        if years % 100 = 20 then
          if years % 400 = 20 then
            if 366 ≤ days then some (days - 366, years + 1) else none
          else some (days - 365, years + 1)
        else if years % 4 = 0 then
          if 366 ≤ days then some (days - 366, years + 1) else none
        else some (days - 365, years + 1)
      else none

def gpsYearLength (years : Nat) : Nat := if gpsLeapYear years then 366 else 365

theorem gpsYearTurn_eq (days years : Nat) : gpsYearTurn (days, years) =
    if gpsYearLength years ≤ days then some (days - gpsYearLength years, years + 1) else none := by
  unfold gpsYearTurn gpsYearLength gpsLeapYear
  dsimp only
  split_ifs <;> simp_all <;> omega

theorem gpsYears_succ (fuel days years : Nat) : gpsYears (fuel + 1) days years =
    if gpsYearLength years ≤ days then gpsYears fuel (days - gpsYearLength years) (years + 1) else (days, years) := by
  rw [gpsYearLength, gpsLeapYear]
  rw [gpsYears]
  split_ifs <;> simp_all <;> omega

theorem le_gpsYearLength (years : Nat) : 365 ≤ gpsYearLength years := by
  rw [gpsYearLength]
  split <;> omega

/-- The loop ends, and `gpsYears` is what it ends with. -/
theorem gpsYears_mem_eval {fuel days : Nat} (years : Nat) (enough : days < 365 * fuel) :
    gpsYears fuel days years ∈ eval gpsYearTurn (days, years) := by
  induction fuel generalizing days years with
  | zero => omega
  | succ fuel ih =>
    have long := le_gpsYearLength years
    have turn := gpsYearTurn_eq days years
    rw [gpsYears_succ]
    split at turn
    · next room =>
      have fewer : days - gpsYearLength years < 365 * fuel := by omega
      obtain ⟨reaches, final⟩ := mem_eval.mp (ih (years + 1) fewer)
      rw [if_pos room]
      exact mem_eval.mpr ⟨.head turn reaches, final⟩
    · next short =>
      rw [if_neg short]
      exact mem_eval.mpr ⟨.refl, turn⟩

end Years

section Months

theorem daysInMonth_february (years : Nat) :
    daysInMonth (1980 + years) 2 = if gpsLeapYear years then 29 else 28 := by
  unfold daysInMonth gpsLeapYear
  split_ifs <;> simp_all <;> omega

/-- The day of the year a month starts on. -/
def monthStart (years month : Nat) : Nat := (monthStarts (gpsLeapYear years)).getD month 0

theorem monthStart_succ (years month : Nat) (before : month < 11) :
    (monthStart years (month + 1) : Int) =
      monthStart years month + daysInMonth (1980 + years) (month + 1) := by
  have february := daysInMonth_february years
  unfold monthStart
  generalize gpsLeapYear years = leap at february ⊢
  interval_cases month <;> cases leap <;> first | rfl | (rw [show (((1 : Nat) : Int) + 1) = 2 from rfl, february]; rfl)

theorem monthStart_december (years : Nat) : monthStart years 11 + 31 = gpsYearLength years := by
  unfold monthStart gpsYearLength
  cases gpsLeapYear years <;> rfl

theorem iterate_monthStart (years : Nat) {month : Nat} (small : month < 12) :
    Date.next^[monthStart years month] ⟨1980 + years, 1, 1⟩ = ⟨1980 + years, month + 1, 1⟩ := by
  induction month with
  | zero =>
    have start : monthStart years 0 = 0 := by
      unfold monthStart
      cases gpsLeapYear years <;> rfl
    rw [start]
    rfl
  | succ month ih =>
    have step := monthStart_succ years month (by omega)
    have some := Date.one_le_daysInMonth (1980 + years) (month + 1)
    obtain ⟨length, whole⟩ :=
      Int.eq_ofNat_of_zero_le (show 0 ≤ daysInMonth (1980 + years) (month + 1) by omega)
    rw [show monthStart years (month + 1) = length + monthStart years month by omega, Function.iterate_add_apply,
      ih (by omega), Date.iterate_month whole.symm, if_pos (by omega)]
    norm_cast

theorem iterate_year (years : Nat) :
    Date.next^[gpsYearLength years] ⟨1980 + years, 1, 1⟩ = ⟨1980 + (years + 1 : Nat), 1, 1⟩ := by
  rw [← monthStart_december, Nat.add_comm, Function.iterate_add_apply,
    iterate_monthStart years (by omega), Date.iterate_month (by rfl), if_neg (by norm_num)]
  push_cast
  rw [Int.add_assoc]

/-- The year loop does not change the date it stands for. -/
theorem iterate_gpsYears (fuel days years : Nat) :
    Date.next^[(gpsYears fuel days years).1] ⟨1980 + (gpsYears fuel days years).2, 1, 1⟩ =
      Date.next^[days] ⟨1980 + years, 1, 1⟩ := by
  induction fuel generalizing days years with
  | zero => rfl
  | succ fuel ih =>
    rw [gpsYears_succ]
    split
    · next room =>
      rw [ih, ← iterate_year, ← Function.iterate_add_apply, Nat.sub_add_cancel room]
    · rfl

/-- The table is searched for the first month that starts later. -/
theorem month_of_day {years day : Nat} (inYear : day < gpsYearLength years) :
    ∃ month < 12, (monthStarts (gpsLeapYear years)).findIdx (fun start => day < start) = month + 1 ∧
      monthStart years month ≤ day ∧
      (day : Int) - monthStart years month < daysInMonth (1980 + years) (month + 1) := by
  have count : (monthStarts (gpsLeapYear years)).length = 12 := by simp [monthStarts]
  obtain ⟨month, found⟩ :
    ∃ month, (monthStarts (gpsLeapYear years)).findIdx (fun start => day < start) = month := ⟨_, rfl⟩
  have first : month ≠ 0 := by
    rw [← found]
    simp [monthStarts, List.mapIdx_cons, List.findIdx_cons]
  have last : month ≤ 12 := found ▸ count ▸ List.findIdx_le_length
  have started : monthStart years (month - 1) ≤ day := by
    have passed :=
      List.not_of_lt_findIdx (show month - 1 < (monthStarts (gpsLeapYear years)).findIdx _ by
      rw [found]; omega)
    rw [monthStart, List.getD_eq_getElem _ _ (by rw [count]; omega)]
    simpa using passed
  refine ⟨month - 1, by omega, by omega, started, ?_⟩
  rcases Nat.lt_or_eq_of_le last with inside | all
  · -- The next month has not started.
    have within : (monthStarts (gpsLeapYear years)).findIdx (fun start => day < start) <
        (monthStarts (gpsLeapYear years)).length := by rw [found, count]; exact inside
    have later := List.findIdx_getElem (w := within)
    have step := monthStart_succ years (month - 1) (by omega)
    have next : day < monthStart years (month - 1 + 1) := by
      rw [Nat.sub_add_cancel (by omega), monthStart,
        List.getD_eq_getElem _ _ (by rw [count]; exact inside)]
      simpa [found] using later
    omega
  · subst all
    have december : monthStart years (12 - 1) + 31 = gpsYearLength years :=
      monthStart_december years
    have length : daysInMonth (1980 + years) ((12 - 1 : Nat) + 1) = 31 := rfl
    omega

end Months

section Build

/-- `iDaysElapsed`, computed as an `int` and stored as an `unsigned int`. -/
def gpsDaysElapsed (i2Wn : Int) (tow : Nat) : Nat := (wrap32 (i2Wn * 7 + tow / 86400 + 5) % 2 ^ 32).toNat

/-- The `target_time` of `GpsToUtcTime`, for a time of week of whole seconds. -/
def gpsTargetTime (i2Wn : Int) (tow : Nat) : Tm :=
  let elapsed := gpsDaysElapsed i2Wn tow
  let seconds := tow - tow / 86400 * 86400
  let year := gpsYears (elapsed / 365 + 1) elapsed 0
  let starts := monthStarts (gpsLeapYear year.2)
  let month := starts.findIdx fun start => year.1 < start
  let day : Int := if month > 0 then year.1 - starts.getD (month - 1) 0 + 1 else 0
  { year := 1980 + year.2 - 1900, mon := month - 1, mday := day, hour := seconds / 3600
    min := seconds % 3600 / 60, sec := seconds - seconds / 60 * 60, isdst := -1 }

theorem gpsDaysElapsed_eq {week tow : Nat} (fits : 7 * (week : Int) + 12 < 2 ^ 31)
    (inWeek : tow < 604800) :
    gpsDaysElapsed week tow = week * 7 + tow / 86400 + 5 := by
  rw [gpsDaysElapsed]
  rw [wrap32_eq_self (by omega) (by omega)]
  omega

theorem gpsToUtcTime_eq {F : Type} (pf : Platform F) {week tow : Nat}
    (fits : 7 * (week : Int) + 12 < 2 ^ 31)
    (inWeek : tow < 604800) :
    gpsToUtcTime pf week tow = (pf.mktime (gpsTargetTime week tow)).2 := by
  rw [gpsToUtcTime, gpsTargetTime]
  rw [gpsDaysElapsed_eq fits inWeek]

theorem ofTm_gpsTargetTime (i2Wn : Int) (tow : Nat) :
    Date.ofTm (gpsTargetTime i2Wn tow) = Date.next^[gpsDaysElapsed i2Wn tow] ⟨1980, 1, 1⟩ := by
  let elapsed := gpsDaysElapsed i2Wn tow
  let year := gpsYears (elapsed / 365 + 1) elapsed 0
  have inYear : year.1 < gpsYearLength year.2 := gpsYears_done 0 (by omega)
  obtain ⟨month, small, found, started, inside⟩ := month_of_day inYear
  have years := iterate_gpsYears (elapsed / 365 + 1) elapsed 0
  have split : year.1 = (year.1 - monthStart year.2 month) + monthStart year.2 month := by omega
  have day : Date.next^[year.1] ⟨1980 + year.2, 1, 1⟩ =
      ⟨1980 + year.2, month + 1, (year.1 - monthStart year.2 month : Nat) + 1⟩ := by
    rw [split, Function.iterate_add_apply, iterate_monthStart _ small, Date.iterate_day (by omega)]
    simp
  have built : Date.ofTm (gpsTargetTime i2Wn tow) =
      ⟨1980 + year.2, month + 1, (year.1 - monthStart year.2 month : Nat) + 1⟩ := by
    have index :
        (monthStarts (gpsLeapYear (gpsYears (gpsDaysElapsed i2Wn tow / 365 + 1) (gpsDaysElapsed i2Wn tow) 0).2)).findIdx
        (fun start => (gpsYears (gpsDaysElapsed i2Wn tow / 365 + 1) (gpsDaysElapsed i2Wn tow) 0).1 < start) = month + 1 :=
      found
    simp only [Date.ofTm, gpsTargetTime, index]
    simp [year, elapsed, monthStart] at started ⊢
    omega
  rw [built, ← day]
  exact years

/-- The year loop ends, and the fields are the date that many days after 1980-01-01 with the time of day. -/
theorem gpsTargetTime_spec {i2Wn : Int} {tow : Nat} (week : 0 ≤ i2Wn) (fits : 7 * i2Wn + 12 < 2 ^ 31)
    (inWeek : tow < 604800) :
    gpsYears (gpsDaysElapsed i2Wn tow / 365 + 1) (gpsDaysElapsed i2Wn tow) 0 ∈
        eval gpsYearTurn (gpsDaysElapsed i2Wn tow, 0) ∧
      Date.ofTm (gpsTargetTime i2Wn tow) = Date.next^[i2Wn.toNat * 7 + tow / 86400 + 5] ⟨1980, 1, 1⟩ ∧
      (Date.ofTm (gpsTargetTime i2Wn tow)).Valid ∧ (gpsTargetTime i2Wn tow).hour = tow % 86400 / 3600 ∧
      (gpsTargetTime i2Wn tow).min = tow % 86400 % 3600 / 60 ∧ (gpsTargetTime i2Wn tow).sec = tow % 86400 % 60 := by
  obtain ⟨weeks, rfl⟩ := Int.eq_ofNat_of_zero_le week
  have date := ofTm_gpsTargetTime weeks tow
  have start : (⟨1980, 1, 1⟩ : Date).Valid := ⟨by decide, by decide⟩
  refine ⟨gpsYears_mem_eval 0 (by omega), ?_, ?_, ?_, ?_, ?_⟩
  · rw [date, gpsDaysElapsed_eq fits inWeek, Int.toNat_natCast]
  · rw [date]
    exact (start.iterate _).1
  all_goals
    simp only [gpsTargetTime]
    omega

/-- The last day of a leap year, which the year loop leaves with a `break`. -/
theorem gpsTargetTime_leapYearEnd : Date.ofTm (gpsTargetTime 1095 86399) = ⟨2000, 12, 31⟩ ∧
    Date.ofTm (gpsTargetTime 1095 86399) = Date.next^[(1095 : Int).toNat * 7 + 86399 / 86400 + 5] ⟨1980, 1, 1⟩ :=
  ⟨by decide, (@gpsTargetTime_spec 1095 86399 (by decide) (by decide) (by decide)).2.1⟩

end Build

section Records

variable {F : Type} {pf : Platform F}

/-- 1980-01-06, where GPS time starts. -/
def gpsEpoch : Int := (⟨1980, 1, 6⟩ : Date).number * 86400

theorem gpsTargetTime_inRange (i2Wn : Int) (tow : Nat) : (gpsTargetTime i2Wn tow).InRange := by
  have start : (⟨1980, 1, 1⟩ : Date).Valid := ⟨by decide, by decide⟩
  obtain ⟨mon, day⟩ := ofTm_gpsTargetTime i2Wn tow ▸ (start.iterate (gpsDaysElapsed i2Wn tow)).1
  simp only [Date.ofTm] at mon day
  constructor
  · simp only [gpsTargetTime]
    omega
  · simp only [gpsTargetTime]
    omega
  · simp only [gpsTargetTime]
    omega
  · omega
  · exact day

/-- Seconds that fit into 32 bits are split into week and time of week and put together again. -/
theorem gpsTargetTime_utcSeconds {secs : Nat} (fits : secs < 2 ^ 32) :
    (gpsTargetTime (secs / 604800 : Nat) (secs % 604800)).utcSeconds = gpsEpoch + secs := by
  have week : 7 * ((secs / 604800 : Nat) : Int) + 12 < 2 ^ 31 := by omega
  have inWeek : secs % 604800 < 604800 := Nat.mod_lt _ (by decide)
  have start : (⟨1980, 1, 1⟩ : Date).Valid := ⟨by decide, by decide⟩
  have days := ofTm_gpsTargetTime (secs / 604800 : Nat) (secs % 604800) ▸
    (start.iterate (gpsDaysElapsed (secs / 604800 : Nat) (secs % 604800))).2
  have first : (⟨1980, 1, 1⟩ : Date).number = 3652 := by decide
  have epoch : gpsEpoch = 315964800 := by decide
  rw [gpsDaysElapsed_eq week inWeek, first] at days
  simp only [Date.number, Date.ofTm] at days
  rw [Tm.utcSeconds, days, epoch]
  simp only [gpsTargetTime]
  omega

theorem gpsSecsToUtc_eq {secs : Nat} (fits : secs < 2 ^ 32) :
    gpsSecsToUtc pf secs = (pf.mktime (gpsTargetTime (secs / 604800 : Nat) (secs % 604800))).2 := by
  have week : 7 * ((secs / 604800 : Nat) : Int) + 12 < 2 ^ 31 := by omega
  rw [gpsSecsToUtc, gpsToUtcTime_eq pf week (Nat.mod_lt _ (by decide))]

variable {times : Set Int}

theorem gpsSecsToUtc_of_mem (libc : pf.InUtc times) {secs : Nat} (fits : secs < 2 ^ 32)
    (inside : gpsEpoch + secs ∈ times) : gpsSecsToUtc pf secs = gpsEpoch + secs := by
  have same := gpsTargetTime_utcSeconds fits
  have time := libc.fixedOffset.time _ (gpsTargetTime_inRange (secs / 604800 : Nat) (secs % 604800))
  rw [Int.sub_zero, same] at time
  rw [gpsSecsToUtc_eq fits, time inside]

theorem gpsSecsToUtc_of_not_mem (libc : pf.InUtc times) {secs : Nat} (fits : secs < 2 ^ 32)
    (outside : gpsEpoch + secs ∉ times) : gpsSecsToUtc pf secs = -1 := by
  rw [gpsSecsToUtc_eq fits, libc.beyond _ (gpsTargetTime_inRange _ _)]
  rw [gpsTargetTime_utcSeconds fits]
  exact outside

theorem gpsEpoch_eq : gpsEpoch = 315964800 := by decide

/-- Seconds as an `unsigned int` are dated right exactly if they fit into it and `time_t` stands for their instant. -/
theorem gpsSecsToUtc_iff (libc : pf.InUtc times) (secs : Nat) :
    gpsSecsToUtc pf (secs % 2 ^ 32) = gpsEpoch + secs ↔ secs < 2 ^ 32 ∧ gpsEpoch + secs ∈ times := by
  have wrapped : secs % 2 ^ 32 < 2 ^ 32 := Nat.mod_lt _ (by decide)
  have epoch := gpsEpoch_eq
  constructor
  · intro exact_
    by_cases inside : gpsEpoch + (secs % 2 ^ 32 : Nat) ∈ times
    · rw [gpsSecsToUtc_of_mem libc wrapped inside] at exact_
      have same : secs % 2 ^ 32 = secs := by omega
      rw [same] at inside wrapped
      exact ⟨wrapped, inside⟩
    · rw [gpsSecsToUtc_of_not_mem libc wrapped inside] at exact_
      omega
  · rintro ⟨fits, inside⟩
    rw [Nat.mod_eq_of_lt fits]
    exact gpsSecsToUtc_of_mem libc fits inside

/-- The hour field of a record. -/
def epoHours (record : List Byte) : Nat :=
  (record.getD 0 0).toNat + 256 * (record.getD 1 0).toNat + 65536 * (record.getD 2 0).toNat

def lastRecord (contents : List Byte) : List Byte := contents.drop (contents.length - mtkEpoOneSvSize)

/-- The first record's hour begins the data, the last record's ends it six hours later. -/
structure EpoTimesExact (pf : Platform F) (contents : List Byte) : Prop where
  start : mtkGpsSysEpoPeriodStart pf contents = some (gpsEpoch + 3600 * epoHours contents)
  finish : mtkGpsSysEpoPeriodEnd pf contents = some (gpsEpoch + 3600 * epoHours (lastRecord contents) + 21600)
  pieceStart : mtkGpsEpoPieceDataStart pf contents = some (gpsEpoch + 3600 * epoHours contents)
  pieceFinish : mtkGpsEpoPieceDataEnd pf contents = some (gpsEpoch + 3600 * epoHours (lastRecord contents) + 21600)

/-- The seconds of both ends are `unsigned int` values, and the instants are ones of `time_t`. -/
structure EpoTimesFit (times : Set Int) (contents : List Byte) : Prop where
  start : 3600 * epoHours contents < 2 ^ 32 ∧ gpsEpoch + 3600 * epoHours contents ∈ times
  finish : 3600 * epoHours (lastRecord contents) + 21600 < 2 ^ 32 ∧
    gpsEpoch + 3600 * epoHours (lastRecord contents) + 21600 ∈ times

/-- On the target, the times fit up to early 2038. -/
theorem epoTimesFit_timeT_iff (contents : List Byte) :
    EpoTimesFit timeT contents ↔ epoHours contents ≤ 508755 ∧ epoHours (lastRecord contents) ≤ 508749 := by
  have epoch := gpsEpoch_eq
  constructor
  · rintro ⟨⟨-, -, start⟩, -, -, finish⟩
    omega
  · rintro ⟨start, finish⟩
    exact ⟨⟨by omega, by omega, by omega⟩, by omega, by omega, by omega⟩

theorem epoStart_eq {contents : List Byte} (whole : mtkEpoOneSvSize ≤ contents.length) :
    epoStart pf contents = some (gpsSecsToUtc pf (3600 * epoHours contents % 2 ^ 32)) := by
  rw [epoStart, if_neg (by omega), Nat.mul_comm 3600]
  rfl

theorem epoEnd_eq {contents : List Byte} (whole : mtkEpoOneSvSize ≤ contents.length) (size : contents.length < 2 ^ 31) :
    epoEnd pf contents =
      some (gpsSecsToUtc pf ((3600 * epoHours (lastRecord contents) + 21600) % 2 ^ 32)) := by
  have record : (contents.drop (contents.length - mtkEpoOneSvSize)).length = mtkEpoOneSvSize := by
    rw [List.length_drop]
    omega
  have secs : (epoGpsSecs (lastRecord contents) + 21600) % 2 ^ 32 =
      (3600 * epoHours (lastRecord contents) + 21600) % 2 ^ 32 := by
    rw [Nat.mul_comm 3600]
    exact Nat.mod_add_mod _ _ _
  rw [epoEnd]
  dsimp only
  rw [wrap32_eq_self (by omega) (by omega), if_neg (by omega), Int.toNat_natCast,
    if_neg (by omega), ← secs]
  rfl

/-- A file of at least one record, whose size is an `int`. -/
def EpoSized (contents : List Byte) : Prop := mtkEpoOneSvSize ≤ contents.length ∧ contents.length < 2 ^ 31

theorem epoTimesExact_iff_fit (libc : pf.InUtc times) {contents : List Byte} (sized : EpoSized contents) :
    EpoTimesExact pf contents ↔ EpoTimesFit times contents := by
  have start := gpsSecsToUtc_iff libc (3600 * epoHours contents)
  have finish := gpsSecsToUtc_iff libc (3600 * epoHours (lastRecord contents) + 21600)
  have first : mtkGpsSysEpoPeriodStart pf contents = _ := epoStart_eq sized.1
  have last : mtkGpsSysEpoPeriodEnd pf contents = _ := epoEnd_eq sized.1 sized.2
  simp only [Nat.cast_add, Nat.cast_mul, Nat.cast_ofNat, ← Int.add_assoc] at start finish
  constructor
  · intro exact_
    exact ⟨start.mp (Option.some.inj (first.symm.trans exact_.start)),
      finish.mp (Option.some.inj (last.symm.trans exact_.finish))⟩
  · intro fit
    rw [start.mpr fit.start] at first
    rw [finish.mpr fit.finish] at last
    exact ⟨first, last, first, last⟩

/-- The times are exact as long as the seconds and the instants fit, and then they are ordered as the hours are. -/
theorem epoTimesExact_iff (libc : pf.InUtc times) :
    (∀ contents, EpoSized contents → (EpoTimesExact pf contents ↔ EpoTimesFit times contents)) ∧
    ∀ a b, EpoSized a → EpoSized b → EpoTimesFit times a → EpoTimesFit times b →
      (epoHours a ≤ epoHours b →
        ∃ s t, mtkGpsSysEpoPeriodStart pf a = some s ∧ mtkGpsSysEpoPeriodStart pf b = some t ∧ s ≤ t) ∧
      (epoHours (lastRecord a) ≤ epoHours (lastRecord b) →
        ∃ s t, mtkGpsSysEpoPeriodEnd pf a = some s ∧ mtkGpsSysEpoPeriodEnd pf b = some t ∧ s ≤ t) := by
  refine ⟨fun _ sized => epoTimesExact_iff_fit libc sized, ?_⟩
  intro a b sizedA sizedB fitA fitB
  have timesA := (epoTimesExact_iff_fit libc sizedA).mpr fitA
  have timesB := (epoTimesExact_iff_fit libc sizedB).mpr fitB
  exact ⟨fun later => ⟨_, _, timesA.start, timesB.start, by omega⟩,
    fun later => ⟨_, _, timesA.finish, timesB.finish, by omega⟩⟩

/-- A file of one record, with the hour field given by its bytes. -/
def oneRecord (low middle high : Byte) : List Byte := low :: middle :: high :: List.replicate 69 0

theorem oneRecord_length (low middle high : Byte) :
    (oneRecord low middle high).length = mtkEpoOneSvSize := by
  simp [oneRecord, mtkEpoOneSvSize]

/-- Hour 392880 is in October 2024. -/
theorem epoTimesExact_oneRecord : Platform.civil.InUtc timeT ∧ EpoSized (oneRecord 0xb0 0xfe 5) ∧
    EpoTimesFit timeT (oneRecord 0xb0 0xfe 5) ∧ EpoTimesExact Platform.civil (oneRecord 0xb0 0xfe 5) := by
  have sized : EpoSized (oneRecord 0xb0 0xfe 5) := ⟨by decide, by decide⟩
  have fit : EpoTimesFit timeT (oneRecord 0xb0 0xfe 5) := (epoTimesFit_timeT_iff _).mpr (by decide)
  exact ⟨Platform.civil_inUtc, sized, fit, ((epoTimesExact_iff Platform.civil_inUtc).1 _ sized).mpr fit⟩

/-- Hour 1193047 is dated 1980-01-06 00:31:44. -/
theorem not_epoTimesExact_overflow : Platform.civil.InUtc timeT ∧ EpoSized (oneRecord 0x57 0x34 0x12) ∧
    ¬ EpoTimesExact Platform.civil (oneRecord 0x57 0x34 0x12) := by
  refine ⟨Platform.civil_inUtc, ⟨by decide, by decide⟩, fun exact_ => ?_⟩
  have early :
      mtkGpsSysEpoPeriodStart Platform.civil (oneRecord 0x57 0x34 0x12) =
      some (gpsEpoch + 1904) := by decide
  have differs :
      gpsEpoch + 1904 ≠ gpsEpoch + 3600 * epoHours (oneRecord 0x57 0x34 0x12) := by decide
  exact differs (Option.some.inj (early.symm.trans exact_.start))

end Records

end Mt6582.Gps

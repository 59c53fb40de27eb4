import Mt6582.Gps.Nmea.UtcText

/-! # Which dates and times a reader accepts

`nmea_reader_update_date` recognises a bad date by the sign of its parts. The year is never negative after its century is
added, `-0` is not negative, the hour and the minute are not looked at, and the date is stored before the time is found to
be too short.
-/

namespace Mt6582.Gps

variable {F : Type} {pf : Platform F}

/-- Two digits, or the `-0` that also reads as a number that is not negative. -/
def PairAccepted (text : List Byte) : Prop := IsDigits text ∨ text = [minus, digit0]

/-- The dates that are not refused: six characters, with a day and a month that are not negative. -/
def DateAccepted (date : List Byte) : Prop :=
  date.length = 6 ∧ PairAccepted (date.take 2) ∧ PairAccepted ((date.drop 2).take 2)

instance (text : List Byte) : Decidable (PairAccepted text) := inferInstanceAs (Decidable (_ ∨ _))

instance (date : List Byte) : Decidable (DateAccepted date) := inferInstanceAs (Decidable (_ ∧ _))

/-- An accepted date is six digits and comes with six characters of time that begin with four digits; with -1 the date and
the timestamp kept are as before. -/
structure ExactAndAtomic (r : NmeaReader pf) (now : Int) (date time : Token) : Prop where
  exact : (nmeaReaderUpdateDate r now date time).2 = 0 → date.text.length = 6 ∧ IsDigits date.text ∧
    6 ≤ time.text.length ∧ IsDigits (time.text.take 4)
  atomic : (nmeaReaderUpdateDate r now date time).2 = -1 → (nmeaReaderUpdateDate r now date time).1.stamp = r.stamp

section Pairs

theorem isDigits_cons {c : Byte} {rest : List Byte} :
    IsDigits (c :: rest) ↔ (digit0 ≤ c ∧ c ≤ 57) ∧ IsDigits rest :=
  List.forall_mem_cons

theorem decimal_cons (c : Byte) (rest : List Byte) (result : Int) : decimal (c :: rest) result =
    if digit0 ≤ c ∧ c ≤ 57 then decimal rest (wrap32 (result * 10 + ((c.toNat : Int) - 48))) else none := by
  have same : (0 ≤ (c.toNat : Int) - 48 ∧ (c.toNat : Int) - 48 < 10) ↔ digit0 ≤ c ∧ c ≤ 57 := by
    rw [UInt8.le_iff_toNat_le, UInt8.le_iff_toNat_le, show digit0.toNat = 48 from rfl,
      show (57 : Byte).toNat = 57 from rfl]
    omega
  rw [decimal]
  simp only [same]

/-- What is not a number reads as -1. -/
theorem isDigits_of_decimal {text : List Byte} {result value : Int}
    (read : decimal text result = some value) :
    IsDigits text := by
  induction text generalizing result with
  | nil => exact List.forall_mem_nil _
  | cons c rest ih =>
    rw [decimal_cons] at read
    split at read
    · next digit => exact isDigits_cons.mpr ⟨digit, ih read⟩
    · contradiction

/-- Two characters read as a number of two digits, as a negated digit, or as -1. -/
theorem strToInt_pair (a b : Byte) :
    IsDigits [a, b] ∧ 0 ≤ strToInt [a, b] ∨
    (a = minus ∧ IsDigits [b] ∧ strToInt [a, b] = -(digitsValue [b] : Int) ∧ digitsValue [b] = b.toNat - 48) ∨
    (¬ IsDigits [a, b] ∧ ¬ (a = minus ∧ IsDigits [b]) ∧ strToInt [a, b] = -1) := by
  rcases Decidable.em (IsDigits [a, b]) with digits | other
  · have first := digit_bounds (isDigits_cons.mp digits).1
    have second := digit_bounds (isDigits_cons.mp (isDigits_cons.mp digits).2).1
    have value : digitsValue [a, b] = (0 * 10 + (a.toNat - 48)) * 10 + (b.toNat - 48) := rfl
    rw [strToInt_digits digits, wrap32_eq_self (by omega) (by omega)]
    exact Or.inl ⟨digits, Int.natCast_nonneg _⟩
  · apply Or.inr
    rcases Decidable.em (a = minus ∧ IsDigits [b]) with ⟨rfl, digit⟩ | plain
    · have bounds := digit_bounds (isDigits_cons.mp digit).1
      have value : digitsValue [b] = 0 * 10 + (b.toNat - 48) := rfl
      have read : decimal [b] 0 = some (wrap32 (digitsValue [b])) := decimal_digits digit 0
      refine Or.inl ⟨rfl, digit, ?_, by omega⟩
      rw [strToInt, if_pos List.head?_cons, List.tail_cons, read]
      have small : wrap32 (digitsValue [b]) = digitsValue [b] :=
        wrap32_eq_self (by omega) (by omega)
      dsimp only
      rw [small, wrap32_eq_self (by omega) (by omega)]
    · refine Or.inr ⟨other, plain, ?_⟩
      rw [strToInt]
      split
      · next signed =>
        cases read : decimal [b] 0 with
        | none => simp [read]
        | some value => exact absurd ⟨Option.some.inj signed, isDigits_of_decimal read⟩ plain
      · cases read : decimal [a, b] 0 with
        | none => rfl
        | some value => exact absurd (isDigits_of_decimal read) other

theorem strToInt_pair_nonneg (a b : Byte) : 0 ≤ strToInt [a, b] ↔ PairAccepted [a, b] := by
  rcases strToInt_pair a b with ⟨digits, positive⟩ | ⟨rfl, digit, value, read⟩ | ⟨other, plain, value⟩
  · exact iff_of_true positive (Or.inl digits)
  · have bounds := digit_bounds (isDigits_cons.mp digit).1
    have sign : ¬ IsDigits [minus, b] :=
      fun digits => absurd (isDigits_cons.mp digits).1.1 (by decide)
    rw [value, PairAccepted, or_iff_right sign, List.cons_eq_cons, List.cons_eq_cons]
    simp only [true_and, and_true]
    constructor
    · intro positive
      exact UInt8.toNat_inj.mp (show b.toNat = 48 by omega)
    · rintro rfl
      decide
  · apply iff_of_false (by omega)
    rintro (digits | zero)
    · exact other digits
    · cases zero
      exact plain ⟨rfl, by decide⟩

theorem strToInt_pair_ge (a b : Byte) : -9 ≤ strToInt [a, b] := by
  rcases strToInt_pair a b with ⟨-, positive⟩ | ⟨rfl, digit, value, read⟩ | ⟨-, -, value⟩
  · omega
  · have := digit_bounds (isDigits_cons.mp digit).1
    omega
  · omega

end Pairs

section Acceptance

/-- The date as it is stored. -/
def storedDate (date : List Byte) : Int × Int × Int :=
  (strToInt (date.drop 4) + 2000, strToInt ((date.drop 2).take 2), strToInt (date.take 2))

private theorem pair_nonneg {text : List Byte} (two : text.length = 2) :
    strToInt text < 0 ↔ ¬ PairAccepted text := by
  obtain ⟨a, b, rfl⟩ := List.length_eq_two.mp two
  rw [← strToInt_pair_nonneg, not_le]

/-- Only the length, the day and the month decide. -/
theorem dateOf_eq_ite (date : List Byte) :
    dateOf date = if DateAccepted date then some (storedDate date) else none := by
  rw [dateOf]
  split
  · next other => rw [if_neg fun accepted => other accepted.1]
  · next six =>
    have length : date.length = 6 := not_not.mp six
    have day : strToInt (date.take 2) < 0 ↔ ¬ PairAccepted (date.take 2) :=
      pair_nonneg (by simp [length])
    have mon : strToInt ((date.drop 2).take 2) < 0 ↔ ¬ PairAccepted ((date.drop 2).take 2) :=
      pair_nonneg (by simp [length])
    have year : ¬ strToInt (date.drop 4) + 2000 < 0 := by
      obtain ⟨a, b, last⟩ := List.length_eq_two.mp (show (date.drop 4).length = 2 by simp [length])
      have := strToInt_pair_ge a b
      rw [last]
      omega
    have refused :
        (strToInt (date.take 2) < 0 ∨ strToInt ((date.drop 2).take 2) < 0 ∨ strToInt (date.drop 4) + 2000 < 0) ↔
        ¬ DateAccepted date := by
      rw [day, mon, or_iff_left year, ← not_and_or, DateAccepted, and_iff_right length]
    dsimp only
    split
    · next bad => rw [if_neg (refused.mp bad)]
    · next good => rw [if_pos (not_not.mp fun bad => good (refused.mpr bad))]; rfl

variable (r : NmeaReader pf) (now : Int) {date time : Token} (goodDate : date.Good) (goodTime : time.Good)

include goodDate goodTime

theorem nmeaReaderUpdateDate_accepts : (nmeaReaderUpdateDate r now date time).2 =
    if DateAccepted date.text ∧ 6 ≤ time.text.length then 0 else -1 := by
  have accepted : (dateOf date.text).isSome = true ↔ DateAccepted date.text := by
    rw [dateOf_eq_ite]
    split
    · next accepted => exact iff_of_true rfl accepted
    · next refused => exact iff_of_false Bool.false_ne_true refused
  rw [nmeaReaderUpdateDate_code r now goodDate goodTime]
  simp only [accepted]

/-- The date is stored whatever the time is. -/
theorem nmeaReaderUpdateDate_stamp (accepted : DateAccepted date.text)
    (short : time.text.length < 6) :
    (nmeaReaderUpdateDate r now date time).1.stamp =
      ⟨(storedDate date.text).1, (storedDate date.text).2.1, (storedDate date.text).2.2, r.stamp.timestamp⟩ := by
  rw [nmeaReaderUpdateDate_eq r now goodDate goodTime, NmeaReader.stamp_withStamp, Stamp.updateDate,
    dateOf_eq_ite, if_pos accepted]
  simp only [Stamp.updateTime, timeOfDay, if_pos short]

/-- Acceptance is exact and atomic exactly if the date is refused, or the time is long enough and both have digits where
they should, or the time is too short and the date is the one already kept. -/
theorem exactAndAtomic_iff : ExactAndAtomic r now date time ↔
    ¬ DateAccepted date.text ∨
    (6 ≤ time.text.length ∧ IsDigits date.text ∧ IsDigits (time.text.take 4)) ∨
    (time.text.length < 6 ∧ storedDate date.text = (r.utcYear, r.utcMon, r.utcDay)) := by
  have code := nmeaReaderUpdateDate_accepts r now goodDate goodTime
  rcases Decidable.em (DateAccepted date.text) with accepted | refused
  · rw [or_iff_right (not_not.mpr accepted)]
    rcases Nat.lt_or_ge time.text.length 6 with short | long
    · -- The date has been stored by the time -1 is returned.
      rw [if_neg fun both => absurd both.2 (not_le.mpr short)] at code
      have stored := nmeaReaderUpdateDate_stamp r now goodDate goodTime accepted short
      rw [or_iff_right fun first => absurd first.1 (not_le.mpr short), and_iff_right short]
      constructor
      · intro property
        have same := stored.symm.trans (property.atomic code)
        simp only [NmeaReader.stamp, Stamp.mk.injEq] at same
        exact Prod.ext same.1 (Prod.ext same.2.1 same.2.2.1)
      · intro same
        refine ⟨fun zero => absurd (code.symm.trans zero) (by decide), fun _ => ?_⟩
        rw [stored, same]
        rfl
    · rw [if_pos ⟨accepted, long⟩] at code
      rw [or_iff_left fun second => absurd second.1 (not_lt.mpr long), and_iff_right long]
      constructor
      · intro property
        obtain ⟨-, digits, -, first⟩ := property.exact code
        exact ⟨digits, first⟩
      · rintro ⟨digits, first⟩
        exact ⟨fun _ => ⟨accepted.1, digits, long, first⟩, fun minus => absurd (code.symm.trans minus) (by decide)⟩
  · rw [if_neg fun both => refused both.1] at code
    refine iff_of_true ⟨fun zero => absurd (code.symm.trans zero) (by decide), fun _ => ?_⟩
      (Or.inl refused)
    rw [nmeaReaderUpdateDate_eq r now goodDate goodTime, NmeaReader.stamp_withStamp,
      Stamp.updateDate, dateOf_eq_ite, if_neg refused]

omit goodDate goodTime

/-- The first of January 2024 at noon. -/
theorem exactAndAtomic_noon : ExactAndAtomic (nmeaReaderInit Platform.civil) 0
    (ownToken (lit ['0', '1', '0', '1', '2', '4'])) (ownToken (lit ['1', '2', '0', '0', '0', '0'])) := by
  refine (exactAndAtomic_iff _ 0 (ownToken_good _).1 (ownToken_good _).1).mpr (Or.inr (Or.inl ?_))
  rw [(ownToken_good _).2, (ownToken_good _).2]
  decide

/-- A year that is no number is taken for 1999. -/
theorem not_exactAndAtomic_year : ¬ ExactAndAtomic (nmeaReaderInit Platform.civil) 0
    (ownToken (lit ['0', '1', '0', '1', 'x', 'x'])) (ownToken (lit ['1', '2', '0', '0', '0', '0'])) := by
  intro property
  obtain ⟨-, digits, -, -⟩ := property.exact (by decide +kernel)
  rw [(ownToken_good _).2] at digits
  revert digits
  decide

end Acceptance

end Mt6582.Gps

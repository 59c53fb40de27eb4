import Mt6582.Gps.Nmea.GsaSlots
import Mt6582.Gps.Nmea.TracedBranch

/-! # `str2int` and the satellite arithmetic in 32 bits

`str2int` accumulates digits without a check of its range, and the GSV branches subtract, multiply and add what
it returns. A call returns the integer its text denotes, and no computation overflows, exactly if the leading
digits of the text stay below 2^31; for a whole sentence the condition names the fields that its branch reads and
the products, differences and sums of the GSV branches.
-/

namespace Mt6582.Gps

open Machine

/-- The range of `int`. -/
def InInt32 (value : Int) : Prop := -2 ^ 31 ≤ value ∧ value < 2 ^ 31

instance (value : Int) : Decidable (InInt32 value) := inferInstanceAs (Decidable (_ ∧ _))

/-- The text behind an optional `-`. -/
def afterSign (text : List Byte) : List Byte := if text.head? = some minus then text.tail else text

/-- The integer denoted by an optional `-` and digits. Texts without a digit denote none if `strict`, otherwise 0. -/
def denotes (strict : Bool) (text : List Byte) : Option Int :=
  if (strict = true ∧ afterSign text = []) ∨ ¬ IsDigits (afterSign text) then none
  else some (if text.head? = some minus then -(digitsValue (afterSign text) : Int)
    else digitsValue (afterSign text))

/-- What `str2int` is to return for a text. -/
def denoted (text : List Byte) : Int := (denotes false text).getD (-1)

/-- The leading digits, behind an optional `-`, are a number below 2^31. -/
def FitsInt (text : List Byte) : Prop := (leadingDigits (afterSign text) 0 0).1 < 2 ^ 31

instance (text : List Byte) : Decidable (FitsInt text) := Nat.decLt _ _

/-- The text can be read as an `int`; if `strict`, it is neither empty nor a lone `-`. -/
def Readable (strict : Bool) (text : List Byte) : Prop :=
  FitsInt text ∧ (strict = true → afterSign text ≠ [])

instance (strict : Bool) (text : List Byte) : Decidable (Readable strict text) :=
  inferInstanceAs (Decidable (_ ∧ _))

/-- A call of `str2int` returns what its text denotes, or -1, and a computation stays in range. -/
def ReaderEvent.Exact (strict : Bool) : ReaderEvent → Prop
  | .access _ => True
  | .call text result => result = (denotes strict text).getD (-1)
  | .compute exact => InInt32 exact

section Texts

theorem wrap32_inInt32 {value : Int} (inside : InInt32 value) : wrap32 value = value :=
  wrap32_eq_self inside.1 inside.2

theorem le_leadingDigits (text : List Byte) (value count : Nat) :
    value ≤ (leadingDigits text value count).1 := by
  induction text generalizing value count with
  | nil => exact Nat.le_refl _
  | cons c rest ih =>
    rw [leadingDigits]
    split_ifs
    · have := ih (value * 10 + (c.toNat - 48)) (count + 1)
      omega
    · exact Nat.le_refl _

theorem leadingDigits_lt (text : List Byte) (value count : Nat) :
    (leadingDigits text value count).1 < (value + 1) * 10 ^ text.length := by
  induction text generalizing value count with
  | nil =>
    rw [leadingDigits, List.length_nil, Nat.pow_zero]
    omega
  | cons c rest ih =>
    rw [leadingDigits, List.length_cons, Nat.pow_succ, Nat.mul_comm (10 ^ _), ← Nat.mul_assoc]
    split_ifs with digit
    · have bounds : 48 ≤ c.toNat ∧ c.toNat ≤ 57 := digit_bounds digit
      exact (ih _ _).trans_le (Nat.mul_le_mul_right _ (by omega))
    · have positive : 0 < 10 ^ rest.length := Nat.pow_pos (by decide)
      exact (show value < (value + 1) * 10 by omega).trans_le (Nat.le_mul_of_pos_right _ positive)

theorem leadingDigits_foldl {text : List Byte} (digits : IsDigits text) (value count : Nat) :
    (leadingDigits text value count).1 =
      text.foldl (fun value c => value * 10 + (c.toNat - 48)) value := by
  induction text generalizing value count with
  | nil => rfl
  | cons c rest ih =>
    rw [leadingDigits, if_pos (digits c List.mem_cons_self)]
    exact ih (fun d member => digits d (List.mem_cons_of_mem _ member)) _ _

theorem leadingDigits_digitsValue {text : List Byte} (digits : IsDigits text) :
    (leadingDigits text 0 0).1 = digitsValue text := leadingDigits_foldl digits 0 0

/-- The digit test of `str2int`. -/
theorem digit_iff (c : Byte) : (0 ≤ (c.toNat : Int) - 48 ∧ (c.toNat : Int) - 48 < 10) ↔
      digit0 ≤ c ∧ c ≤ 57 := by
  rw [UInt8.le_iff_toNat_le, UInt8.le_iff_toNat_le]
  change _ ↔ 48 ≤ c.toNat ∧ c.toNat ≤ 57
  omega

theorem decimal_none {text : List Byte} (other : ¬ IsDigits text) (value : Int) :
    decimal text value = none := by
  induction text generalizing value with
  | nil => exact absurd (fun c member => absurd member List.not_mem_nil) other
  | cons c rest ih =>
    simp only [decimal, digit_iff]
    split_ifs with digit
    · apply ih
      intro digits
      refine other fun d member => ?_
      rcases List.mem_cons.mp member with rfl | tail
      · exact digit
      · exact digits d tail
    · rfl

/-- Digits in range are read without wrapping. -/
theorem decimal_fits {text : List Byte} (small : (leadingDigits text 0 0).1 < 2 ^ 31) :
    decimal text 0 = if IsDigits text then some (digitsValue text : Int) else none := by
  split_ifs with digits
  · rw [leadingDigits_digitsValue digits] at small
    have positive : wrap32 (digitsValue text) = digitsValue text :=
      wrap32_inInt32 ⟨by omega, by omega⟩
    rw [← positive]
    exact decimal_digits digits 0
  · exact decimal_none digits 0

/-- A text whose leading digits stay below 2^31 is read as what it denotes. -/
theorem strToInt_eq_denoted {text : List Byte} (fits : FitsInt text) :
    strToInt text = denoted text := by
  have read := decimal_fits fits
  rw [denoted, denotes, strToInt]
  simp only [Bool.false_eq_true, false_and, false_or]
  by_cases digits : IsDigits (afterSign text)
  · rw [FitsInt, leadingDigits_digitsValue digits] at fits
    have negated :
        wrap32 (-(digitsValue (afterSign text) : Int)) = -(digitsValue (afterSign text) : Int) :=
      wrap32_inInt32 ⟨by omega, by omega⟩
    rw [if_pos digits] at read
    rw [if_neg (not_not_intro digits), Option.getD_some]
    by_cases signed : text.head? = some minus
    · rw [afterSign, if_pos signed] at read negated ⊢
      simp only [signed, if_true, read, negated]
    · rw [afterSign, if_neg signed] at read ⊢
      simp only [signed, if_false, read, Option.getD_some]
  · rw [if_neg digits] at read
    rw [if_pos digits, Option.getD_none]
    by_cases signed : text.head? = some minus
    · rw [afterSign, if_pos signed] at read
      simp only [signed, if_true, read]
    · rw [afterSign, if_neg signed] at read
      simp only [signed, if_false, read, Option.getD_none]

/-- The strict reading differs at texts without a digit alone, where `str2int` returns 0. -/
theorem denotes_strict {strict : Bool} {text : List Byte} (fits : FitsInt text) :
    strToInt text = (denotes strict text).getD (-1) ↔ (strict = true → afterSign text ≠ []) := by
  rw [strToInt_eq_denoted fits, denoted]
  by_cases digitless : afterSign text = []
  · have zero : (denotes false text).getD (-1) = 0 := by
      rw [denotes, digitless, if_neg (by simp [IsDigits])]
      split <;> rfl
    cases strict with
    | false => simp
    | true =>
      rw [zero, denotes, if_pos (.inl ⟨rfl, digitless⟩)]
      simp [digitless]
  · have same : denotes strict text = denotes false text := by
      simp only [denotes, digitless, and_false, Bool.false_eq_true]
    rw [same]
    exact ⟨fun _ _ => digitless, fun _ => rfl⟩

theorem denoted_bounds {text : List Byte} (fits : FitsInt text) :
    -2 ^ 31 < denoted text ∧ denoted text < 2 ^ 31 := by
  rw [denoted]
  by_cases digits : IsDigits (afterSign text)
  · rw [FitsInt, leadingDigits_digitsValue digits] at fits
    rw [denotes, if_neg (by simp [digits]), Option.getD_some]
    split_ifs <;> omega
  · rw [denotes, if_pos (.inr digits)]
    exact ⟨by decide, by decide⟩

end Texts

section Calls

variable {strict : Bool} {mem : List Byte} {p fin : Nat}

@[simp] theorem touch_exact (start : Int) (count size : Nat) :
    (touch start count size).All (ReaderEvent.Exact strict) := by
  rw [touch, Traced.all_record]
  trivial

@[simp] theorem readByte_exact (i : Nat) : (readByte mem i).All (ReaderEvent.Exact strict) :=
  (touch_exact _ _ _).bind fun _ => Traced.all_pure _

@[simp] theorem computeInt_exact_iff (exact : Int) :
    (computeInt exact).All (ReaderEvent.Exact strict) ↔ InInt32 exact := by
  rw [computeInt, Traced.all_bind, Traced.all_record]
  exact and_iff_left (Traced.all_pure _)

/-- The loop of `str2int` stays in range exactly if the leading digits do, read on from `value`. -/
theorem str2intLoop_exact_iff (bound : fin ≤ mem.length) (order : p ≤ fin) {value : Nat}
    (small : value < 2 ^ 31)
    (count : Nat) : (str2intLoopRecorded mem fin (fin - p) p value).All (ReaderEvent.Exact strict) ↔
      (leadingDigits (slice mem p fin) value count).1 < 2 ^ 31 := by
  induction len : fin - p generalizing p value count with
  | zero =>
    obtain rfl : p = fin := by omega
    rw [slice_self]
    exact iff_of_true (Traced.all_pure _) small
  | succ len ih =>
    rw [slice_cons mem (by omega) bound, str2intLoopRecorded, if_neg (by omega), leadingDigits,
      Traced.all_bind, and_iff_right (readByte_exact p), value_readByte, Traced.all_ite]
    simp only [digit_iff]
    by_cases digit : digit0 ≤ byteAt mem p ∧ byteAt mem p ≤ 57
    · have bounds := digit_bounds digit
      have cast : (value : Int) * 10 + (((byteAt mem p).toNat : Int) - 48) =
          ((value * 10 + ((byteAt mem p).toNat - 48) : Nat) : Int) := by omega
      have grows :=
        le_leadingDigits (slice mem (p + 1) fin) (value * 10 + ((byteAt mem p).toNat - 48)) (count + 1)
      simp only [digit, and_self, forall_const, not_true_eq_false, false_imp_iff, and_true, if_true,
        Traced.all_bind, computeInt_exact_iff, value_computeInt, cast]
      by_cases inside : value * 10 + ((byteAt mem p).toNat - 48) < 2 ^ 31
      · have wrapped : wrap32 ((value * 10 + ((byteAt mem p).toNat - 48) : Nat) : Int) =
            ((value * 10 + ((byteAt mem p).toNat - 48) : Nat) : Int) :=
          wrap32_inInt32 ⟨by omega, by omega⟩
        rw [wrapped, ih (by omega) inside (count + 1) (by omega)]
        simp only [InInt32]
        omega
      · simp only [InInt32]
        omega
    · simp only [digit, if_false, false_imp_iff, not_false_eq_true, forall_const, true_and]
      exact iff_of_true (Traced.all_pure _) small

/-- A call is right and stays in range exactly if its text can be read. -/
theorem str2intRecorded_exact_iff (bound : fin ≤ mem.length) (order : p ≤ fin)
    (visible : p < fin ∨ byteAt mem p ≠ minus) :
    (str2intRecorded mem p fin).All (ReaderEvent.Exact strict) ↔
      Readable strict (slice mem p fin) := by
  have start : ∃ start, (if byteAt mem p = minus then p + 1 else p) = start ∧ start ≤ fin ∧
      slice mem start fin = afterSign (slice mem p fin) := by
    by_cases signed : byteAt mem p = minus
    · have inside := visible.resolve_right (not_not_intro signed)
      refine ⟨p + 1, if_pos signed, inside, ?_⟩
      rw [slice_cons mem inside bound, signed]
      rfl
    · refine ⟨p, if_neg signed, order, ?_⟩
      rcases order.lt_or_eq with inside | rfl
      · rw [slice_cons mem inside bound, afterSign, if_neg (by simpa using signed)]
      · rw [slice_self]
        rfl
  obtain ⟨start, begins, startOrder, text⟩ := start
  have loop :
      (str2intLoopRecorded mem fin (fin - start) start (0 : Nat)).All (ReaderEvent.Exact strict) ↔
      FitsInt (slice mem p fin) := by
    rw [FitsInt, ← text]
    exact str2intLoop_exact_iff bound startOrder (by decide) 0
  rw [str2intRecorded, Traced.all_bind, Traced.all_bind, Traced.all_record,
    value_str2intResultRecorded, and_iff_left (Traced.all_pure _), ReaderEvent.Exact,
    str2int_eq bound order visible, str2intResultRecorded, Traced.all_bind,
    and_iff_right (readByte_exact p), value_readByte, Traced.all_bind, begins,
    value_str2intLoopRecorded]
  constructor
  · rintro ⟨⟨digits, -⟩, right⟩
    have fits : FitsInt (slice mem p fin) := loop.mp digits
    exact ⟨fits, (denotes_strict fits).mp right⟩
  · rintro ⟨fits, digits⟩
    refine ⟨⟨loop.mpr fits, ?_⟩, (denotes_strict fits).mpr digits⟩
    rw [str2intLoop_eq bound startOrder, text, decimal_fits fits]
    by_cases numeral : IsDigits (afterSign (slice mem p fin))
    · rw [FitsInt, leadingDigits_digitsValue numeral] at fits
      rw [if_pos numeral]
      exact .ite (fun _ => (computeInt_exact_iff _).mpr ⟨by omega, by omega⟩) fun _ =>
        Traced.all_pure _
    · rw [if_neg numeral]
      exact Traced.all_pure _

/-- Two bytes can always be read. -/
theorem readable_pair {text : List Byte} (pair : text.length = 2) : Readable strict text := by
  have rest : (afterSign text).length ≤ 2 ∧ afterSign text ≠ [] := by
    rw [afterSign]
    split_ifs
    · rw [← List.length_pos_iff, List.length_tail]
      omega
    · rw [← List.length_pos_iff]
      omega
  have small := leadingDigits_lt (afterSign text) 0 0
  have power : 10 ^ (afterSign text).length ≤ 10 ^ 2 := Nat.pow_le_pow_right (by decide) rest.1
  exact ⟨by rw [FitsInt]; omega, fun _ => rest.2⟩

end Calls

section Accesses

variable {strict : Bool} {mem : List Byte}

theorem memchrRecorded_exact (c : Byte) (p n : Nat) :
    (memchrRecorded mem c p n).All (ReaderEvent.Exact strict) := by
  induction n generalizing p with
  | zero => exact Traced.all_pure _
  | succ n ih =>
    exact (readByte_exact p).bind fun _ => .ite (fun _ => Traced.all_pure _) fun _ => ih (p + 1)

theorem nmeaTokenizerTrimRecorded_exact (p fin : Nat) :
    (nmeaTokenizerTrimRecorded mem p fin).All (ReaderEvent.Exact strict) := by
  have read (cond : Prop) [Decidable cond] (i : Nat) {next : Byte → Recorded Nat} {other : Nat}
      (rest : ∀ b, (next b).All (ReaderEvent.Exact strict)) :
      Traced.All (ReaderEvent.Exact strict) (if cond then (readByte mem i >>= next) else pure other) :=
    .ite (fun _ => (readByte_exact i).bind rest) fun _ => Traced.all_pure _
  refine (read _ p fun _ => Traced.all_pure _).bind fun p => ?_
  refine (read _ (fin - 1) fun _ =>
    .ite (fun _ => read _ _ fun _ => Traced.all_pure _) fun _ => Traced.all_pure _).bind
    fun fin => ?_
  exact (read _ (fin - 3) fun _ => Traced.all_pure _).bind fun _ => Traced.all_pure _

theorem nmeaTokenizerLoopRecorded_exact (fin rounds p : Nat) (tokens : List Token) :
    (nmeaTokenizerLoopRecorded mem fin rounds p tokens).All (ReaderEvent.Exact strict) := by
  induction rounds generalizing p tokens with
  | zero => exact Traced.all_pure _
  | succ rounds ih =>
    refine .ite (fun _ => (memchrRecorded_exact comma p (fin - p)).bind fun found => ?_) fun _ =>
      Traced.all_pure _
    refine Traced.All.bind (.ite (fun _ => ?_) fun _ => Traced.all_pure _) fun tokens => ih _ tokens
    exact (touch_exact _ _ _).bind fun _ => Traced.all_pure _

theorem nmeaTokenizerInitRecorded_exact (p fin : Nat) :
    (nmeaTokenizerInitRecorded mem p fin).All (ReaderEvent.Exact strict) :=
  (nmeaTokenizerTrimRecorded_exact p fin).bind fun _ => nmeaTokenizerLoopRecorded_exact _ _ _ _

@[simp] theorem nmeaTokenizerGetRecorded_exact (tokens : List Token) (index : Nat) :
    (nmeaTokenizerGetRecorded tokens index).All (ReaderEvent.Exact strict) :=
  .ite (fun _ => (touch_exact _ _ _).bind fun _ => Traced.all_pure _) fun _ => Traced.all_pure _

@[simp] theorem Token.firstRecorded_exact (tok : Token) :
    tok.firstRecorded.All (ReaderEvent.Exact strict) := readByte_exact tok.p

variable {F : Type} {pf : Platform F}

theorem str2floatRecorded_exact (p fin : Nat) :
    (str2floatRecorded pf mem p fin).All (ReaderEvent.Exact strict) :=
  .ite (fun _ => Traced.all_pure _) fun _ => (touch_exact _ _ _).bind fun _ =>
    (touch_exact _ _ _).bind fun _ =>
    (touch_exact _ _ _).bind fun _ => Traced.all_pure _

@[simp] theorem Token.floatRecorded_exact (tok : Token) :
    (tok.floatRecorded pf).All (ReaderEvent.Exact strict) :=
  str2floatRecorded_exact tok.p tok.fin

/-- Two digits of a time or date, inside their token. -/
theorem str2intRecorded_pair_exact {tok : Token} (good : tok.Good) (skip : Nat)
    (inside : tok.p + skip + 2 ≤ tok.fin) :
    (str2intRecorded tok.mem (tok.p + skip) (tok.p + skip + 2)).All (ReaderEvent.Exact strict) := by
  have bound := good.bound
  refine (str2intRecorded_exact_iff (by omega) (by omega) (.inl (by omega))).mpr (readable_pair ?_)
  rw [slice_length _ (by omega)]
  omega

variable (r : NmeaReader pf) {now : Int} {tok : Token}

theorem nmeaReaderUpdateTimeRecorded_exact (good : tok.Good) :
    (nmeaReaderUpdateTimeRecorded r now tok).All (ReaderEvent.Exact strict) := by
  refine .ite (fun _ => Traced.all_pure _) fun long => ?_
  refine (str2intRecorded_pair_exact good 0 (by omega)).bind fun _ => ?_
  refine (str2intRecorded_pair_exact good 2 (by omega)).bind fun _ => ?_
  exact (str2floatRecorded_exact _ _).bind fun _ => Traced.all_pure _

theorem nmeaReaderUpdateDateRecorded_exact {date : Token} (goodDate : date.Good) (good : tok.Good) :
    (nmeaReaderUpdateDateRecorded r now date tok).All (ReaderEvent.Exact strict) := by
  refine .ite (fun _ => Traced.all_pure _) fun size => ?_
  refine (str2intRecorded_pair_exact goodDate 0 (by omega)).bind fun _ => ?_
  refine (str2intRecorded_pair_exact goodDate 2 (by omega)).bind fun _ => ?_
  refine (str2intRecorded_pair_exact goodDate 4 (by omega)).bind fun _ => ?_
  exact .ite (fun _ => Traced.all_pure _) fun _ => nmeaReaderUpdateTimeRecorded_exact _ good

theorem nmeaReaderUpdateLatlongRecorded_exact (latitude longitude : Token) (north east : Byte) :
    (nmeaReaderUpdateLatlongRecorded r latitude north longitude east).All (ReaderEvent.Exact strict) := by
  refine .ite (fun _ => Traced.all_pure _) fun _ => (latitude.floatRecorded_exact).bind fun _ => ?_
  exact .ite (fun _ => Traced.all_pure _) fun _ => (longitude.floatRecorded_exact).bind fun _ =>
    Traced.all_pure _

theorem nmeaReaderUpdateNumberRecorded_exact (flag : LocationFlag) (tok : Token)
    (store : GpsLocation F → F → GpsLocation F) :
    (nmeaReaderUpdateNumberRecorded r flag tok store).All (ReaderEvent.Exact strict) :=
  .ite (fun _ => Traced.all_pure _) fun _ => tok.floatRecorded_exact.bind fun _ => Traced.all_pure _

end Accesses

section Satellites

/-- The satellites after which the GSA loop for `GpsCallbacks_mtk` goes on. -/
def gsaKept (prn : Int) : Prop :=
  (1 ≤ prn ∧ prn ≤ 32) ∨ (193 ≤ prn ∧ prn ≤ 197) ∨ (65 ≤ prn ∧ prn ≤ 96) ∨ (201 ≤ prn ∧ prn ≤ 232)

/-- The satellites after which the GSA loop for `GpsCallbacks` goes on. -/
def gsaKeptGps (prn : Int) : Prop := (1 ≤ prn ∧ prn ≤ 32) ∨ (193 ≤ prn ∧ prn ≤ 197)

/-- Every id that a GSA loop reads can be read. -/
def GsaReadable (strict bds : Bool) (kept : Int → Prop) : List (List Byte) → Prop
  | [] => True
  | text :: rest =>
      text = [] ∨
        (Readable strict text ∧ (kept (svPrn bds (denoted text)) → GsaReadable strict bds kept rest))

/-- Every satellite of a GSV sentence can be read, from this count on: its id, whose sum with 200 stays in range, and if
it is stored its elevation and azimuth. -/
def SatellitesExact (strict : Bool) (line : List Byte) (stores : Int → Int → Prop) :
    List Nat → Int → Prop
  | [], _ => True
  | idx :: rest, count =>
      let id := denoted (field line (4 * (idx + 1)))
      Readable strict (field line (4 * (idx + 1))) ∧ (isBds line → InInt32 (id + 200)) ∧
        (stores (svPrn (isBds line) id) count → Readable strict (field line (4 * (idx + 1) + 1)) ∧
          Readable strict (field line (4 * (idx + 1) + 2)) ∧
          SatellitesExact strict line stores rest (wrap32 (count + 1))) ∧
        (¬ stores (svPrn (isBds line) id) count → SatellitesExact strict line stores rest count)

/-- The fix mode of a GSA sentence can be read, and with a fix the ids that its loop reads. -/
def GsaExact (strict : Bool) (line : List Byte) (bds : Bool) (kept : Int → Prop) : Prop :=
  Readable strict (field line 2) ∧ (denoted (field line 2) = 2 ∨ denoted (field line 2) = 3 →
    GsaReadable strict bds kept ((List.range 12).map fun k => field line (k + 3)))

/-- `sv_base` -/
def svBase (line : List Byte) : Int := (denoted (field line 2) - 1) * nmeaMaxSvInfo

/-- The numbers of a GSV sentence can be read, and its computations stay in range. -/
structure GsvExact (strict : Bool) (line : List Byte) (stores : Int → Int → Prop) (count : Int) :
    Prop where
  num : Readable strict (field line 1)
  seq : Readable strict (field line 2)
  cnt : Readable strict (field line 3)
  base : InInt32 (svBase line)
  rest : InInt32 (denoted (field line 3) - svBase line)
  satellites : SatellitesExact strict line stores
    (List.range (min (nmeaMaxSvInfo : Int) (denoted (field line 3) - svBase line)).toNat)
    (if denoted (field line 2) = 1 then 0 else count)

end Satellites

section Branches

variable {F : Type} {pf : Platform F} {strict : Bool} {r : NmeaReader pf}

theorem NmeaReader.HoldsLine.intRecorded_exact_iff (holds : r.HoldsLine) (i : Nat) :
    (nmeaTokenizerGet r.tokens i).intRecorded.All (ReaderEvent.Exact strict) ↔
      Readable strict (field r.line i) := by
  rw [← holds.text]
  exact str2intRecorded_exact_iff (holds.good i).bound (holds.good i).order (holds.good i).visible

theorem gsaLoopRecorded_exact_iff (holds : r.HoldsLine) (bds : Bool) (left idx : Nat)
    (used : SvUsedInFix) :
    (gsaLoopRecorded r.tokens bds left idx used).All (ReaderEvent.Exact strict) ↔
      GsaReadable strict bds gsaKept ((List.range left).map fun k => field r.line (idx + k + 3)) := by
  induction left generalizing idx used with
  | zero => exact iff_of_true (Traced.all_pure _) trivial
  | succ left ih =>
    rw [map_field_succ, GsaReadable, gsaLoopRecorded, Traced.all_bind,
      and_iff_right (nmeaTokenizerGetRecorded_exact _ _), value_nmeaTokenizerGetRecorded,
      Traced.all_ite, holds.same_iff, Traced.all_bind, holds.intRecorded_exact_iff,
      value_intRecorded, holds.int]
    by_cases empty : field r.line (idx + 3) = []
    · simp [empty]
    · simp only [empty, false_imp_iff, not_false_eq_true, true_imp_iff, true_and, false_or]
      refine and_congr_right fun readable => ?_
      rw [strToInt_eq_denoted readable.1, svPrn]
      generalize (if bds = true then wrap32 (denoted (field r.line (idx + 3)) + 200)
        else denoted (field r.line (idx + 3))) = prn
      simp only [Traced.all_ite, Traced.all_bind, touch_exact, true_and, ih, Traced.all_pure,
        imp_true_iff, and_true, gsaKept]
      grind

theorem gsaLoopGpsRecorded_exact_iff (holds : r.HoldsLine) (left idx : Nat) (mask : BitVec 32) :
    (gsaLoopGpsRecorded r.tokens left idx mask).All (ReaderEvent.Exact strict) ↔
      GsaReadable strict false gsaKeptGps ((List.range left).map fun k => field r.line (idx + k + 3)) := by
  induction left generalizing idx mask with
  | zero => exact iff_of_true (Traced.all_pure _) trivial
  | succ left ih =>
    rw [map_field_succ, GsaReadable, gsaLoopGpsRecorded, Traced.all_bind,
      and_iff_right (nmeaTokenizerGetRecorded_exact _ _), value_nmeaTokenizerGetRecorded,
      Traced.all_ite, holds.same_iff, Traced.all_bind, holds.intRecorded_exact_iff,
      value_intRecorded, holds.int]
    by_cases empty : field r.line (idx + 3) = []
    · simp [empty]
    · simp only [empty, false_imp_iff, not_false_eq_true, true_imp_iff, true_and, false_or]
      refine and_congr_right fun readable => ?_
      have plain :
          svPrn false (denoted (field r.line (idx + 3))) = denoted (field r.line (idx + 3)) := rfl
      rw [strToInt_eq_denoted readable.1, plain]
      generalize denoted (field r.line (idx + 3)) = prn
      simp only [Traced.all_ite, ih, Traced.all_pure, imp_true_iff, and_true, gsaKeptGps]
      grind

theorem gsvSvNumRecorded_exact_iff {seq cnt : Int} (inside : -2 ^ 31 < seq ∧ seq < 2 ^ 31) :
    (gsvSvNumRecorded seq cnt).All (ReaderEvent.Exact strict) ↔
      InInt32 ((seq - 1) * nmeaMaxSvInfo) ∧ InInt32 (cnt - (seq - 1) * nmeaMaxSvInfo) := by
  have group : InInt32 (seq - 1) := ⟨by omega, by omega⟩
  rw [gsvSvNumRecorded, Traced.all_bind, computeInt_exact_iff, and_iff_right group,
    value_computeInt, wrap32_inInt32 group, Traced.all_bind, computeInt_exact_iff, value_computeInt]
  refine and_congr_right fun base => ?_
  rw [wrap32_inInt32 base, Traced.all_bind, computeInt_exact_iff]
  exact and_iff_left (Traced.all_pure _)

/-- The bound of the satellite loop, computed in range. -/
theorem gsvSvNum_toNat {seq cnt : Int} (group : InInt32 (seq - 1))
    (base : InInt32 ((seq - 1) * nmeaMaxSvInfo))
    (rest : InInt32 (cnt - (seq - 1) * nmeaMaxSvInfo)) :
    gsvSvNum seq cnt = min (nmeaMaxSvInfo : Int) (cnt - (seq - 1) * nmeaMaxSvInfo) := by
  rw [gsvSvNum, wrap32_inInt32 group, wrap32_inInt32 base, wrap32_inInt32 rest]
  split_ifs <;> omega

/-- An update of `sv_list` reads elevation and azimuth if it stores, in the states in which it is used. -/
def UpdateReads (strict : Bool) (r : NmeaReader pf) (stores : Int → Int → Prop)
    (used : NmeaReader pf → Prop)
    (update : NmeaReader pf → Int → Token → Token → Token → Recorded (NmeaReader pf)) : Prop :=
  ∀ state prn i j k, used state →
    ((update state prn (nmeaTokenizerGet r.tokens i) (nmeaTokenizerGet r.tokens j)
    (nmeaTokenizerGet r.tokens k)).All (ReaderEvent.Exact strict) ↔
      (stores prn state.svCount → Readable strict (field r.line i) ∧ Readable strict (field r.line j)))

variable {stores : Int → Int → Prop} {used : NmeaReader pf → Prop}
  {update : NmeaReader pf → Int → Token → Token → Token → Recorded (NmeaReader pf)}

theorem gsvSvIdRecorded_exact_iff (holds : r.HoldsLine) (idx : Nat) :
    (gsvSvIdRecorded r.tokens (isBds r.line) idx).All (ReaderEvent.Exact strict) ↔
      Readable strict (field r.line (4 * (idx + 1))) ∧
        (isBds r.line → InInt32 (denoted (field r.line (4 * (idx + 1))) + 200)) := by
  rw [gsvSvIdRecorded, Traced.all_bind, and_iff_right (nmeaTokenizerGetRecorded_exact _ _),
    value_nmeaTokenizerGetRecorded, Traced.all_bind, holds.intRecorded_exact_iff,
    value_intRecorded, holds.int]
  refine and_congr_right fun readable => ?_
  rw [strToInt_eq_denoted readable.1, Traced.all_ite, decide_eq_true_eq, computeInt_exact_iff]
  exact and_iff_left fun _ => Traced.all_pure _

theorem gsvLoop_exact_iff (holds : r.HoldsLine) (counts : UpdateCounts stores used update)
    (reads : UpdateReads strict r stores used update) (indices : List Nat) {state : NmeaReader pf}
    (inUse : used state) :
    (indices.foldlM (gsvRoundRecorded r.tokens (isBds r.line) update) state).All (ReaderEvent.Exact strict) ↔
      SatellitesExact strict r.line stores indices state.svCount := by
  induction indices generalizing state with
  | nil => exact iff_of_true (Traced.all_pure _) trivial
  | cons idx rest ih =>
    rw [List.foldlM_cons, SatellitesExact, Traced.all_bind, gsvRoundRecorded, Traced.all_bind,
      gsvSvIdRecorded_exact_iff holds, and_assoc, and_assoc]
    refine and_congr_right fun readable => and_congr_right fun _ => ?_
    have id :
        gsvSvId r.tokens (isBds r.line) idx =
        svPrn (isBds r.line) (denoted (field r.line (4 * (idx + 1)))) := by
      simp only [gsvSvId, holds.int, strToInt_eq_denoted readable.1, svPrn]
    simp only [Traced.all_bind, nmeaTokenizerGetRecorded_exact, true_and,
      value_nmeaTokenizerGetRecorded, value_gsvSvIdRecorded, Traced.value_bind, id]
    generalize svPrn (isBds r.line) (denoted (field r.line (4 * (idx + 1)))) = prn
    rw [reads _ _ _ _ _ inUse, ih (counts.keeps _ _ _ _ _ inUse)]
    by_cases store : stores prn state.svCount
    · simp only [store, true_imp_iff, not_true_eq_false, false_imp_iff, and_true,
        counts.stored _ _ _ _ _ inUse store, and_assoc]
    · simp only [store, false_imp_iff, not_false_eq_true, true_imp_iff, true_and,
        counts.skipped _ _ _ _ _ inUse store]

theorem parseGsvWithRecorded_exact_iff (holds : r.HoldsLine)
    (counts : UpdateCounts stores used update) (reads : UpdateReads strict r stores used update)
    (inUse : ∀ seq, used (gsvStart seq r))
    (close : Int → Int → Int → NmeaReader pf → NmeaReader pf) :
    (parseGsvWithRecorded r.tokens (isBds r.line) update close r).All (ReaderEvent.Exact strict) ↔
      GsvExact strict r.line stores r.svCount := by
  simp only [parseGsvWithRecorded, Traced.all_bind, nmeaTokenizerGetRecorded_exact, true_and,
    value_nmeaTokenizerGetRecorded, holds.intRecorded_exact_iff, value_intRecorded, holds.int,
    value_gsvSvNumRecorded, Traced.all_pure, and_true,
    gsvLoop_exact_iff holds counts reads _ (inUse _), (gsvStart_sv _ r).1]
  constructor
  · rintro ⟨num, seq, cnt, computed, satellites⟩
    have bounds := denoted_bounds seq.1
    rw [strToInt_eq_denoted seq.1, strToInt_eq_denoted cnt.1] at computed satellites
    obtain ⟨base, rest⟩ := (gsvSvNumRecorded_exact_iff bounds).mp computed
    rw [gsvSvNum_toNat ⟨by omega, by omega⟩ base rest] at satellites
    exact ⟨num, seq, cnt, base, rest, satellites⟩
  · rintro ⟨num, seq, cnt, base, rest, satellites⟩
    have bounds := denoted_bounds seq.1
    rw [strToInt_eq_denoted seq.1, strToInt_eq_denoted cnt.1,
      gsvSvNum_toNat ⟨by omega, by omega⟩ base rest]
    exact ⟨num, seq, cnt, (gsvSvNumRecorded_exact_iff bounds).mpr ⟨base, rest⟩, satellites⟩

theorem updateGnss_reads (holds : r.HoldsLine) (used : SvUsedInFix) (numSvs : Int) :
    UpdateReads strict r (storesGnss pf numSvs) (fun state => state.svStatusGnss.numSvs = numSvs)
      fun state => nmeaReaderUpdateSvStatusGnssRecorded state used := by
  intro state prn i j k inUse
  subst inUse
  by_cases stores : storesGnss pf state.svStatusGnss.numSvs prn state.svCount
  · simp only [nmeaReaderUpdateSvStatusGnssRecorded_all stores, touch_exact,
      Token.floatRecorded_exact, holds.intRecorded_exact_iff, true_and, and_true, stores,
      true_imp_iff]
  · simp only [nmeaReaderUpdateSvStatusGnssRecorded_skipped stores]
    exact iff_of_true (Traced.all_pure _) fun stored => absurd stored stores

theorem updateGps_reads (holds : r.HoldsLine) (numSvs : Int) :
    UpdateReads strict r (storesGps numSvs) (fun state => state.svStatusGps.numSvs = numSvs)
      nmeaReaderUpdateSvStatusGpsRecorded := by
  intro state prn i j k inUse
  subst inUse
  by_cases stores : storesGps state.svStatusGps.numSvs prn state.svCount
  · simp only [nmeaReaderUpdateSvStatusGpsRecorded_all stores, touch_exact,
      Token.floatRecorded_exact, holds.intRecorded_exact_iff, true_and, stores, true_imp_iff]
  · rw [nmeaReaderUpdateSvStatusGpsRecorded_skipped stores]
    exact iff_of_true (Traced.all_pure _) fun stored => absurd stored stores

variable {s : NmeaState pf}

theorem parseGsaRecorded_exact_iff (holds : s.reader.HoldsLine) (bds : Bool) :
    (parseGsaRecorded s.reader.tokens bds s).All (ReaderEvent.Exact strict) ↔
      GsaExact strict s.reader.line bds gsaKept := by
  rw [parseGsaRecorded, Traced.all_bind, and_iff_right (nmeaTokenizerGetRecorded_exact _ _),
    value_nmeaTokenizerGetRecorded, Traced.all_bind, holds.intRecorded_exact_iff, value_intRecorded,
    holds.int, GsaExact]
  refine and_congr_right fun readable => ?_
  rw [strToInt_eq_denoted readable.1]
  simp only [NmeaReader.locFixed, Traced.all_ite, Traced.all_bind, gsaLoopRecorded_exact_iff holds,
    Traced.all_pure, and_true, imp_true_iff, Bool.or_eq_true, beq_iff_eq, Nat.zero_add]

theorem parseGsaGpsRecorded_exact_iff (holds : r.HoldsLine) :
    (parseGsaGpsRecorded r.tokens r).All (ReaderEvent.Exact strict) ↔
      GsaExact strict r.line false gsaKeptGps := by
  rw [parseGsaGpsRecorded, Traced.all_bind, and_iff_right (nmeaTokenizerGetRecorded_exact _ _),
    value_nmeaTokenizerGetRecorded, Traced.all_bind, holds.intRecorded_exact_iff, value_intRecorded,
    holds.int, GsaExact]
  refine and_congr_right fun readable => ?_
  rw [strToInt_eq_denoted readable.1]
  simp only [NmeaReader.locFixed, Traced.all_ite, Traced.all_bind,
    gsaLoopGpsRecorded_exact_iff holds, Traced.all_pure, and_true, imp_true_iff, Bool.or_eq_true,
    beq_iff_eq, Nat.zero_add]

theorem parseGgaRecorded_exact (holds : r.HoldsLine) (env : ParseEnv) :
    (parseGgaRecorded env r.tokens r).All (ReaderEvent.Exact strict) := by
  simp only [parseGgaRecorded, Traced.all_bind, nmeaTokenizerGetRecorded_exact,
    value_nmeaTokenizerGetRecorded, Token.firstRecorded_exact,
    nmeaReaderUpdateLatlongRecorded_exact, nmeaReaderUpdateNumberRecorded_exact, true_and, and_true]
  exact nmeaReaderUpdateTimeRecorded_exact r (holds.good 1)

theorem parseRmcRecorded_exact (holds : r.HoldsLine) (env : ParseEnv) :
    (parseRmcRecorded env r.tokens r).All (ReaderEvent.Exact strict) := by
  simp only [parseRmcRecorded, Traced.all_bind, Traced.all_ite, nmeaTokenizerGetRecorded_exact,
    value_nmeaTokenizerGetRecorded, Token.firstRecorded_exact,
    nmeaReaderUpdateLatlongRecorded_exact, nmeaReaderUpdateNumberRecorded_exact, Traced.all_pure,
    true_and, and_true, imp_true_iff]
  exact fun _ => nmeaReaderUpdateDateRecorded_exact r (holds.good 9) (holds.good 1)

theorem parseAccuracyRecorded_exact (tzer : List Token) (r : NmeaReader pf) :
    (parseAccuracyRecorded tzer r).All (ReaderEvent.Exact strict) :=
  .ite (fun _ => (nmeaTokenizerGetRecorded_exact _ _).bind fun _ => nmeaReaderUpdateNumberRecorded_exact _ _ _ _)
    fun _ => Traced.all_pure _

end Branches

section Parse

variable {F : Type} {pf : Platform F}

/-- The integers of the buffered line can be read, as far as its branch reads them, and its computations stay in range. -/
def LineExact (strict : Bool) (mtkSize : Nat) (env : ParseEnv) (r : NmeaReader pf) : Prop :=
  match parserBranch pf mtkSize env.callbacksSize r.line with
  | .gsa => GsaExact strict r.line (isBds r.line) gsaKept
  | .gsaGps => GsaExact strict r.line false gsaKeptGps
  | .gsv => GsvExact strict r.line (storesGnss pf r.svStatusGnss.numSvs) r.svCount
  | .gsvGps => GsvExact strict r.line (storesGps r.svStatusGps.numSvs) r.svCount
  | _ => True

/-- Every call of `str2int` made while a line is parsed returns what its text denotes, or -1, and nothing overflows,
exactly if the fields that the line's branch reads stay in range. -/
theorem nmeaReaderParse_integers_iff (strict : Bool) (mtkSize : Nat) (env : ParseEnv)
    (s : NmeaState pf) (holds : s.reader.HoldsLine) :
    ((∀ text result, .call text result ∈ (nmeaReaderParseRecorded mtkSize env s).log →
        result = (denotes strict text).getD (-1)) ∧
      ∀ exact, .compute exact ∈ (nmeaReaderParseRecorded mtkSize env s).log → InInt32 exact) ↔
      LineExact strict mtkSize env s.reader := by
  have events : ((∀ text result, .call text result ∈ (nmeaReaderParseRecorded mtkSize env s).log →
        result = (denotes strict text).getD (-1)) ∧
      ∀ exact, .compute exact ∈ (nmeaReaderParseRecorded mtkSize env s).log → InInt32 exact) ↔
      (nmeaReaderParseRecorded mtkSize env s).All (ReaderEvent.Exact strict) := by
    constructor
    · rintro ⟨calls, computed⟩ (place | ⟨text, result⟩ | exact) member
      · trivial
      · exact calls text result member
      · exact computed exact member
    · exact fun all => ⟨fun text result member => all _ member, fun exact member => all _ member⟩
  rw [events, nmeaReaderParseRecorded_branch holds (nmeaTokenizerInitRecorded_exact _ _)
    (nmeaTokenizerGetRecorded_exact _ _) (fun _ _ _ _ => (touch_exact _ _ _).bind fun _ => Traced.all_pure _)
    (touch_exact _ _ _), LineExact]
  cases parserBranch pf mtkSize env.callbacksSize s.reader.line with
  | gga => exact iff_of_true (parseGgaRecorded_exact holds env) trivial
  | rmc => exact iff_of_true (parseRmcRecorded_exact holds env) trivial
  | accuracy => exact iff_of_true (parseAccuracyRecorded_exact _ _) trivial
  | none => exact iff_of_true (Traced.all_pure _) trivial
  | gsa =>
    rw [readerBranchRecorded, Traced.all_bind, and_iff_left (Traced.all_pure _)]
    exact parseGsaRecorded_exact_iff holds _
  | gsaGps => exact parseGsaGpsRecorded_exact_iff holds
  | gsv =>
    exact parseGsvWithRecorded_exact_iff holds (updateGnss_counts _ _)
      (updateGnss_reads holds s.svUsedInFix _)
      (fun seq => by rw [(gsvStart_sv seq _).2.1]) gsvClose
  | gsvGps =>
    exact parseGsvWithRecorded_exact_iff holds (updateGps_counts _) (updateGps_reads holds _)
      (fun seq => by rw [(gsvStart_sv seq _).2.2]) gsvCloseGps

/-- One satellite, with all its numbers in range. -/
private def gsvOfOne : List Byte :=
  lit ['$', 'G', 'P', 'G', 'S', 'V', ',', '1', ',', '1', ',', '0', '1', ',', '0', '5', ',', '4',
    '0', ',', '0', '8', '3', ',', '4', '6', '\n']

/-- A count of satellites in view with eleven digits. -/
private def gsvOfMany : List Byte :=
  lit ['$', 'G', 'P', 'G', 'S', 'V', ',', '1', ',', '1', ',', '9', '9', '9', '9', '9', '9', '9',
    '9', '9', '9', '9', '\n']

private def numbersLoaded (line : List Byte) : NmeaState (Platform.utc 64 satellites_lt) :=
  ⟨(nmeaReaderInit _).loaded line, fun _ => false, false⟩

theorem nmeaReaderParse_integers_gsvOfOne :
    (∀ text result, .call text result ∈
      (nmeaReaderParseRecorded 72 ⟨72, true, 0, []⟩ (numbersLoaded gsvOfOne)).log →
        result = (denotes true text).getD (-1)) ∧
      ∀ exact, .compute exact ∈
        (nmeaReaderParseRecorded 72 ⟨72, true, 0, []⟩ (numbersLoaded gsvOfOne)).log →
        InInt32 exact := by
  have line : (numbersLoaded gsvOfOne).reader.line = gsvOfOne := NmeaReader.loaded_line (by decide)
  have branch : parserBranch (Platform.utc 64 satellites_lt) 72 72 gsvOfOne = .gsv := by decide
  apply (nmeaReaderParse_integers_iff true 72 ⟨72, true, 0, []⟩ (numbersLoaded gsvOfOne)
    (NmeaReader.loaded_holdsLine (by decide) ⟨gsvOfOne.dropLast, rfl, by decide⟩)).mpr
  rw [LineExact, line, branch]
  refine ⟨by decide, by decide, by decide, by decide, by decide, ?_⟩
  exact ⟨by decide, by decide, fun _ => ⟨by decide, by decide, trivial⟩, fun _ => trivial⟩

/-- `99999999999` is read as 1215752191, whichever integer is expected of digitless texts. -/
theorem nmeaReaderParse_integers_wrapped :
    ¬ ∀ (mtkSize : Nat) (env : ParseEnv) (s : NmeaState (Platform.utc 64 satellites_lt)),
      s.reader.HoldsLine →
      (∀ text result, .call text result ∈ (nmeaReaderParseRecorded mtkSize env s).log →
        ∃ strict, result = (denotes strict text).getD (-1)) ∧
      ∀ exact, .compute exact ∈ (nmeaReaderParseRecorded mtkSize env s).log → InInt32 exact := by
  intro integers
  have called : ReaderEvent.call (List.replicate 11 57) 1215752191 ∈
      (nmeaReaderParseRecorded 72 ⟨72, true, 0, []⟩ (numbersLoaded gsvOfMany)).log := by
    decide +kernel
  obtain ⟨strict, wrong⟩ := (integers 72 ⟨72, true, 0, []⟩ (numbersLoaded gsvOfMany)
    (NmeaReader.loaded_holdsLine (by decide) ⟨gsvOfMany.dropLast, rfl, by decide⟩)).1 _ _ called
  cases strict <;> exact absurd wrong (by decide)

end Parse

end Mt6582.Gps

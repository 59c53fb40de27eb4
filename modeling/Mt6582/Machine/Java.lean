import Mathlib.Algebra.Group.Int.Defs
import Mathlib.Algebra.Group.Nat.Defs
import Mathlib.Data.List.DropRight
import Mathlib.Data.List.Induction
import Mathlib.Data.List.Infix

/-! # Strings, numerals and exceptions of Java

A `String` is the list of its UTF-16 code units; code that may throw returns in `Except`. `parseInt`
and `split` follow the class library: numerals with an optional sign in the digits of Unicode, and
pieces between separators without the empty ones at the end.
-/

namespace Mt6582.Machine

/-- A `String` as its UTF-16 code units. -/
abbrev JavaString := List UInt16

/-- The exceptions the modelled code throws. -/
inductive JavaException where
  | runtime (message : JavaString)
  | indexOutOfBounds
  | nullPointer
  | numberFormat
deriving DecidableEq, Repr

/-- A literal of ASCII characters. -/
def javaLit (chars : List Char) : JavaString := chars.map fun char => UInt16.ofNat char.toNat

/-! ## Numerals -/

/-- The zeros of the runs of ten decimal digits in the basic plane. -/
def decimalZeros : List Nat :=
  [0x30, 0x660, 0x6f0, 0x7c0, 0x966, 0x9e6, 0xa66, 0xae6, 0xb66, 0xbe6, 0xc66, 0xce6, 0xd66, 0xe50, 0xed0, 0xf20,
    0x1040, 0x1090, 0x17e0, 0x1810, 0x1946, 0x19d0, 0x1a80, 0x1a90, 0x1b50, 0x1bb0, 0x1c40, 0x1c50, 0xa620, 0xa8d0,
    0xa900, 0xa9d0, 0xaa50, 0xabf0, 0xff10]

/-- The letters of which a numeral in a radix above ten is made, half and full width: `A`, `a`. -/
def letterStarts : List Nat := [0x41, 0x61, 0xff21, 0xff41]

/-- `Character.digit`. -/
def charDigit (c : UInt16) (radix : Nat) : Option Nat :=
  let n := c.toNat
  let decimal := (decimalZeros.find? fun start => decide (start ≤ n ∧ n < start + 10)).map (n - ·)
  let letter := (letterStarts.find? fun start => decide (start ≤ n ∧ n < start + 26)).map (n - · + 10)
  (decimal.or letter).filter (· < radix)

/-- The number that a text of digits stands for. -/
def digitsValue (radix : Nat) (text : JavaString) : Option Nat :=
  (text.mapM (charDigit · radix)).map (·.foldl (fun value digit => value * radix + digit) 0)

/-- `Integer.parseInt`. -/
def parseInt (radix : Nat) : Option JavaString → Except JavaException Int
  | none | some [] => throw .numberFormat
  | some (c :: rest) =>
      let digits := if c = 45 ∨ c = 43 then rest else c :: rest
      match digitsValue radix digits with
      | none => throw .numberFormat
      | some n =>
          let value : Int := if c = 45 then -n else n
          if digits = [] ∨ value < -2 ^ 31 ∨ 2 ^ 31 ≤ value then throw .numberFormat else return value

theorem charDigit_lt {c : UInt16} {radix digit : Nat} (read : charDigit c radix = some digit) :
    digit < radix := by
  obtain ⟨-, small⟩ := Option.filter_eq_some_iff.mp read
  exact of_decide_eq_true small

@[simp] theorem digitsValue_nil {radix : Nat} : digitsValue radix [] = some 0 := rfl

theorem digitsValue_concat {radix : Nat} {text : JavaString} {c : UInt16} :
    digitsValue radix (text ++ [c]) =
      (digitsValue radix text).bind fun value => (charDigit c radix).map (value * radix + ·) := by
  simp only [digitsValue, List.mapM_append, List.mapM_cons, List.mapM_nil, bind, pure]
  cases text.mapM (charDigit · radix) with
  | none => rfl
  | some digits =>
    cases charDigit c radix with
    | none => rfl
    | some digit =>
      simp only [Option.bind_some, Option.map_some, List.foldl_append, List.foldl_cons,
        List.foldl_nil]

theorem digitsValue_lt {radix n : Nat} {text : JavaString}
    (read : digitsValue radix text = some n) :
    n < radix ^ text.length := by
  induction text using List.reverseRecOn generalizing n with
  | nil =>
    cases read
    exact Nat.one_pos
  | append_singleton text c ih =>
    rw [digitsValue_concat] at read
    obtain ⟨value, front, last⟩ := Option.bind_eq_some_iff.mp read
    obtain ⟨digit, found, rfl⟩ := Option.map_eq_some_iff.mp last
    have small := charDigit_lt found
    have bound := ih front
    rw [List.length_append, List.length_singleton, pow_succ]
    calc value * radix + digit < value * radix + radix := by omega
      _ = (value + 1) * radix := (Nat.succ_mul value radix).symm
      _ ≤ radix ^ text.length * radix := Nat.mul_le_mul_right radix bound

theorem digitsValue_isSome_iff {radix : Nat} {text : JavaString} :
    (∃ n, digitsValue radix text = some n) ↔
      ∀ c ∈ text, ∃ digit, charDigit c radix = some digit := by
  induction text using List.reverseRecOn with
  | nil => exact iff_of_true ⟨0, rfl⟩ fun _ absent => absurd absent List.not_mem_nil
  | append_singleton text c ih =>
    simp only [List.forall_mem_append, List.forall_mem_singleton, ← ih, digitsValue_concat,
      Option.bind_eq_some_iff, Option.map_eq_some_iff]
    constructor
    · rintro ⟨n, value, front, digit, last, -⟩
      exact ⟨⟨value, front⟩, digit, last⟩
    · rintro ⟨⟨value, front⟩, digit, last⟩
      exact ⟨_, value, front, digit, last, rfl⟩

/-- A text of digits without a sign. -/
theorem parseInt_digits {radix n : Nat} {text : JavaString} (nonempty : text ≠ [])
    (unsigned : text.head? ≠ some 45 ∧ text.head? ≠ some 43)
    (read : digitsValue radix text = some n) :
    parseInt radix (some text) = if n < 2 ^ 31 then .ok (n : Int) else .error .numberFormat := by
  cases text with
  | nil => exact absurd rfl nonempty
  | cons c rest =>
    have minus : c ≠ 45 := fun equal => unsigned.1 (congrArg some equal)
    have plus : c ≠ 43 := fun equal => unsigned.2 (congrArg some equal)
    simp only [parseInt, minus, plus, or_self, if_false, read, List.cons_ne_nil, false_or]
    split_ifs with outside small small
    · omega
    · rfl
    · rfl
    · omega

/-! ## Digits of ASCII -/

/-- A property of every character that can be computed. -/
theorem forall_of_all {good : UInt16 → Prop} [DecidablePred good] {text : JavaString}
    (checked : text.all (fun c => decide (good c)) = true) : ∀ c ∈ text, good c :=
  fun c member => of_decide_eq_true (List.all_eq_true.mp checked c member)

def IsDecimal (c : UInt16) : Prop := 48 ≤ c ∧ c ≤ 57

instance (c : UInt16) : Decidable (IsDecimal c) := inferInstanceAs (Decidable (_ ∧ _))

/-- A hexadecimal digit of either case. -/
def IsHexDigit (c : UInt16) : Prop := (48 ≤ c ∧ c ≤ 57) ∨ (65 ≤ c ∧ c ≤ 70) ∨ (97 ≤ c ∧ c ≤ 102)

instance (c : UInt16) : Decidable (IsHexDigit c) := inferInstanceAs (Decidable (_ ∨ _ ∨ _))

theorem isHexDigit_toNat_lt {c : UInt16} (hex : IsHexDigit c) : c.toNat < 103 := by
  rcases hex with ⟨-, digit⟩ | ⟨-, digit⟩ | ⟨-, digit⟩
  · exact Nat.lt_of_le_of_lt (UInt16.le_iff_toNat_le.mp digit) (by decide)
  · exact Nat.lt_of_le_of_lt (UInt16.le_iff_toNat_le.mp digit) (by decide)
  · exact Nat.lt_of_le_of_lt (UInt16.le_iff_toNat_le.mp digit) (by decide)

/-- No digit is a sign of a numeral. -/
theorem isHexDigit_ne_sign : ¬ IsHexDigit 45 ∧ ¬ IsHexDigit 43 := by decide

theorem charDigit_isHexDigit {c : UInt16} (hex : IsHexDigit c) :
    ∃ digit, charDigit c 16 = some digit := by
  have all : ∀ code : Fin 103, IsHexDigit (UInt16.ofNat code) →
      (charDigit (UInt16.ofNat code) 16).isSome := by
    decide
  have small : c.toNat < 103 := isHexDigit_toNat_lt hex
  have found := all ⟨c.toNat, small⟩
  rw [UInt16.ofNat_toNat] at found
  exact Option.isSome_iff_exists.mp (found hex)

theorem charDigit_isDecimal {c : UInt16} (decimal : IsDecimal c) :
    charDigit c 10 = some (c.toNat - 48) := by
  have all : ∀ code : Fin 58, IsDecimal (UInt16.ofNat code) →
      charDigit (UInt16.ofNat code) 10 = some (code.val - 48) := by
    decide
  have small : c.toNat < 58 := Nat.lt_of_le_of_lt (UInt16.le_iff_toNat_le.mp decimal.2) (by decide)
  have found := all ⟨c.toNat, small⟩
  rw [UInt16.ofNat_toNat] at found
  exact found decimal

/-- An unsigned decimal numeral, leading zeros allowed. -/
structure Numeral where
  text : JavaString
  nonempty : text ≠ []
  decimal : ∀ c ∈ text, IsDecimal c

namespace Numeral

/-- The numeral with the given digits. -/
def lit (digits : List Char) (nonempty : javaLit digits ≠ [])
    (decimal : (javaLit digits).all (fun c => decide (IsDecimal c)) = true) : Numeral :=
  ⟨javaLit digits, nonempty, forall_of_all decimal⟩

/-- The number that a text of decimal digits stands for. -/
def valueOf (text : JavaString) : Nat := text.foldl (fun value c => value * 10 + (c.toNat - 48)) 0

def value (numeral : Numeral) : Nat := valueOf numeral.text

theorem digitsValue_eq {text : JavaString} (decimal : ∀ c ∈ text, IsDecimal c) :
    digitsValue 10 text = some (valueOf text) := by
  induction text using List.reverseRecOn with
  | nil => rfl
  | append_singleton text c ih =>
    obtain ⟨front, last⟩ := List.forall_mem_append.mp decimal
    rw [digitsValue_concat, ih front, charDigit_isDecimal (last c (List.mem_singleton_self c)),
      valueOf, valueOf, List.foldl_append]
    rfl

theorem valueOf_zeros {zeros text : JavaString} (allZero : ∀ c ∈ zeros, c = 48) :
    valueOf (zeros ++ text) = valueOf text := by
  induction zeros with
  | nil => rfl
  | cons c zeros ih =>
    obtain ⟨rfl, rest⟩ := List.forall_mem_cons.mp allZero
    exact ih rest

theorem valueOf_concat {text : JavaString} {c : UInt16} :
    valueOf (text ++ [c]) = valueOf text * 10 + (c.toNat - 48) := by
  rw [valueOf, List.foldl_append]
  rfl

theorem valueOf_eq_zero_iff {text : JavaString} (decimal : ∀ c ∈ text, IsDecimal c) :
    valueOf text = 0 ↔ ∀ c ∈ text, c = 48 := by
  induction text using List.reverseRecOn with
  | nil => exact iff_of_true rfl fun _ absent => absurd absent List.not_mem_nil
  | append_singleton text c ih =>
    obtain ⟨front, last⟩ := List.forall_mem_append.mp decimal
    have low : 48 ≤ c.toNat := UInt16.le_iff_toNat_le.mp (last c (List.mem_singleton_self c)).1
    have same : c = 48 ↔ c.toNat = 48 :=
      ⟨fun equal => by rw [equal]; rfl, fun equal => UInt16.toNat_inj.mp equal⟩
    rw [List.forall_mem_append, List.forall_mem_singleton, ← ih front, valueOf_concat, same]
    omega

/-- The digits from the first that is not zero. -/
def significant (numeral : Numeral) : JavaString := numeral.text.dropWhile (· = 48)

theorem value_eq_zero_iff (numeral : Numeral) : numeral.value = 0 ↔ numeral.significant = [] := by
  rw [value, valueOf_eq_zero_iff numeral.decimal, significant, List.dropWhile_eq_nil_iff]
  simp only [decide_eq_true_eq]

theorem significant_decimal (numeral : Numeral) : ∀ c ∈ numeral.significant, IsDecimal c :=
  fun c member => numeral.decimal c ((List.dropWhile_suffix _).subset member)

theorem valueOf_significant (numeral : Numeral) : valueOf numeral.significant = numeral.value := by
  have parts := @List.takeWhile_append_dropWhile _ (fun c => decide (c = 48)) numeral.text
  rw [value, significant]
  nth_rewrite 2 [← parts]
  refine (valueOf_zeros fun c member => ?_).symm
  exact of_decide_eq_true (List.mem_takeWhile_imp (p := fun c => decide (c = 48)) member)

/-- Without its leading zeros a numeral is read as its value where that fits. -/
theorem parseInt_significant (numeral : Numeral) (positive : numeral.value ≠ 0) :
    parseInt 10 (some numeral.significant) =
      if numeral.value < 2 ^ 31 then .ok (numeral.value : Int) else .error .numberFormat := by
  have decimal := numeral.significant_decimal
  have read := digitsValue_eq decimal
  rw [valueOf_significant] at read
  refine parseInt_digits ((not_congr numeral.value_eq_zero_iff).mp positive) ⟨fun first => ?_, fun first => ?_⟩ read
  · exact absurd (decimal 45 (List.mem_of_head? first)) (by decide)
  · exact absurd (decimal 43 (List.mem_of_head? first)) (by decide)

end Numeral

/-! ## Pieces -/

def contains (s text : JavaString) : Bool := decide (text <:+: s)

/-- `split` on a separator of one character. -/
def split (separator : UInt16) (s : JavaString) : List JavaString :=
  if separator ∈ s then (s.splitOn separator).rdropWhile List.isEmpty else [s]

/-- Fields come back from the text that joins them when the last is not empty. -/
theorem split_intercalate {separator : UInt16} {fields : List JavaString} (nonempty : fields ≠ [])
    (bare : ∀ field ∈ fields, separator ∉ field) (closed : fields.getLast nonempty ≠ []) :
    split separator ([separator].intercalate fields) = fields := by
  have pieces := List.splitOn_intercalate separator bare nonempty
  rw [split]
  split_ifs with joined
  · rw [pieces]
    exact List.rdropWhile_eq_self_iff.mpr fun _ empty => closed (List.isEmpty_iff.mp empty)
  · rw [List.splitOn_eq_singleton joined] at pieces
    exact pieces

end Mt6582.Machine

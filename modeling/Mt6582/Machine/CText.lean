import Mathlib.Algebra.Order.Ring.Int
import Mathlib.Data.List.Infix

/-! # Texts of C

A text is its bytes in front of the zero that ends it. `atoi` is that of a platform where `long` has 32 bits; what
it makes of a number in decimal notation is that number.
-/

namespace Mt6582.Machine

/-- The bytes of an ASCII literal. -/
def cLit (text : String) : List UInt8 := text.toList.map fun char => UInt8.ofNat char.toNat

def isDigit (c : UInt8) : Bool := decide (48 ≤ c ∧ c ≤ 57)

/-- `isspace`. -/
def isSpace (c : UInt8) : Bool := decide (c = 32 ∨ 9 ≤ c ∧ c ≤ 13)

/-- `tolower`. -/
def toLower (c : UInt8) : UInt8 := if 65 ≤ c ∧ c ≤ 90 then c + 32 else c

/-- `strncmp(text, keyword, strlen(keyword)) == 0`. -/
def startsWith (keyword text : List UInt8) : Bool := keyword.isPrefixOf text

/-- `strncasecmp(text, keyword, strlen(keyword)) == 0`. -/
def startsWithCase (keyword text : List UInt8) : Bool := startsWith (keyword.map toLower) (text.map toLower)

/-- `strcasecmp(text, keyword) == 0`. -/
def sameCase (keyword text : List UInt8) : Bool := decide (text.map toLower = keyword.map toLower)

/-- What follows the first occurrence of `part`, as `strstr` finds it. -/
def afterFirst (part : List UInt8) : List UInt8 → Option (List UInt8)
  | [] => if part = [] then some [] else none
  | c :: text =>
      if startsWith part (c :: text) then some ((c :: text).drop part.length) else afterFirst part text

/-- The value of a text of digits. -/
def decimalValue (digits : List UInt8) : Nat := digits.foldl (fun value c => value * 10 + (c.toNat - 48)) 0

/-- The nearest value of an `int`. -/
def clamp (value : Int) : Int := max (-2 ^ 31) (min value (2 ^ 31 - 1))

def atoi (text : List UInt8) : Int :=
  match text.dropWhile isSpace with
  | [] => 0
  | c :: rest =>
      if c = 45 then clamp (-decimalValue (rest.takeWhile isDigit))
      else if c = 43 then clamp (decimalValue (rest.takeWhile isDigit))
      else clamp (decimalValue ((c :: rest).takeWhile isDigit))

/-- What `snprintf` stores in a buffer of a size; it returns the length of the whole text. -/
def stored (size : Nat) (text : List UInt8) : List UInt8 := text.take (size - 1)

/-- The text an object holds; none where it is not ended. -/
def cString (object : List UInt8) : Option (List UInt8) :=
  if 0 ∈ object then some (object.takeWhile (· ≠ 0)) else none

theorem cString_of_ended {text : List UInt8} (plain : 0 ∉ text) (rest : List UInt8) :
    cString (text ++ 0 :: rest) = some text := by
  have all : ∀ c ∈ text, decide (c ≠ 0) = true := fun c member =>
    decide_eq_true fun zero => plain (zero ▸ member)
  rw [cString, if_pos (by simp), List.takeWhile_append_of_pos all, List.takeWhile_cons_of_neg (by simp),
    List.append_nil]

section Decimal

/-- `%d` of a number that is not negative. -/
def decimalText (n : Nat) : List UInt8 :=
  if n < 10 then [.ofNat (48 + n)] else decimalText (n / 10) ++ [.ofNat (48 + n % 10)]

/-- `%d`. -/
def intText (value : Int) : List UInt8 :=
  if value < 0 then 45 :: decimalText value.natAbs else decimalText value.natAbs

theorem digit_toNat {n : Nat} (small : n < 10) : (UInt8.ofNat (48 + n)).toNat = 48 + n := by
  rw [UInt8.toNat_ofNat']
  omega

theorem isDigit_ofNat {n : Nat} (small : n < 10) : isDigit (.ofNat (48 + n)) = true := by
  have value := digit_toNat small
  rw [isDigit, decide_eq_true_iff, UInt8.le_iff_toNat_le, UInt8.le_iff_toNat_le, value]
  exact ⟨by change 48 ≤ _; omega, by change _ ≤ 57; omega⟩

theorem decimalText_digits (n : Nat) : ∀ c ∈ decimalText n, isDigit c = true := by
  induction n using Nat.strongRecOn with
  | _ n ih =>
    rw [decimalText]
    split_ifs with small
    · exact List.forall_mem_singleton.mpr (isDigit_ofNat small)
    · rw [List.forall_mem_append]
      exact ⟨ih (n / 10) (by omega), List.forall_mem_singleton.mpr (isDigit_ofNat (Nat.mod_lt n (by decide)))⟩

theorem decimalValue_decimalText (n : Nat) : decimalValue (decimalText n) = n := by
  induction n using Nat.strongRecOn with
  | _ n ih =>
    rw [decimalText]
    split_ifs with small
    · change 0 * 10 + ((UInt8.ofNat (48 + n)).toNat - 48) = n
      rw [digit_toNat small]
      omega
    · have front := ih (n / 10) (by omega)
      rw [decimalValue] at front ⊢
      rw [List.foldl_append, front, List.foldl_cons, List.foldl_nil, digit_toNat (Nat.mod_lt n (by decide))]
      omega

theorem decimalText_ne_nil (n : Nat) : decimalText n ≠ [] := by
  rw [decimalText]
  split_ifs
  · exact List.cons_ne_nil _ _
  · exact List.append_ne_nil_of_right_ne_nil _ (List.cons_ne_nil _ _)

theorem takeWhile_decimalText (n : Nat) {rest : List UInt8} (ends : ∀ c ∈ rest.head?, isDigit c = false) :
    (decimalText n ++ rest).takeWhile isDigit = decimalText n := by
  rw [List.takeWhile_append_of_pos (decimalText_digits n)]
  cases rest with
  | nil => rw [List.takeWhile_nil, List.append_nil]
  | cons c rest => rw [List.takeWhile_cons_of_neg (by simp [ends c rfl]), List.append_nil]

/-- A digit is neither a space nor a sign. -/
theorem isDigit_plain {c : UInt8} (digit : isDigit c = true) : isSpace c = false ∧ c ≠ 45 ∧ c ≠ 43 := by
  rw [isDigit, decide_eq_true_iff] at digit
  rw [isSpace, decide_eq_false_iff_not]
  simp only [UInt8.le_iff_toNat_le, ← UInt8.toNat_inj, ne_eq] at digit ⊢
  have low : (48 : UInt8).toNat = 48 := rfl
  have space : (32 : UInt8).toNat = 32 := rfl
  have last : (13 : UInt8).toNat = 13 := rfl
  have dash : (45 : UInt8).toNat = 45 := rfl
  have plus : (43 : UInt8).toNat = 43 := rfl
  omega

/-- The number that is printed is read back. -/
theorem atoi_intText {value : Int} (fits : -2 ^ 31 ≤ value ∧ value < 2 ^ 31) {rest : List UInt8}
    (ends : ∀ c ∈ rest.head?, isDigit c = false) : atoi (intText value ++ rest) = value := by
  have whole : clamp value = value := by
    rw [clamp]
    omega
  rw [intText]
  split_ifs with negative
  · have magnitude : -(value.natAbs : Int) = value := by omega
    rw [atoi, List.cons_append, List.dropWhile_cons_of_neg (by decide)]
    dsimp only
    rw [if_pos rfl, takeWhile_decimalText _ ends, decimalValue_decimalText, magnitude, whole]
  · have magnitude : (value.natAbs : Int) = value := by omega
    obtain ⟨c, digits, text⟩ := List.exists_cons_of_ne_nil (decimalText_ne_nil value.natAbs)
    have digit : isDigit c = true := decimalText_digits value.natAbs c (by rw [text]; exact List.mem_cons_self)
    obtain ⟨plain, minus, plus⟩ := isDigit_plain digit
    have taken := takeWhile_decimalText value.natAbs ends
    rw [text, List.cons_append] at taken
    rw [atoi, text, List.cons_append, List.dropWhile_cons_of_neg (by simp [plain])]
    dsimp only
    rw [if_neg minus, if_neg plus, taken, ← text, decimalValue_decimalText, magnitude, whole]

end Decimal

end Mt6582.Machine

import Mt6582.Gps.HexText
import Mt6582.Machine.Java

/-! # Hexadecimal text between the HAL and the RIL

`hexStringToBytes` of `MediaTekRIL`, and that it undoes `raw_data_to_hex_string` of the GPS HAL.
-/

namespace Mt6582.Ril

open Machine Gps

def hexCharToInt (c : UInt16) : Except JavaException Nat :=
  if 48 ≤ c ∧ c ≤ 57 then return (c - 48).toNat
  else if 65 ≤ c ∧ c ≤ 70 then return (c - 65).toNat + 10
  else if 97 ≤ c ∧ c ≤ 102 then return (c - 97).toNat + 10
  else throw (.runtime (javaLit "invalid hex char '".toList ++ [c] ++ javaLit "'".toList))

/-- The loop, with `s` from `i` on: `ret` is filled from its front. -/
def hexStringToBytesLoop : JavaString → Except JavaException (List UInt8)
  | [] => return []
  | [c] => do
      let _ ← hexCharToInt c
      -- `s.charAt(i + 1)`
      throw .indexOutOfBounds
  | c :: d :: s => do
      let high ← hexCharToInt c
      let low ← hexCharToInt d
      let ret ← hexStringToBytesLoop s
      return UInt8.ofNat ((high <<< 4) ||| low) :: ret

def hexStringToBytes : Option JavaString → Except JavaException (Option (List UInt8))
  | none => return none
  | some s => some <$> hexStringToBytesLoop s

/-! ## One character -/

/-- `toUpperCase` on ASCII. -/
def upperCase (c : UInt16) : UInt16 := if 97 ≤ c ∧ c ≤ 122 then c - 32 else c

/-- The bytes of ASCII text as a `String`. -/
def ofAscii (chars : List UInt8) : JavaString := chars.map UInt8.toUInt16

theorem hexCharToInt_ok_iff {c : UInt16} :
    (∃ value, hexCharToInt c = .ok value) ↔ IsHexDigit c := by
  rw [hexCharToInt, IsHexDigit]
  split_ifs with decimal upper lower
  · exact iff_of_true ⟨_, rfl⟩ (.inl decimal)
  · exact iff_of_true ⟨_, rfl⟩ (.inr (.inl upper))
  · exact iff_of_true ⟨_, rfl⟩ (.inr (.inr lower))
  · apply iff_of_false
    · rintro ⟨value, success⟩
      cases success
    · rintro (digit | digit | digit)
      · exact decimal digit
      · exact upper digit
      · exact lower digit

theorem hexCharToInt_hexDigit : ∀ value : Fin 16,
    hexCharToInt (hexDigit (UInt8.ofNat value)).toUInt16 = .ok value.val := by
  decide

/-- A digit's value is below 16 and is written as the digit in upper case. -/
theorem hexDigit_hexCharToInt {c : UInt16} {value : Nat} (read : hexCharToInt c = .ok value) :
    value < 16 ∧ (hexDigit (UInt8.ofNat value)).toUInt16 = upperCase c := by
  have all : ∀ code : Fin 103, ∀ value ∈ (hexCharToInt (UInt16.ofNat code)).toOption,
      value < 16 ∧ (hexDigit (UInt8.ofNat value)).toUInt16 = upperCase (UInt16.ofNat code) := by
    decide
  have small : c.toNat < 103 := isHexDigit_toNat_lt (hexCharToInt_ok_iff.mp ⟨value, read⟩)
  have found := all ⟨c.toNat, small⟩ value
  rw [UInt16.ofNat_toNat, read] at found
  exact found rfl

/-- The byte a pair of digits stands for. -/
theorem toNat_hexByte {high low : Nat} (highSmall : high < 16) (lowSmall : low < 16) :
    (UInt8.ofNat ((high <<< 4) ||| low)).toNat = high * 16 + low := by
  rw [← Nat.shiftLeft_add_eq_or_of_lt lowSmall, Nat.shiftLeft_eq, UInt8.toNat_ofNat']
  exact Nat.mod_eq_of_lt (by omega)

theorem hexByte_halves (byte : UInt8) :
    UInt8.ofNat (((byte >>> 4).toNat <<< 4) ||| (byte &&& 0xf).toNat) = byte := by
  have bound := byte.toNat_lt
  apply UInt8.toNat_inj.mp
  rw [toNat_shiftRight_four, toNat_and_fifteen, toNat_hexByte (by omega) (by omega)]
  omega

theorem halves_hexByte {high low : Nat} (highSmall : high < 16) (lowSmall : low < 16) :
    UInt8.ofNat ((high <<< 4) ||| low) >>> 4 = UInt8.ofNat high ∧
      UInt8.ofNat ((high <<< 4) ||| low) &&& 0xf = UInt8.ofNat low := by
  constructor
  · apply UInt8.toNat_inj.mp
    rw [toNat_shiftRight_four, toNat_hexByte highSmall lowSmall, UInt8.toNat_ofNat']
    omega
  · apply UInt8.toNat_inj.mp
    rw [toNat_and_fifteen, toNat_hexByte highSmall lowSmall, UInt8.toNat_ofNat']
    omega

/-! ## Whole texts -/

theorem hexStringToBytesLoop_cons_eq {c d : UInt16} {s : JavaString} {ret : List UInt8} :
    hexStringToBytesLoop (c :: d :: s) = .ok ret ↔ ∃ high low rest, hexCharToInt c = .ok high ∧
      hexCharToInt d = .ok low ∧ hexStringToBytesLoop s = .ok rest ∧
        ret = UInt8.ofNat ((high <<< 4) ||| low) :: rest := by
  simp only [hexStringToBytesLoop, bind_eq_ok_iff]
  constructor
  · rintro ⟨high, first, low, second, rest, loop, success⟩
    cases success
    exact ⟨high, low, rest, first, second, loop, rfl⟩
  · rintro ⟨high, low, rest, first, second, loop, rfl⟩
    exact ⟨high, first, low, second, rest, loop, rfl⟩

theorem hexStringToBytesLoop_ok_iff (s : JavaString) :
    (∃ ret, hexStringToBytesLoop s = .ok ret) ↔ s.length % 2 = 0 ∧ ∀ c ∈ s, IsHexDigit c := by
  induction s using hexStringToBytesLoop.induct with
  | case1 => exact iff_of_true ⟨_, rfl⟩ ⟨rfl, fun _ absent => absurd absent List.not_mem_nil⟩
  | case2 c =>
    apply iff_of_false
    · rintro ⟨ret, success⟩
      obtain ⟨_, _, fault⟩ := bind_eq_ok_iff.mp success
      cases fault
    · rintro ⟨even, -⟩
      cases even
  | case3 c d s ih =>
    have even : (c :: d :: s).length % 2 = s.length % 2 := Nat.add_mod_right s.length 2
    rw [even, List.forall_mem_cons, List.forall_mem_cons, ← hexCharToInt_ok_iff,
      ← hexCharToInt_ok_iff]
    constructor
    · rintro ⟨ret, success⟩
      obtain ⟨high, low, rest, first, second, loop, -⟩ := hexStringToBytesLoop_cons_eq.mp success
      obtain ⟨length, digits⟩ := ih.mp ⟨rest, loop⟩
      exact ⟨length, ⟨high, first⟩, ⟨low, second⟩, digits⟩
    · rintro ⟨length, ⟨high, first⟩, ⟨low, second⟩, digits⟩
      obtain ⟨rest, loop⟩ := ih.mpr ⟨length, digits⟩
      exact ⟨_, hexStringToBytesLoop_cons_eq.mpr ⟨high, low, rest, first, second, loop, rfl⟩⟩

theorem hexStringToBytesLoop_hexDigits (bytes : List UInt8) :
    hexStringToBytesLoop (ofAscii (hexDigits bytes)) = .ok bytes := by
  induction bytes with
  | nil => rfl
  | cons byte bytes ih =>
    have bound := byte.toNat_lt
    have high := hexCharToInt_hexDigit ⟨(byte >>> 4).toNat, by rw [toNat_shiftRight_four]; omega⟩
    have low := hexCharToInt_hexDigit ⟨(byte &&& 0xf).toNat, by rw [toNat_and_fifteen]; omega⟩
    rw [UInt8.ofNat_toNat] at high low
    have equal := hexByte_halves byte
    exact hexStringToBytesLoop_cons_eq.mpr ⟨_, _, _, high, low, ih, by rw [equal]⟩

theorem hexDigits_hexStringToBytesLoop {s : JavaString} {ret : List UInt8}
    (decoded : hexStringToBytesLoop s = .ok ret) : ofAscii (hexDigits ret) = s.map upperCase := by
  induction s using hexStringToBytesLoop.induct generalizing ret with
  | case1 =>
    cases decoded
    rfl
  | case2 c =>
    obtain ⟨_, _, fault⟩ := bind_eq_ok_iff.mp decoded
    cases fault
  | case3 c d s ih =>
    obtain ⟨high, low, rest, first, second, loop, rfl⟩ := hexStringToBytesLoop_cons_eq.mp decoded
    obtain ⟨highSmall, highText⟩ := hexDigit_hexCharToInt first
    obtain ⟨lowSmall, lowText⟩ := hexDigit_hexCharToInt second
    obtain ⟨highHalf, lowHalf⟩ := halves_hexByte highSmall lowSmall
    simp only [hexDigits, List.flatMap_cons, hexPair, ofAscii, List.map_cons, List.cons_append,
      List.nil_append, highHalf, lowHalf, highText, lowText]
    exact congrArg _ (congrArg _ (ih loop))

theorem hexStringToBytes_ok_iff {s : JavaString} {ret : List UInt8} :
    hexStringToBytes (some s) = .ok (some ret) ↔ hexStringToBytesLoop s = .ok ret := by
  rw [hexStringToBytes]
  cases hexStringToBytesLoop s with
  | error fault => simp [Functor.map, Except.map]
  | ok bytes => simp [Functor.map, Except.map]

/-- What `raw_data_to_hex_string` leaves at the front of its output. -/
theorem rawDataToHexString_front {output input : List UInt8} {inputLen : Nat}
    (inside : inputLen ≤ input.length) (room : 2 * inputLen ≤ output.length) :
    ∃ text, rawDataToHexString output input inputLen = .ok text ∧
      text.take (2 * inputLen) = hexDigits (input.take inputLen) := by
  refine ⟨_, rawDataToHexString_eq inside room, ?_⟩
  have length := hexDigits_length (input.take inputLen)
  rw [List.length_take_of_le inside] at length
  rw [← length, take_overwrite_zero]

section RoundTrip

/-- The text of a byte array decodes to the array. -/
def DecodesBack (b output : List UInt8) : Prop :=
  2 * b.length ≤ output.length → ∃ text, rawDataToHexString output b b.length = .ok text ∧
    hexStringToBytes (some (ofAscii (text.take (2 * b.length)))) = .ok (some b)

/-- A text that is accepted is the text of its bytes but for the case of its letters. -/
def EncodesBack (s : JavaString) (b output : List UInt8) : Prop :=
  hexStringToBytes (some s) = .ok (some b) → 2 * b.length ≤ output.length →
    ∃ text, rawDataToHexString output b b.length = .ok text ∧
      ofAscii (text.take (2 * b.length)) = s.map upperCase

/-- A C string, converted to UCS-2 and then to text, decodes to its characters behind a byte-order mark. -/
def DecodesUsc2 (t rest ucs2Buff output : List UInt8) : Prop :=
  0 ∉ t → 2 * t.length + 5 ≤ ucs2Buff.length → 4 * t.length + 4 ≤ output.length →
    ∃ len ucs2 text, ascStrToUsc2Str ucs2Buff (t ++ 0 :: rest) = .ok (len, ucs2) ∧
      rawDataToHexString output ucs2 len = .ok text ∧
        hexStringToBytes (some (ofAscii (text.take (2 * len)))) =
          .ok (some ([0xfe, 0xff] ++ t.flatMap fun char => [0, char]))

/-- `hexStringToBytes` accepts the texts of digits of even length and undoes the encoders of the HAL. -/
theorem hexStringToBytes_roundTrip :
    (∀ b output, DecodesBack b output) ∧
      (∀ s, (∃ ret, hexStringToBytes (some s) = .ok (some ret)) ↔ s.length % 2 = 0 ∧ ∀ c ∈ s, IsHexDigit c) ∧
        (∀ s b output, EncodesBack s b output) ∧
          ∀ t rest ucs2Buff output, DecodesUsc2 t rest ucs2Buff output := by
  refine ⟨?_, ?_, ?_, ?_⟩
  · intro b output room
    obtain ⟨text, encoded, front⟩ := rawDataToHexString_front (le_refl b.length) room
    refine ⟨text, encoded, hexStringToBytes_ok_iff.mpr ?_⟩
    rw [front, List.take_length]
    exact hexStringToBytesLoop_hexDigits b
  · intro s
    simp only [hexStringToBytes_ok_iff]
    exact hexStringToBytesLoop_ok_iff s
  · intro s b output decoded room
    obtain ⟨text, encoded, front⟩ := rawDataToHexString_front (le_refl b.length) room
    refine ⟨text, encoded, ?_⟩
    rw [front, List.take_length]
    exact hexDigits_hexStringToBytesLoop (hexStringToBytes_ok_iff.mp decoded)
  · intro t rest ucs2Buff output live room roomText
    obtain ⟨ucs2, converted, length, mark⟩ := ascStrToUsc2Str_eq live room
    have inside : 2 * t.length + 2 ≤ ucs2.length := by omega
    obtain ⟨text, encoded, front⟩ := @rawDataToHexString_front output ucs2 _ inside (by omega)
    refine ⟨_, ucs2, text, converted, encoded, hexStringToBytes_ok_iff.mpr ?_⟩
    rw [front, mark]
    exact hexStringToBytesLoop_hexDigits (usc2Bytes t)

end RoundTrip

/-- A negative byte, and a string of one character. -/
theorem hexStringToBytes_roundTrip_negative :
    (∃ text, rawDataToHexString (.replicate 4 0) [0x80, 0x7f] 2 = .ok text ∧
      hexStringToBytes (some (ofAscii (text.take 4))) = .ok (some [0x80, 0x7f])) ∧
    ∃ len ucs2 text, ascStrToUsc2Str (.replicate 7 0) [0xc4, 0] = .ok (len, ucs2) ∧
      rawDataToHexString (.replicate 8 0) ucs2 len = .ok text ∧
        hexStringToBytes (some (ofAscii (text.take (2 * len)))) = .ok (some [0xfe, 0xff, 0, 0xc4]) :=
  ⟨hexStringToBytes_roundTrip.1 [0x80, 0x7f] (.replicate 4 0) (by decide),
    hexStringToBytes_roundTrip.2.2.2 [0xc4] [] (.replicate 7 0) (.replicate 8 0) (by decide) (by decide)
      (by decide)⟩

end Mt6582.Ril

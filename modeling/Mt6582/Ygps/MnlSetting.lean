import Mt6582.Gps.Nmea.Parse
import Mt6582.Machine.Java

/-! # The position log switch of YGPS and of the HAL

`persist.radio.mnl.prop` is one string whose characters are switches by position. YGPS reads it as a
Java string through `SystemProperties`, the HAL as the bytes `property_get` delivers, which are the
string's modified UTF-8. Both look at position 6. The properties are the platform's: what is relied on is
that a value that was set is the one that is got, and that values are set up to their longest length in bytes.
-/

namespace Mt6582.Ygps

open Gps Machine

abbrev unit0 : UInt16 := 48

/-- `PROP_VALUE_0`. -/
def propValue0 : JavaString := [unit0]

/-- The keys, in the order of `initList`. -/
inductive MnlKey where
  | debugDbg2socket | debugNmea2socket | debugDbg2file | debugDebugNmea | beeEnabled | testMode
  | supllogEnabled
deriving DecidableEq, Repr

def sKeyList : List MnlKey :=
  [.debugDbg2socket, .debugNmea2socket, .debugDbg2file, .debugDebugNmea, .beeEnabled, .testMode,
    .supllogEnabled]

/-- Modified UTF-8, in which the zero unit has two bytes. -/
def modifiedUtf8 (unit : UInt16) : List Byte :=
  let n := unit.toNat
  if 0 < n ∧ n < 0x80 then [UInt8.ofNat n]
  else if n < 0x800 then [UInt8.ofNat (0xc0 + n / 64), UInt8.ofNat (0x80 + n % 64)]
  else [UInt8.ofNat (0xe0 + n / 4096), UInt8.ofNat (0x80 + n / 64 % 64), UInt8.ofNat (0x80 + n % 64)]

/-- The system property, with what `SystemProperties` and libcutils do on it. `σ` is where the platform keeps it. -/
structure SystemProperties (σ : Type) where
  /-- The empty string stands for an absent property. -/
  get : σ → JavaString
  set : σ → JavaString → Except JavaException σ
  /-- The bytes that `property_get` delivers; it returns their number. -/
  propertyGet : σ → List Byte

/-- `PROP_VALUE_MAX`, the bytes of a value with the zero that ends it. -/
def PROP_VALUE_MAX : Nat := 92

/-- The bytes of a string. -/
def encoded (value : JavaString) : List Byte := value.flatMap modifiedUtf8

@[simp] theorem encoded_nil : encoded [] = [] := rfl

theorem encoded_cons (unit : UInt16) (value : JavaString) : encoded (unit :: value) = modifiedUtf8 unit ++ encoded value :=
  List.flatMap_cons

namespace SystemProperties

variable {σ : Type} (properties : SystemProperties σ)

/-- The HAL gets the string that Java gets. -/
def SharesValue : Prop := ∀ s, properties.propertyGet s = encoded (properties.get s)

/-- A value is set if its bytes fit, else `set` throws; and what is set is got. -/
structure Stores : Prop where
  set_ok_iff : ∀ s value, (∃ next, properties.set s value = .ok next) ↔ (encoded value).length < PROP_VALUE_MAX
  get_set : ∀ s value next, properties.set s value = .ok next → properties.get next = value

end SystemProperties

/-- `set` throws this for a value that the property service rejects. -/
def setFailed : JavaException := .runtime (javaLit "failed to set system property".toList)

/-- One property on its own. -/
def oneProperty : SystemProperties (Option JavaString) where
  get value := value.getD []
  set _ value := if (encoded value).length < PROP_VALUE_MAX then return some value else throw setFailed
  propertyGet value := encoded (value.getD [])

theorem oneProperty_sharesValue : oneProperty.SharesValue := fun _ => rfl

theorem oneProperty_stores : oneProperty.Stores := by
  constructor
  · intro s value
    simp only [oneProperty]
    split_ifs with fits
    · exact iff_of_true ⟨_, rfl⟩ fits
    · exact iff_of_false (fun ⟨_, done⟩ => nomatch done) fits
  · intro s value next done
    simp only [oneProperty] at done
    split_ifs at done
    cases done
    rfl

def getMnlProp {σ : Type} (properties : SystemProperties σ) (s : σ) (key : MnlKey) (defaultValue : JavaString) :
    JavaString :=
  let prop := properties.get s
  let index := sKeyList.idxOf key
  if prop.isEmpty ∨ index ≥ prop.length then defaultValue else [prop.getD index 0]

/-! ## The byte at a position -/

def Ascii (unit : UInt16) : Prop := 0 < unit.toNat ∧ unit.toNat < 0x80

instance (unit : UInt16) : Decidable (Ascii unit) := inferInstanceAs (Decidable (_ ∧ _))

/-- `unit` starts at byte `place` of the encoded string. -/
def StartsAt (value : JavaString) (unit : UInt16) (place : Nat) : Prop :=
  ∃ i, (encoded (value.take i)).length = place ∧ value[i]? = some unit

theorem modifiedUtf8_ascii {unit : UInt16} (ascii : Ascii unit) :
    modifiedUtf8 unit = [UInt8.ofNat unit.toNat] := if_pos ascii

theorem modifiedUtf8_length_pos (unit : UInt16) : 1 ≤ (modifiedUtf8 unit).length := by
  unfold modifiedUtf8
  dsimp only
  split_ifs
  all_goals simp

private theorem ofNat_ne_digit0 {n : Nat} (high : 0x80 ≤ n) (byte : n < 0x100) :
    UInt8.ofNat n ≠ digit0 := by
  intro equal
  have value := congrArg UInt8.toNat equal
  rw [UInt8.toNat_ofNat', show UInt8.toNat digit0 = 48 from rfl] at value
  omega

/-- Every byte of a unit that is not ASCII is above the ASCII range. -/
private theorem modifiedUtf8_high {unit : UInt16} (other : ¬ Ascii unit) :
    digit0 ∉ modifiedUtf8 unit := by
  have bound := unit.toNat_lt
  have first : ¬ (0 < unit.toNat ∧ unit.toNat < 0x80) := other
  unfold modifiedUtf8
  dsimp only
  rw [if_neg first]
  split_ifs with two
  all_goals simp only [List.mem_cons, List.not_mem_nil, or_false, not_or]
  · exact ⟨(ofNat_ne_digit0 (by omega) (by omega)).symm,
      (ofNat_ne_digit0 (by omega) (by omega)).symm⟩
  · exact ⟨(ofNat_ne_digit0 (by omega) (by omega)).symm,
      (ofNat_ne_digit0 (by omega) (by omega)).symm, (ofNat_ne_digit0 (by omega) (by omega)).symm⟩

private theorem ofNat_eq_digit0 {unit : UInt16} (ascii : Ascii unit) :
    UInt8.ofNat unit.toNat = digit0 ↔ unit = unit0 := by
  constructor
  · intro equal
    have value := congrArg UInt8.toNat equal
    rw [UInt8.toNat_ofNat', show UInt8.toNat digit0 = 48 from rfl] at value
    have low := ascii.2
    exact UInt16.toNat_inj.mp (show unit.toNat = 48 by omega)
  · rintro rfl
    rfl

/-- Only `'0'` itself is encoded with the byte of `'0'`. -/
private theorem modifiedUtf8_digit0 (unit : UInt16) (j : Nat) :
    (modifiedUtf8 unit)[j]? = some digit0 ↔ j = 0 ∧ unit = unit0 := by
  by_cases ascii : Ascii unit
  · rw [modifiedUtf8_ascii ascii, ← ofNat_eq_digit0 ascii]
    cases j with
    | zero => simp
    | succ j => simp
  · constructor
    · intro found
      exact absurd (List.mem_of_getElem? found) (modifiedUtf8_high ascii)
    · rintro ⟨-, rfl⟩
      exact absurd (show Ascii unit0 by decide) ascii

theorem getElem?_digit0_iff (value : JavaString) (place : Nat) :
    (encoded value)[place]? = some digit0 ↔ StartsAt value unit0 place := by
  induction value generalizing place with
  | nil => simp [StartsAt]
  | cons unit value ih =>
    rw [encoded_cons, List.getElem?_append]
    split_ifs with inside
    · rw [modifiedUtf8_digit0]
      constructor
      · rintro ⟨rfl, rfl⟩
        exact ⟨0, rfl, rfl⟩
      · rintro ⟨i, length, found⟩
        cases i with
        | zero => exact ⟨length.symm, by simpa using found⟩
        | succ i =>
          rw [List.take_succ_cons, encoded_cons, List.length_append] at length
          omega
    · rw [ih]
      constructor
      · rintro ⟨i, length, found⟩
        refine ⟨i + 1, ?_, found⟩
        rw [List.take_succ_cons, encoded_cons, List.length_append, length]
        omega
      · rintro ⟨i, length, found⟩
        cases i with
        | zero =>
          have positive := modifiedUtf8_length_pos unit
          simp only [List.take_zero, encoded_nil, List.length_nil] at length
          omega
        | succ i =>
          rw [List.take_succ_cons, encoded_cons, List.length_append] at length
          exact ⟨i, by omega, found⟩

theorem length_le_encoded (value : JavaString) :
    value.length ≤ (encoded value).length := by
  induction value with
  | nil => exact le_rfl
  | cons unit value ih =>
    have positive := modifiedUtf8_length_pos unit
    rw [encoded_cons, List.length_append, List.length_cons]
    omega

theorem encoded_length_ascii {value : JavaString} (ascii : ∀ unit ∈ value, Ascii unit) :
    (encoded value).length = value.length := by
  induction value with
  | nil => rfl
  | cons unit value ih =>
    obtain ⟨first, rest⟩ := List.forall_mem_cons.mp ascii
    rw [encoded_cons, List.length_append, ih rest, modifiedUtf8_ascii first]
    exact Nat.add_comm _ _

/-- Behind a run of ASCII, bytes and characters are counted alike. -/
theorem startsAt_ascii {value : JavaString} {unit : UInt16} {place : Nat}
    (ascii : ∀ other ∈ value.take place, Ascii other) : StartsAt value unit place ↔
      value[place]? = some unit := by
  constructor
  · rintro ⟨i, length, found⟩
    obtain ⟨inside, -⟩ := List.getElem?_eq_some_iff.mp found
    have lower := length_le_encoded (value.take i)
    rw [length, List.length_take_of_le inside.le] at lower
    have prior : ∀ other ∈ value.take i, Ascii other :=
      fun other member => ascii other (List.take_subset_take_left _ lower member)
    rw [encoded_length_ascii prior, List.length_take_of_le inside.le] at length
    rwa [← length]
  · intro found
    obtain ⟨inside, -⟩ := List.getElem?_eq_some_iff.mp found
    refine ⟨place, ?_, found⟩
    rw [encoded_length_ascii ascii, List.length_take_of_le inside.le]

/-! ## The two readings -/

/-- The property is unset, or has seven characters of which the first six are ASCII; where these are
not all ASCII, the digit that happens to start at byte 6 has to stand for the one YGPS looks at. -/
def ReadsAlike (prop : JavaString) : Prop :=
  prop = [] ∨ ((∀ unit ∈ prop.take 6, Ascii unit) ∧ 7 ≤ prop.length) ∨
    ((∃ unit ∈ prop.take 6, ¬ Ascii unit) ∧
      (StartsAt prop unit0 6 ↔ prop.length ≤ 6 ∨ prop[6]? = some unit0))

private theorem byteAt_eq_digit0 {bytes : List Byte} {place : Nat} :
    byteAt bytes place = digit0 ↔ bytes[place]? = some digit0 := by
  rw [byteAt, List.getD_eq_getElem?_getD]
  cases found : bytes[place]? with
  | none => exact iff_of_false (by decide) (by simp)
  | some byte => simp

/-- The HAL logs positions unless it finds `'0'`. -/
theorem getProp_ne_zero_iff (prop : JavaString) :
    getProp (encoded prop) ≠ 0 ↔ prop ≠ [] ∧ ¬ StartsAt prop unit0 6 := by
  have lower := length_le_encoded prop
  rw [← getElem?_digit0_iff, ← byteAt_eq_digit0]
  rw [getProp]
  cases prop with
  | nil => simp
  | cons unit rest =>
    rw [List.length_cons] at lower
    rw [if_pos (by omega)]
    simp only [ne_eq, reduceCtorEq, not_false_eq_true, true_and]
    rw [not_iff_not, ← UInt8.toNat_inj, show UInt8.toNat digit0 = 48 from rfl]
    omega

section Readings

variable {σ : Type} {properties : SystemProperties σ}

/-- YGPS shows the log as off for a string that ends too early. -/
theorem getMnlProp_ne_zero_iff (s : σ) :
    getMnlProp properties s .supllogEnabled propValue0 ≠ propValue0 ↔
      6 < (properties.get s).length ∧ (properties.get s)[6]? ≠ some unit0 := by
  have index : sKeyList.idxOf .supllogEnabled = 6 := by decide
  simp only [getMnlProp, index]
  generalize properties.get s = prop
  split_ifs with missing
  · apply iff_of_false (by simp)
    rintro ⟨long, -⟩
    rcases missing with empty | short
    · rw [List.isEmpty_iff.mp empty] at long
      exact absurd long (by decide)
    · omega
  · have long : 6 < prop.length := by
      by_contra short
      exact missing (.inr (by omega))
    simp [propValue0, long]

theorem readsAlike_iff (prop : JavaString) :
    ((prop ≠ [] ∧ ¬ StartsAt prop unit0 6) ↔ 6 < prop.length ∧ prop[6]? ≠ some unit0) ↔ ReadsAlike prop := by
  rw [ReadsAlike]
  by_cases empty : prop = []
  · subst empty
    simp
  · by_cases ascii : ∀ unit ∈ prop.take 6, Ascii unit
    · have other : ¬ ∃ unit ∈ prop.take 6, ¬ Ascii unit := by
        rintro ⟨unit, member, high⟩
        exact high (ascii unit member)
      rw [startsAt_ascii ascii]
      by_cases long : 6 < prop.length
      · exact iff_of_true (by simp [empty, long]) (.inr (.inl ⟨ascii, long⟩))
      · apply iff_of_false (by simp [empty, long])
        rintro (none | ⟨-, seven⟩ | ⟨high, -⟩)
        · exact empty none
        · omega
        · exact other high
    · have other : ∃ unit ∈ prop.take 6, ¬ Ascii unit := by
        push Not at ascii
        exact ascii
      simp only [empty, ascii, other, ne_eq, not_false_eq_true, true_and, false_and,
        false_or, ← not_le]
      tauto

/-- The HAL and YGPS agree on the position log exactly for the values both count alike. -/
theorem getProp_agrees_iff (shares : properties.SharesValue) (s : σ) :
    (getProp (properties.propertyGet s) ≠ 0 ↔ getMnlProp properties s .supllogEnabled propValue0 ≠ propValue0) ↔
      ReadsAlike (properties.get s) := by
  rw [shares, getProp_ne_zero_iff, getMnlProp_ne_zero_iff]
  exact readsAlike_iff _

end Readings

/-- A value of seven characters is read alike. -/
theorem getProp_agrees_default : ReadsAlike (oneProperty.get (some (javaLit "0001101".toList))) ∧
    (getProp (oneProperty.propertyGet (some (javaLit "0001101".toList))) ≠ 0 ↔
      getMnlProp oneProperty (some (javaLit "0001101".toList)) .supllogEnabled propValue0 ≠ propValue0) := by
  have alike : ReadsAlike (oneProperty.get (some (javaLit "0001101".toList))) :=
    .inr (.inl ⟨forall_of_all (by decide), by decide⟩)
  exact ⟨alike, (getProp_agrees_iff oneProperty_sharesValue _).mpr alike⟩

/-- A one-character value of an older format: logging is on for the HAL and off for YGPS. -/
theorem getProp_disagrees_short : ¬ ∀ value : Option JavaString,
    getProp (oneProperty.propertyGet value) ≠ 0 ↔
      getMnlProp oneProperty value .supllogEnabled propValue0 ≠ propValue0 := by
  intro agree
  exact absurd (agree (some [49])) (by decide)

/-! ## Setting a switch -/

/-- `DEFAULT_MNL_PROP`. -/
def DEFAULT_MNL_PROP : JavaString := javaLit "0001100".toList

section Setting

variable {σ : Type} (properties : SystemProperties σ)

/-- The properties after `setMnlProp`. A value that has no such position is left as it is. -/
def setMnlProp (s : σ) (key : MnlKey) (value : JavaString) : Except JavaException σ :=
  let prop := properties.get s
  let index := sKeyList.idxOf key
  let prop := if prop.isEmpty then DEFAULT_MNL_PROP else prop
  if prop.length > index then
    match value with
    | [] => throw .indexOutOfBounds
    | c :: _ => properties.set s (prop.set index c)
  else return s

/-- The value as it is when something is to be set. -/
def startingValue (s : σ) : JavaString := if properties.get s = [] then DEFAULT_MNL_PROP else properties.get s

/-- The value has a character for the key. -/
def Covers (s : σ) (key : MnlKey) : Prop := sKeyList.idxOf key < (properties.get s).length

instance (s : σ) (key : MnlKey) : Decidable (Covers properties s key) := inferInstanceAs (Decidable (_ < _))

/-- The value with a switch set. -/
def switched (s : σ) (key : MnlKey) (c : UInt16) : JavaString := (startingValue properties s).set (sKeyList.idxOf key) c

/-- The key is read back with the value set, and the other keys that were covered as before. -/
def SetsOnly (s : σ) (key : MnlKey) (c : UInt16) : Prop :=
  ∃ next, setMnlProp properties s key [c] = .ok next ∧
    (∀ defaultValue, getMnlProp properties next key defaultValue = [c]) ∧
    ∀ other, other ≠ key → Covers properties s other →
      ∀ defaultValue, getMnlProp properties next other defaultValue = getMnlProp properties s other defaultValue

variable {properties} {s : σ} {key : MnlKey}

theorem getMnlProp_of_covers (covers : Covers properties s key) (defaultValue : JavaString) :
    getMnlProp properties s key defaultValue = [(properties.get s).getD (sKeyList.idxOf key) 0] := by
  have some : ¬ ((properties.get s).isEmpty ∨ sKeyList.idxOf key ≥ (properties.get s).length) := by
    rintro (empty | short)
    · rw [Covers, List.isEmpty_iff.mp empty] at covers
      cases covers
    · exact absurd covers (Nat.not_lt.mpr short)
  exact if_neg some

theorem idxOf_inj {first second : MnlKey} (same : sKeyList.idxOf first = sKeyList.idxOf second) :
    first = second := by
  cases first <;> cases second <;> first | rfl | exact absurd same (by decide)

/-- What is to be set is handed to the platform if there is a position for it. -/
theorem setMnlProp_eq (s : σ) (key : MnlKey) (c : UInt16) : setMnlProp properties s key [c] =
    if sKeyList.idxOf key < (startingValue properties s).length then properties.set s (switched properties s key c)
    else .ok s := by
  rw [setMnlProp, switched, startingValue]
  simp only [List.isEmpty_iff]
  rfl

theorem startingValue_of_covers (covers : Covers properties s key) : startingValue properties s = properties.get s := by
  refine if_neg fun empty => ?_
  rw [Covers, empty] at covers
  cases covers

theorem covers_default (key : MnlKey) : sKeyList.idxOf key < DEFAULT_MNL_PROP.length := by
  cases key <;> decide

/-- There is a position exactly in an absent value, which is set as the default one, and in one that covers the key. -/
theorem position_iff (s : σ) (key : MnlKey) :
    sKeyList.idxOf key < (startingValue properties s).length ↔ properties.get s = [] ∨ Covers properties s key := by
  rw [startingValue]
  split_ifs with empty
  · exact iff_of_true (covers_default key) (.inl empty)
  · exact (or_iff_right empty).symm

theorem setsOnly_of_set (stores : properties.Stores) {c : UInt16} {next : σ}
    (position : sKeyList.idxOf key < (startingValue properties s).length)
    (done : properties.set s (switched properties s key c) = .ok next) : SetsOnly properties s key c := by
  have got := stores.get_set _ _ _ done
  refine ⟨next, by rw [setMnlProp_eq, if_pos position, done], fun defaultValue => ?_,
    fun other different there defaultValue => ?_⟩
  · have still : Covers properties next key := by
      rw [Covers, got, switched, List.length_set]
      exact position
    rw [getMnlProp_of_covers still, got, switched, List.getD_eq_getElem?_getD, List.getElem?_set_self position]
    rfl
  · have still : Covers properties next other := by
      rw [Covers, got, switched, List.length_set, startingValue_of_covers there]
      exact there
    rw [getMnlProp_of_covers still, getMnlProp_of_covers there, got, switched, startingValue_of_covers there,
      List.getD_eq_getElem?_getD, List.getD_eq_getElem?_getD,
      List.getElem?_set_ne fun same => different (idxOf_inj same).symm]

/-- A switch is set if the value is absent or has the position, and its bytes fit with the switch set; where they do
not fit, `setMnlProp` throws. A shorter value is not changed. -/
theorem setMnlProp_law (stores : properties.Stores) (s : σ) (key : MnlKey) (c : UInt16) :
    if properties.get s = [] ∨ Covers properties s key then
      if (encoded (switched properties s key c)).length < PROP_VALUE_MAX then SetsOnly properties s key c
      else ∃ thrown, setMnlProp properties s key [c] = .error thrown
    else setMnlProp properties s key [c] = .ok s := by
  have position := @position_iff σ properties s key
  split_ifs with writes fits
  · obtain ⟨next, done⟩ := (stores.set_ok_iff s _).mpr fits
    exact setsOnly_of_set stores (position.mpr writes) done
  · rw [setMnlProp_eq, if_pos (position.mpr writes)]
    cases result : properties.set s (switched properties s key c) with
    | error thrown => exact ⟨thrown, rfl⟩
    | ok next => exact absurd ((stores.set_ok_iff s _).mp ⟨next, result⟩) fits
  · rw [setMnlProp_eq, if_neg (position.not.mpr writes)]

end Setting

/-- The log switch of the default value. -/
theorem setMnlProp_law_default : SetsOnly oneProperty none .supllogEnabled 49 := by
  have law := setMnlProp_law oneProperty_stores none .supllogEnabled 49
  rwa [if_pos (.inl rfl), if_pos (by decide)] at law

/-- A value of an older format has no position for the log switch, which cannot be set. -/
theorem setMnlProp_short :
    ¬ SetsOnly oneProperty (some (javaLit ['0', '0', '0', '1', '1'])) .supllogEnabled 49 := by
  rintro ⟨next, done, here, -⟩
  cases done
  exact absurd (here propValue0) (by decide)

/-! ## All switches over a history of settings -/

section Switches

variable {σ : Type} (properties : SystemProperties σ)

/-- Settings one after the other. -/
def setSwitches (s : σ) (sets : List (MnlKey × UInt16)) : Except JavaException σ :=
  sets.foldlM (fun s set => setMnlProp properties s set.1 [set.2]) s

/-- What a key was set to last, or the character it started with. -/
def lastCharacter (start : JavaString) (key : MnlKey) (sets : List (MnlKey × UInt16)) : UInt16 :=
  ((sets.filter fun set => set.1 = key).getLast?.map Prod.snd).getD (start.getD (sKeyList.idxOf key) 0)

variable {properties} {s : σ}

theorem lastCharacter_concat (start : JavaString) (key : MnlKey) (sets : List (MnlKey × UInt16))
    (set : MnlKey × UInt16) :
    lastCharacter start key (sets ++ [set]) = if set.1 = key then set.2 else lastCharacter start key sets := by
  unfold lastCharacter
  by_cases same : set.1 = key
  · rw [if_pos same, List.filter_append, List.filter_cons_of_pos (by simpa using same), List.filter_nil,
      List.getLast?_concat]
    rfl
  · rw [if_neg same, List.filter_append, List.filter_cons_of_neg (by simpa using same), List.filter_nil,
      List.append_nil]

/-- The settings on the characters. -/
def setCharacters (prop : JavaString) (sets : List (MnlKey × UInt16)) : JavaString :=
  sets.foldl (fun prop set => prop.set (sKeyList.idxOf set.1) set.2) prop

theorem setCharacters_length (prop : JavaString) (sets : List (MnlKey × UInt16)) :
    (setCharacters prop sets).length = prop.length := by
  induction sets generalizing prop with
  | nil => rfl
  | cons set sets ih => exact (ih _).trans List.length_set

theorem key_inside {prop : JavaString} (whole : 7 ≤ prop.length) (key : MnlKey) : sKeyList.idxOf key < prop.length := by
  have small : sKeyList.idxOf key < 7 := by cases key <;> decide
  omega

theorem set_ascii {prop : JavaString} (ascii : ∀ unit ∈ prop, Ascii unit) {c : UInt16} (plain : Ascii c) (i : Nat) :
    ∀ unit ∈ prop.set i c, Ascii unit := by
  intro unit member
  rcases List.mem_or_eq_of_mem_set member with old | rfl
  · exact ascii unit old
  · exact plain

theorem setCharacters_ascii {prop : JavaString} (ascii : ∀ unit ∈ prop, Ascii unit) {sets : List (MnlKey × UInt16)}
    (plain : ∀ set ∈ sets, Ascii set.2) : ∀ unit ∈ setCharacters prop sets, Ascii unit := by
  induction sets generalizing prop with
  | nil => exact ascii
  | cons set sets ih =>
    exact ih (set_ascii ascii (plain set List.mem_cons_self) _) fun other member =>
      plain other (List.mem_cons_of_mem _ member)

theorem setCharacters_getD {prop : JavaString} (long : 7 ≤ prop.length) (key : MnlKey) (sets : List (MnlKey × UInt16)) :
    (setCharacters prop sets).getD (sKeyList.idxOf key) 0 = lastCharacter prop key sets := by
  induction sets using List.reverseRecOn with
  | nil => rfl
  | append_singleton sets set ih =>
    rw [lastCharacter_concat, setCharacters, List.foldl_append]
    change ((setCharacters prop sets).set (sKeyList.idxOf set.1) set.2).getD _ 0 = _
    rw [List.getD_eq_getElem?_getD] at ih ⊢
    split_ifs with same
    · have inside : sKeyList.idxOf key < (setCharacters prop sets).length := by
        rw [setCharacters_length]
        exact key_inside long key
      rw [same, List.getElem?_set_self inside]
      rfl
    · rw [List.getElem?_set_ne fun equal => same (idxOf_inj equal)]
      exact ih

/-- A value of seven ASCII characters or more, whose bytes fit. -/
structure Switchable (prop : JavaString) : Prop where
  whole : 7 ≤ prop.length
  short : prop.length < PROP_VALUE_MAX
  ascii : ∀ unit ∈ prop, Ascii unit

theorem Switchable.set {prop : JavaString} (switchable : Switchable prop) {c : UInt16} (plain : Ascii c) (i : Nat) :
    Switchable (prop.set i c) :=
  ⟨by rw [List.length_set]; exact switchable.whole, by rw [List.length_set]; exact switchable.short,
    set_ascii switchable.ascii plain i⟩

theorem Switchable.fits {prop : JavaString} (switchable : Switchable prop) :
    (encoded prop).length < PROP_VALUE_MAX := by
  rw [encoded_length_ascii switchable.ascii]
  exact switchable.short

/-- Settings are set on the characters, from the value the first of them starts with. -/
theorem setSwitches_get (stores : properties.Stores) (start : Switchable (startingValue properties s))
    {sets : List (MnlKey × UInt16)} (plain : ∀ set ∈ sets, Ascii set.2) :
    ∃ last, setSwitches properties s sets = .ok last ∧
      (sets ≠ [] → properties.get last = setCharacters (startingValue properties s) sets) := by
  induction sets generalizing s with
  | nil => exact ⟨s, rfl, fun some_ => absurd rfl some_⟩
  | cons set sets ih =>
    have here : Ascii set.2 := plain set List.mem_cons_self
    have changed : Switchable (switched properties s set.1 set.2) := start.set here _
    obtain ⟨next, done⟩ := (stores.set_ok_iff s _).mpr changed.fits
    have got := stores.get_set _ _ _ done
    have filled : properties.get next ≠ [] := by
      rw [got]
      exact List.ne_nil_of_length_pos (Nat.lt_of_lt_of_le (by decide) changed.whole)
    have starts : startingValue properties next = switched properties s set.1 set.2 := by
      rw [startingValue, if_neg filled, got]
    obtain ⟨last, ran, value⟩ := ih (s := next) (by rw [starts]; exact changed) fun other member =>
      plain other (List.mem_cons_of_mem _ member)
    have first : setMnlProp properties s set.1 [set.2] = .ok next := by
      rw [setMnlProp_eq, if_pos (key_inside start.whole set.1), done]
    refine ⟨last, by rw [setSwitches, List.foldlM_cons, first]; exact ran, fun _ => ?_⟩
    rw [starts] at value
    cases sets with
    | nil =>
      cases ran
      exact got
    | cons other sets => exact value (List.cons_ne_nil _ _)

/-- After any settings, at least one, every switch reads as it was set last, on the side of YGPS, and the HAL logs
positions exactly if the last setting of its switch was not `'0'`. The value they start from is absent, or has at least
seven characters, all of ASCII, and as many as a property may have at most. -/
theorem setSwitches_read (shares : properties.SharesValue) (stores : properties.Stores)
    (start : Switchable (startingValue properties s)) {sets : List (MnlKey × UInt16)} (some_ : sets ≠ [])
    (plain : ∀ set ∈ sets, Ascii set.2) :
    ∃ last, setSwitches properties s sets = .ok last ∧
      (∀ key defaultValue, getMnlProp properties last key defaultValue =
        [lastCharacter (startingValue properties s) key sets]) ∧
      (getProp (properties.propertyGet last) ≠ 0 ↔
        lastCharacter (startingValue properties s) .supllogEnabled sets ≠ unit0) := by
  obtain ⟨last, ran, got⟩ := setSwitches_get stores start plain
  have value := got some_
  have size := setCharacters_length (startingValue properties s) sets
  have long := start.whole
  refine ⟨last, ran, fun key defaultValue => ?_, ?_⟩
  · rw [getMnlProp_of_covers, value, setCharacters_getD long]
    rw [Covers, value, size]
    exact key_inside long key
  · have all := setCharacters_ascii start.ascii plain
    have filled : setCharacters (startingValue properties s) sets ≠ [] := List.ne_nil_of_length_pos (by omega)
    have place : (setCharacters (startingValue properties s) sets).getD 6 0 =
        lastCharacter (startingValue properties s) .supllogEnabled sets := setCharacters_getD long .supllogEnabled sets
    rw [shares, value, getProp_ne_zero_iff, startsAt_ascii fun unit member => all unit (List.mem_of_mem_take member),
      ← place, List.getD_eq_getElem?_getD, List.getElem?_eq_getElem (by omega)]
    simp [filled]

/-- From an unset property: the log is switched on, and the test mode on and off. -/
theorem setSwitches_read_unset : ∃ last,
    setSwitches oneProperty none [(.supllogEnabled, 49), (.testMode, 49), (.testMode, 48)] = .ok last ∧
      (∀ key defaultValue, getMnlProp oneProperty last key defaultValue =
        [lastCharacter DEFAULT_MNL_PROP key [(.supllogEnabled, 49), (.testMode, 49), (.testMode, 48)]]) ∧
      (getProp (oneProperty.propertyGet last) ≠ 0 ↔
        lastCharacter DEFAULT_MNL_PROP .supllogEnabled [(.supllogEnabled, 49), (.testMode, 49), (.testMode, 48)] ≠
          unit0) :=
  setSwitches_read (s := none) oneProperty_sharesValue oneProperty_stores
    ⟨by decide, by decide, forall_of_all (by decide)⟩ (by decide) (by decide)

end Switches

end Mt6582.Ygps

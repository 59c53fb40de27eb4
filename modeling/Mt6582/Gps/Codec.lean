import Mt6582.Machine.Buffer
import Mt6582.Gps.Platform

/-! # The byte codec between the HAL and the GPS daemon

Messages are laid out by hand in a `char` buffer with a running `int` offset: integers are four
little-endian bytes, strings and binaries are preceded by their length, strings include their NUL and
structures are copied as they stand. `size_t` has 32 bits on this platform, so that a negative `int`
length is a huge `memcpy`. Nothing in these routines checks a bound; an access outside its object ends
the model's run with that access.
-/

namespace Mt6582.Gps

open Machine

/-- The bytes of an `int`. -/
def intBytes (value : Int) : List Byte :=
  let word := (value % 2 ^ 32).toNat
  [UInt8.ofNat word, UInt8.ofNat (word / 2 ^ 8), UInt8.ofNat (word / 2 ^ 16), UInt8.ofNat (word / 2 ^ 24)]

/-- The `int` whose bytes stand at the front of a list. -/
def intOfBytes : List Byte → Int
  | first :: second :: third :: fourth :: _ => wrap32
      (first.toNat + second.toNat * 2 ^ 8 + third.toNat * 2 ^ 16 + fourth.toNat * 2 ^ 24 : Nat)
  | _ => 0

/-- The conversion of an `int` to `size_t`, for the count of a `memcpy`. -/
def sizeOfInt (value : Int) : Nat := (value % 2 ^ 32).toNat

/-- A NUL-terminated string without its NUL; `strlen` returns a `size_t`. -/
structure CString where
  bytes : List Byte
  nulFree : 0 ∉ bytes
  length_lt : bytes.length + 1 < 2 ^ 32

/-- The string as it stands in memory. -/
def CString.memory (str : CString) : List Byte := str.bytes ++ [0]

theorem CString.memory_length (str : CString) : str.memory.length = str.bytes.length + 1 :=
  List.length_append

/-- An object in a 32-bit address space. -/
structure Blob where
  bytes : List Byte
  length_lt : bytes.length < 2 ^ 32

/-- A buffer and the offset that runs over it. -/
structure Cursor where
  buff : List Byte
  offset : Int
deriving DecidableEq, Repr

/-- `memcpy(&buff[*offset], input, len); *offset += len;`, where `input` is an object of its own. -/
def Cursor.copyIn (c : Cursor) (input : List Byte) (len : Int) : Except Access Cursor := do
  let bytes ← load input 0 (sizeOfInt len)
  let buff ← store c.buff c.offset bytes
  return ⟨buff, wrap32 (c.offset + len)⟩

/-- `memcpy(output, &buff[*offset], len); *offset += len;`, with the object `output` after it. -/
def Cursor.copyOut (c : Cursor) (output : List Byte) (len : Int) : Except Access (List Byte × Cursor) := do
  let bytes ← load c.buff c.offset (sizeOfInt len)
  let output ← store output 0 bytes
  return (output, { c with offset := wrap32 (c.offset + len) })

def buffPutInt (input : Int) (c : Cursor) : Except Access Cursor := do
  let buff ← store c.buff c.offset (intBytes input)
  return ⟨buff, wrap32 (c.offset + 4)⟩

def buffPutString (str : CString) (c : Cursor) : Except Access Cursor := do
  let len := wrap32 (str.bytes.length + 1)
  let c ← buffPutInt len c
  c.copyIn str.memory len

def buffPutBinary (input : List Byte) (len : Int) (c : Cursor) : Except Access Cursor := do
  let c ← buffPutInt len c
  c.copyIn input len

def buffPutStruct (input : List Byte) (size : Int) (c : Cursor) : Except Access Cursor :=
  c.copyIn input size

def buffGetInt (c : Cursor) : Except Access (Int × Cursor) := do
  let bytes ← load c.buff c.offset 4
  return (intOfBytes bytes, { c with offset := wrap32 (c.offset + 4) })

/-- The length returned, with the object `str` after the copy. -/
def buffGetString (str : List Byte) (c : Cursor) : Except Access ((Int × List Byte) × Cursor) := do
  let length ← buffGetInt c
  let copied ← length.2.copyOut str length.1
  return ((length.1, copied.1), copied.2)

def buffGetStruct (output : List Byte) (size : Int) (c : Cursor) : Except Access (List Byte × Cursor) :=
  c.copyOut output size

def buffGetBinary (output : List Byte) (c : Cursor) : Except Access ((Int × List Byte) × Cursor) := do
  let length ← buffGetInt c
  let copied ← length.2.copyOut output length.1
  return ((length.1, copied.1), copied.2)

theorem intBytes_length (value : Int) : (intBytes value).length = 4 := rfl

theorem intOfBytes_intBytes (value : Int) (rest : List Byte) :
    intOfBytes (intBytes value ++ rest) = wrap32 value := by
  simp only [intBytes, List.cons_append, List.nil_append, intOfBytes]
  generalize word : (value % 2 ^ 32).toNat = n
  have bound : n < 2 ^ 32 := by omega
  have digits : (UInt8.ofNat n).toNat + (UInt8.ofNat (n / 2 ^ 8)).toNat * 2 ^ 8 +
      (UInt8.ofNat (n / 2 ^ 16)).toNat * 2 ^ 16 + (UInt8.ofNat (n / 2 ^ 24)).toNat * 2 ^ 24 = n := by
    simp only [UInt8.toNat_ofNat']
    omega
  rw [digits, ← word, wrap32, wrap32, Int.toNat_of_nonneg (Int.emod_nonneg _ (by decide))]
  exact Int.emod_bmod value (2 ^ 32)

theorem sizeOfInt_wrap32 {count : Nat} (bound : count < 2 ^ 32) :
    sizeOfInt (wrap32 count) = count := by
  have reduced : wrap32 count % 2 ^ 32 = count % 2 ^ 32 := Int.bmod_emod
  rw [sizeOfInt, reduced]
  omega

/-! ## What the put routines lay out -/

/-- `put` writes exactly `bytes` at the offset and moves the offset behind them; it goes through only
where they fit. -/
def Lays (put : Cursor → Except Access Cursor) (bytes : List Byte) : Prop :=
  ∀ (buff : List Byte) (offset : Nat) (next : Cursor), buff.length < 2 ^ 31 →
    (put ⟨buff, offset⟩ = .ok next ↔ offset + bytes.length ≤ buff.length ∧
      next = ⟨overwrite buff offset bytes, (offset + bytes.length : Nat)⟩)

theorem Lays.bind {first second : Cursor → Except Access Cursor} {left right : List Byte}
    (before : Lays first left) (after : Lays second right) :
    Lays (fun c => first c >>= second) (left ++ right) := by
  intro buff offset next small
  rw [bind_eq_ok_iff, List.length_append]
  constructor
  · rintro ⟨middle, ran, success⟩
    obtain ⟨fits, rfl⟩ := (before buff offset middle small).mp ran
    obtain ⟨room, rfl⟩ := (after _ _ next (by rwa [overwrite_length fits])).mp success
    rw [overwrite_length fits] at room
    exact ⟨by omega, by rw [overwrite_overwrite (by omega), Nat.add_assoc]⟩
  · rintro ⟨room, rfl⟩
    have fits : offset + left.length ≤ buff.length := by omega
    refine ⟨_, (before buff offset _ small).mpr ⟨fits, rfl⟩, ?_⟩
    rw [after _ _ _ (by rwa [overwrite_length fits]), overwrite_length fits]
    exact ⟨by omega, by rw [overwrite_overwrite (by omega), Nat.add_assoc]⟩

private theorem wrap32_offset {offset count limit : Nat} (room : offset + count ≤ limit)
    (small : limit < 2 ^ 31) : wrap32 (offset + wrap32 count) = (offset + count : Nat) := by
  have length : wrap32 count = count := wrap32_eq_self (by omega) (by omega)
  rw [length, wrap32_eq_self (by omega) (by omega)]
  omega

theorem Cursor.copyIn_lays {input : List Byte} {count : Nat} (object : count ≤ input.length)
    (bound : count < 2 ^ 32) :
    Lays (fun c => c.copyIn input (wrap32 count)) (input.take count) := by
  intro buff offset next small
  have source : load input 0 count = .ok (input.take count) :=
    load_zero_iff.mpr ⟨object, rfl⟩
  have taken : (input.take count).length = count := List.length_take_of_le object
  simp only [Cursor.copyIn, sizeOfInt_wrap32 bound, bind_eq_ok_iff, source, taken]
  constructor
  · rintro ⟨bytes, equal, target, stored, success⟩
    cases equal
    obtain ⟨fits, rfl⟩ := store_natCast_iff.mp stored
    rw [taken] at fits
    cases success
    exact ⟨fits, by rw [wrap32_offset fits small]⟩
  · rintro ⟨fits, rfl⟩
    have room : offset + (input.take count).length ≤ buff.length := by rwa [taken]
    exact ⟨_, rfl, _, store_natCast_iff.mpr ⟨room, rfl⟩, by rw [wrap32_offset fits small]; rfl⟩

theorem buffPutInt_lays (input : Int) : Lays (buffPutInt input) (intBytes input) := by
  intro buff offset next small
  simp only [buffPutInt, bind_eq_ok_iff, intBytes_length]
  constructor
  · rintro ⟨target, stored, success⟩
    obtain ⟨fits, rfl⟩ := store_natCast_iff.mp stored
    rw [intBytes_length] at fits
    cases success
    exact ⟨fits, by rw [wrap32_eq_self (by omega) (by omega)]; rfl⟩
  · rintro ⟨fits, rfl⟩
    refine ⟨_, store_natCast_iff.mpr ⟨fits, rfl⟩, ?_⟩
    rw [wrap32_eq_self (by omega) (by omega)]
    rfl

theorem buffPutStruct_lays {input : List Byte} {count : Nat} (object : count ≤ input.length)
    (bound : count < 2 ^ 32) : Lays (buffPutStruct input (wrap32 count)) (input.take count) :=
  Cursor.copyIn_lays object bound

theorem buffPutBinary_lays (input : Blob) :
    Lays (buffPutBinary input.bytes (wrap32 input.bytes.length))
      (intBytes (wrap32 input.bytes.length) ++ input.bytes) := by
  have copied := Cursor.copyIn_lays le_rfl input.length_lt
  rw [List.take_length] at copied
  exact (buffPutInt_lays _).bind copied

theorem buffPutString_lays (str : CString) :
    Lays (buffPutString str) (intBytes (wrap32 (str.bytes.length + 1)) ++ str.memory) := by
  have whole := str.memory_length
  have copied := Cursor.copyIn_lays le_rfl (whole.trans_lt str.length_lt)
  rw [List.take_length, whole] at copied
  exact (buffPutInt_lays _).bind copied

/-! ## What the get routines find -/

/-- Where `bytes` stand at the offset, `get` returns `value` and moves the offset behind them. -/
def Finds {β : Type} (get : Cursor → Except Access (β × Cursor)) (bytes : List Byte) (value : β) : Prop :=
  ∀ (buff : List Byte) (offset : Nat) (rest : List Byte), buff.length < 2 ^ 31 →
    buff.drop offset = bytes ++ rest → offset + bytes.length ≤ buff.length →
      get ⟨buff, offset⟩ = .ok (value, ⟨buff, (offset + bytes.length : Nat)⟩)

theorem Cursor.copyOut_finds {bytes output : List Byte} (room : bytes.length ≤ output.length)
    (bound : bytes.length < 2 ^ 32) :
    Finds (fun c => c.copyOut output (wrap32 bytes.length)) bytes (overwrite output 0 bytes) := by
  intro buff offset rest small found fits
  have source : load buff offset bytes.length = .ok bytes := by
    rw [load_natCast_iff, found, List.take_left]
    exact ⟨fits, rfl⟩
  have target : store output 0 bytes = .ok (overwrite output 0 bytes) :=
    store_zero_iff.mpr ⟨room, rfl⟩
  simp only [Cursor.copyOut, sizeOfInt_wrap32 bound, bind_eq_ok_iff]
  exact ⟨_, source, _, target, by rw [wrap32_offset fits small]; rfl⟩

theorem buffGetInt_finds (input : Int) : Finds buffGetInt (intBytes input) (wrap32 input) := by
  intro buff offset rest small found fits
  rw [intBytes_length] at fits
  have source : load buff offset 4 = .ok (intBytes input) := by
    rw [← intBytes_length input, load_natCast_iff, found, List.take_left]
    exact ⟨fits, rfl⟩
  have value := intOfBytes_intBytes input []
  rw [List.append_nil] at value
  simp only [buffGetInt, bind_eq_ok_iff, intBytes_length]
  have step : wrap32 (offset + 4) = (offset + 4 : Nat) := wrap32_eq_self (by omega) (by omega)
  refine ⟨_, source, ?_⟩
  rw [value, step]
  rfl

/-- A length and as many bytes, as `buff_get_binary` reads them. -/
theorem buffGetBinary_finds {bytes output : List Byte} (room : bytes.length ≤ output.length)
    (bound : bytes.length < 2 ^ 32) :
    Finds (buffGetBinary output) (intBytes (wrap32 bytes.length) ++ bytes)
      (wrap32 bytes.length, overwrite output 0 bytes) := by
  intro buff offset rest small found fits
  rw [List.append_assoc] at found
  rw [List.length_append, intBytes_length] at fits ⊢
  have idempotent : wrap32 (wrap32 bytes.length) = wrap32 bytes.length := Int.bmod_bmod
  have length := buffGetInt_finds (wrap32 bytes.length) buff offset (bytes ++ rest) small found
    (by rw [intBytes_length]; omega)
  rw [idempotent, intBytes_length] at length
  have after : buff.drop (offset + 4) = bytes ++ rest := by
    rw [← List.drop_drop, found]
    rfl
  have copied := Cursor.copyOut_finds room bound buff (offset + 4) rest small after (by omega)
  rw [Nat.add_assoc] at copied
  simp only [buffGetBinary, bind_eq_ok_iff]
  refine ⟨_, length, ?_⟩
  dsimp only at copied ⊢
  exact ⟨_, copied, rfl⟩

/-! ## Messages of several fields -/

/-- A field a message is made of, with the value the writer has for it. -/
inductive Field where
  | int (value : Int) (lower : -2 ^ 31 ≤ value) (upper : value < 2 ^ 31)
  | string (str : CString)
  | binary (input : Blob)
  | struct (input : Blob)

namespace Field

def put : Field → Cursor → Except Access Cursor
  | int value _ _ => buffPutInt value
  | string str => buffPutString str
  | binary input => buffPutBinary input.bytes (wrap32 input.bytes.length)
  | struct input => buffPutStruct input.bytes (wrap32 input.bytes.length)

/-- The bytes of a field on the wire. -/
def encoding : Field → List Byte
  | int value _ _ => intBytes value
  | string str => intBytes (wrap32 (str.bytes.length + 1)) ++ str.memory
  | binary input => intBytes (wrap32 input.bytes.length) ++ input.bytes
  | struct input => input.bytes

/-- The bytes a reader copies to its own object. -/
def payload : Field → List Byte
  | int _ _ _ => []
  | string str => str.memory
  | binary input => input.bytes
  | struct input => input.bytes

theorem put_lays (field : Field) : Lays field.put field.encoding := by
  cases field with
  | int value lower upper => exact buffPutInt_lays value
  | string str => exact buffPutString_lays str
  | binary input => exact buffPutBinary_lays input
  | struct input =>
    have laid := buffPutStruct_lays le_rfl input.length_lt
    rwa [List.take_length] at laid

end Field

/-- What a reader passes for a field: its kind, the object to copy to, the size of a structure. -/
inductive Slot where
  | int
  | string (str : List Byte)
  | binary (output : List Byte)
  | struct (output : List Byte) (size : Int)

/-- What a reader gets for a field: the value or length returned and the object copied to. -/
inductive Reading where
  | int (value : Int)
  | sized (len : Int) (output : List Byte)
  | struct (output : List Byte)
deriving DecidableEq, Repr

def Slot.get : Slot → Cursor → Except Access (Reading × Cursor)
  | int, c => do
      let got ← buffGetInt c
      return (.int got.1, got.2)
  | string str, c => do
      let got ← buffGetString str c
      return (.sized got.1.1 got.1.2, got.2)
  | binary output, c => do
      let got ← buffGetBinary output c
      return (.sized got.1.1 got.1.2, got.2)
  | struct output size, c => do
      let got ← buffGetStruct output size c
      return (.struct got.1, got.2)

/-- Writing fields in order, with the offset after each of them. -/
def buffPutFields : List Field → Cursor → Except Access (Cursor × List Int)
  | [], c => return (c, [])
  | field :: fields, c => do
      let c ← field.put c
      let rest ← buffPutFields fields c
      return (rest.1, c.offset :: rest.2)

/-- Reading fields in order, with the offset after each of them. -/
def buffGetFields : List Slot → Cursor → Except Access (List Reading × List Int)
  | [], _ => return ([], [])
  | slot :: slots, c => do
      let got ← slot.get c
      let rest ← buffGetFields slots got.2
      return (got.1 :: rest.1, got.2.offset :: rest.2)

/-- A field together with an object that has room for its reader. -/
structure Item where
  field : Field
  output : List Byte
  room : field.payload.length ≤ output.length

namespace Item

def slot (item : Item) : Slot :=
  match item.field with
  | .int _ _ _ => .int
  | .string _ => .string item.output
  | .binary _ => .binary item.output
  | .struct input => .struct item.output (wrap32 input.bytes.length)

/-- The reading that gives the field back; the rest of the destination stays as it was. -/
def reading (item : Item) : Reading :=
  match item.field with
  | .int value _ _ => .int value
  | .string str => .sized (str.bytes.length + 1) (overwrite item.output 0 (str.bytes ++ [0]))
  | .binary input => .sized input.bytes.length (overwrite item.output 0 input.bytes)
  | .struct input => .struct (overwrite item.output 0 input.bytes)

/-- A length below the range of `int` is read back as it is. -/
private theorem sized_finds {bytes output : List Byte} (room : bytes.length ≤ output.length)
    (small : bytes.length < 2 ^ 31) :
    Finds (Slot.binary output).get (intBytes (wrap32 bytes.length) ++ bytes)
      (.sized bytes.length (overwrite output 0 bytes)) := by
  intro buff offset rest limit found fits
  have got := buffGetBinary_finds room (by omega) buff offset rest limit found fits
  have returned : wrap32 bytes.length = bytes.length := wrap32_eq_self (by omega) (by omega)
  simp only [Slot.get, bind_eq_ok_iff]
  refine ⟨_, got, ?_⟩
  rw [returned]
  rfl

/-- The encoding of a field that fits an `int`-indexed buffer is found by its slot. -/
theorem slot_finds (item : Item) (small : item.field.encoding.length < 2 ^ 31) :
    Finds item.slot.get item.field.encoding item.reading := by
  obtain ⟨field, output, room⟩ := item
  cases field with
  | int value lower upper =>
    intro buff offset rest limit found fits
    have got := buffGetInt_finds value buff offset rest limit found fits
    rw [wrap32_eq_self lower upper] at got
    simp only [slot, Slot.get, bind_eq_ok_iff]
    exact ⟨_, got, rfl⟩
  | string str =>
    simp only [Field.encoding, List.length_append, intBytes_length] at small
    have found := @sized_finds str.memory output room (by omega)
    rw [str.memory_length] at found
    exact found
  | binary input =>
    simp only [Field.encoding, List.length_append, intBytes_length] at small
    exact sized_finds room (by omega)
  | struct input =>
    intro buff offset rest limit found fits
    have got := Cursor.copyOut_finds room input.length_lt buff offset rest limit found fits
    simp only [slot, Slot.get, buffGetStruct, bind_eq_ok_iff]
    exact ⟨_, got, rfl⟩

end Item

/-- The bytes of several fields, one after the other. -/
def encodings (items : List Item) : List Byte := items.flatMap (·.field.encoding)

/-- The offsets after each of several fields written from `offset` on. -/
def offsetsAfter : Nat → List Item → List Int
  | _, [] => []
  | offset, item :: items =>
      let next := offset + item.field.encoding.length
      next :: offsetsAfter next items

theorem buffPutFields_items {buff : List Byte} (offset : Nat) {items : List Item}
    (small : buff.length < 2 ^ 31) (fits : offset + (encodings items).length ≤ buff.length) :
    buffPutFields (items.map Item.field) ⟨buff, offset⟩ =
      .ok (⟨overwrite buff offset (encodings items), (offset + (encodings items).length : Nat)⟩,
        offsetsAfter offset items) := by
  induction items generalizing buff offset with
  | nil => simp [buffPutFields, encodings, overwrite, offsetsAfter, pure, Except.pure]
  | cons item items ih =>
    have split : encodings (item :: items) = item.field.encoding ++ encodings items := rfl
    rw [split, List.length_append] at fits ⊢
    have room : offset + item.field.encoding.length ≤ buff.length := by omega
    have wrote := (item.field.put_lays buff offset _ small).mpr ⟨room, rfl⟩
    have kept := overwrite_length room
    have rest :=
      ih (offset + item.field.encoding.length) (by rw [kept]; exact small) (by rw [kept]; omega)
    rw [overwrite_overwrite (by omega), Nat.add_assoc] at rest
    simp only [List.map_cons, buffPutFields, bind_eq_ok_iff]
    exact ⟨_, wrote, _, rest, rfl⟩

theorem buffGetFields_items {buff : List Byte} (offset : Nat) {items : List Item} {rest : List Byte}
    (small : buff.length < 2 ^ 31) (found : buff.drop offset = encodings items ++ rest)
    (fits : offset + (encodings items).length ≤ buff.length) :
    buffGetFields (items.map Item.slot) ⟨buff, offset⟩ =
      .ok (items.map Item.reading, offsetsAfter offset items) := by
  induction items generalizing offset with
  | nil => rfl
  | cons item items ih =>
    have split : encodings (item :: items) = item.field.encoding ++ encodings items := rfl
    rw [split, List.length_append] at fits
    rw [split, List.append_assoc] at found
    have got := item.slot_finds (by omega) buff offset _ small found (by omega)
    have later : buff.drop (offset + item.field.encoding.length) = encodings items ++ rest := by
      rw [← List.drop_drop, found, List.drop_left]
    have read := ih _ later (by omega)
    simp only [List.map_cons, buffGetFields, bind_eq_ok_iff]
    exact ⟨_, got, _, read, rfl⟩

/-- A buffer an `int` offset can run over. -/
structure Buffer where
  bytes : List Byte
  length_lt : bytes.length < 2 ^ 31

/-- Fields written one after the other into a buffer they fit are read back in the same order as they
were, with the offset of the writer after every field. -/
theorem buffGetFields_buffPutFields (buff : Buffer) (items : List Item)
    (fits : (encodings items).length ≤ buff.bytes.length) :
    ∃ written offsets,
      buffPutFields (items.map Item.field) ⟨buff.bytes, 0⟩ = .ok (written, offsets) ∧
      buffGetFields (items.map Item.slot) ⟨written.buff, 0⟩ = .ok (items.map Item.reading, offsets) := by
  have room : 0 + (encodings items).length ≤ buff.bytes.length := by omega
  refine ⟨_, _, buffPutFields_items 0 buff.length_lt room, ?_⟩
  have kept : (overwrite buff.bytes 0 (encodings items)).length = buff.bytes.length :=
    overwrite_length room
  apply buffGetFields_items 0
  · rw [kept]
    exact buff.length_lt
  · exact drop_overwrite (Nat.zero_le _)
  · rw [kept]
    exact room

/-- One field of each kind, read into objects that are larger than needed. -/
def mixedItems : List Item :=
  [⟨.int (-2) (by decide) (by decide), [], by decide⟩,
    ⟨.string ⟨lit ['s', 'u', 'p', 'l'], by decide, by decide⟩, .replicate 8 255, by decide⟩,
    ⟨.binary ⟨[0, 7, 0], by decide⟩, .replicate 4 255, by decide⟩,
    ⟨.struct ⟨[1, 2], by decide⟩, .replicate 2 255, by decide⟩]

theorem buffGetFields_buffPutFields_mixedItems :
    ∃ written offsets,
      buffPutFields (mixedItems.map Item.field) ⟨.replicate 64 0, 0⟩ = .ok (written, offsets) ∧
      buffGetFields (mixedItems.map Item.slot) ⟨written.buff, 0⟩ =
        .ok (mixedItems.map Item.reading, offsets) :=
  buffGetFields_buffPutFields ⟨.replicate 64 0, by decide⟩ mixedItems (by decide)

end Mt6582.Gps

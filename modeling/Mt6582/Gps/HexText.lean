import Mt6582.Gps.Mnld

/-! # Strings of a notification in UCS-2 and hexadecimal

What `asc_str_to_usc2_str` and `raw_data_to_hex_string` write, as functions of the bytes they read, and what
that means for the two strings of `MNL_AGPS_CMD_NOTIFICATION` in the fields of `GpsNiNotification`.
-/

namespace Mt6582.Gps

open Machine

/-! ## What is written -/

/-- The two digits of a byte. -/
def hexPair (byte : Byte) : List Byte := [hexDigit (byte >>> 4), hexDigit (byte &&& 0xf)]

def hexDigits (bytes : List Byte) : List Byte := bytes.flatMap hexPair

/-- A character in UCS-2. -/
def usc2Pair (char : Byte) : List Byte := [0, char]

/-- The byte-order mark and the characters. -/
def usc2Bytes (chars : List Byte) : List Byte := [0xfe, 0xff] ++ chars.flatMap usc2Pair

theorem hexDigits_length (bytes : List Byte) : (hexDigits bytes).length = 2 * bytes.length :=
  @length_flatMap_const _ _ hexPair 2 (fun _ => rfl) bytes

theorem usc2Bytes_length (chars : List Byte) : (usc2Bytes chars).length = 2 * chars.length + 2 := by
  have pairs := @length_flatMap_const _ _ usc2Pair 2 (fun _ => rfl) chars
  rw [usc2Bytes, List.length_append, pairs]
  exact Nat.add_comm _ _

theorem hexLoop_eq {bytes output : List Byte} {i : Nat}
    (room : (i + bytes.length) * 2 ≤ output.length) :
    hexLoop bytes i output = .ok (overwrite output (i * 2) (hexDigits bytes)) := by
  induction bytes generalizing i output with
  | nil => simp [hexLoop, hexDigits, overwrite, pure, Except.pure]
  | cons byte bytes ih =>
    rw [List.length_cons] at room
    have next : i * 2 + (hexPair byte).length ≤ output.length := by
      change i * 2 + 2 ≤ output.length
      omega
    have place : (i + 1) * 2 = i * 2 + (hexPair byte).length := Nat.succ_mul i 2
    rw [hexLoop]
    apply store_store_iff.mpr
    refine ⟨next, ?_⟩
    change hexLoop bytes (i + 1) (overwrite output (i * 2) (hexPair byte)) = _
    rw [ih (by rw [overwrite_length next]; omega), place, overwrite_overwrite (by omega)]
    rfl

/-- The digits of the first `inputLen` bytes stand at the front of the output. -/
theorem rawDataToHexString_eq {output input : List Byte} {inputLen : Nat}
    (inside : inputLen ≤ input.length) (room : 2 * inputLen ≤ output.length) :
    rawDataToHexString output input inputLen =
      .ok (overwrite output 0 (hexDigits (input.take inputLen))) := by
  apply bind_eq_ok_iff.mpr
  refine ⟨_, load_zero_iff.mpr ⟨inside, rfl⟩, ?_⟩
  rw [hexLoop_eq (by rw [List.length_take_of_le inside]; omega)]

theorem usc2Scan_eq {size len : Nat} {chars rest output : List Byte} (live : 0 ∉ chars)
    (room : len + 2 * chars.length ≤ output.length) :
    usc2Scan size (chars ++ 0 :: rest) len output =
      .ok (len + 2 * chars.length, overwrite output len (chars.flatMap usc2Pair)) := by
  induction chars generalizing len output with
  | nil => simp [usc2Scan, overwrite, pure, Except.pure]
  | cons char chars ih =>
    rw [List.mem_cons, not_or] at live
    rw [List.length_cons] at room
    have next : len + (usc2Pair char).length ≤ output.length := by
      change len + 2 ≤ output.length
      omega
    rw [List.cons_append, usc2Scan, if_neg (Ne.symm live.1)]
    apply store_store_iff.mpr
    refine ⟨next, ?_⟩
    change usc2Scan size (chars ++ 0 :: rest) (len + (usc2Pair char).length)
      (overwrite output len (usc2Pair char)) = _
    have total :
        len + (usc2Pair char).length + 2 * chars.length = len + 2 * (chars.length + 1) := by
      change len + 2 + 2 * chars.length = _
      omega
    rw [ih live.2 (by rw [overwrite_length next, total]; omega), total,
      overwrite_overwrite (by omega)]
    rfl

/-- The string's characters and the mark stand at the front of the output, whatever is written behind them. -/
theorem ascStrToUsc2Str_eq {output chars rest : List Byte} (live : 0 ∉ chars)
    (room : 2 * chars.length + 5 ≤ output.length) :
    ∃ text, ascStrToUsc2Str output (chars ++ 0 :: rest) = .ok (2 * chars.length + 2, text) ∧
      text.length = output.length ∧ text.take (2 * chars.length + 2) = usc2Bytes chars := by
  have start : 0 + [(0xfe : Byte), 0xff].length ≤ output.length := by
    simp only [List.length_cons, List.length_nil]
    omega
  have kept := overwrite_length start
  have scan :=
    @usc2Scan_eq (chars ++ 0 :: rest).length 2 chars rest (overwrite output 0 [0xfe, 0xff]) live
    (by rw [kept]; omega)
  have joined : overwrite (overwrite output 0 [0xfe, 0xff]) 2 (chars.flatMap usc2Pair) =
      overwrite output 0 (usc2Bytes chars) :=
    @overwrite_overwrite _ output [0xfe, 0xff] _ 0 (Nat.zero_le _)
  rw [joined] at scan
  have written : (overwrite output 0 (usc2Bytes chars)).length = output.length :=
    overwrite_length (by rw [usc2Bytes_length]; omega)
  have last :
      2 + 2 * chars.length + 1 + 2 ≤ (overwrite output 0 (usc2Bytes chars)).length := by omega
  have finished := (@store_store_iff _ _ _ (2 + 2 * chars.length + 1) 0 0
    (fun output => pure (2 + 2 * chars.length, output)) _).mpr ⟨last, rfl⟩
  refine ⟨overwrite (overwrite output 0 (usc2Bytes chars)) (2 + 2 * chars.length + 1) [0, 0],
    ?_, ?_, ?_⟩
  · rw [Nat.add_comm _ 2]
    exact (@store_store_iff _ _ output 0 0xfe 0xff _ _).mpr
      ⟨start, bind_eq_ok_iff.mpr ⟨_, scan, finished⟩⟩
  · rw [overwrite_length (by exact last), written]
  · rw [take_overwrite (by omega) (by omega), ← usc2Bytes_length, take_overwrite_zero]

/-- A string that fits is converted to the digits of its UCS-2 bytes, at the front of a field of zeros. -/
theorem hexOfString_eq {limit : Nat} {chars rest : List Byte} (live : 0 ∉ chars)
    (fits : 2 * chars.length + 5 ≤ 1024) (room : 4 * chars.length + 4 ≤ limit) :
    hexOfString (.replicate limit 0) (chars ++ 0 :: rest) =
      .ok (overwrite (.replicate limit 0) 0 (hexDigits (usc2Bytes chars))) := by
  have size : (List.replicate 1024 (0 : Byte)).length = 1024 := List.length_replicate
  obtain ⟨text, converted, length, front⟩ :=
    @ascStrToUsc2Str_eq (.replicate 1024 0) chars rest live (by rw [size]; exact fits)
  rw [size] at length
  apply bind_eq_ok_iff.mpr
  refine ⟨_, converted, ?_⟩
  have inside : 2 * chars.length + 2 ≤ text.length := by omega
  rw [rawDataToHexString_eq inside (by rw [List.length_replicate]; omega), front]

/-! ## The strings of a notification -/

theorem cLength_append {chars rest : List Byte} (live : 0 ∉ chars) :
    cLength (chars ++ 0 :: rest) = chars.length := by
  induction chars with
  | nil => rfl
  | cons char chars ih =>
    rw [List.mem_cons, not_or] at live
    rw [List.cons_append, cLength_cons (Ne.symm live.1), ih live.2, List.length_cons]

theorem toNat_shiftRight_four (byte : Byte) : (byte >>> 4).toNat = byte.toNat / 16 := by
  rw [UInt8.toNat_shiftRight]
  exact Nat.shiftRight_eq_div_pow _ 4

theorem toNat_and_fifteen (byte : Byte) : (byte &&& 0xf).toNat = byte.toNat % 16 := by
  rw [UInt8.toNat_and]
  exact Nat.and_two_pow_sub_one_eq_mod _ 4

/-- What holds of the sixteen nibbles holds of both halves of a byte. -/
theorem forall_nibble {P : Byte → Prop} (all : ∀ value : Fin 16, P (UInt8.ofNat value))
    (byte : Byte) :
    P (byte >>> 4) ∧ P (byte &&& 0xf) := by
  have nibble (half : Byte) (small : half.toNat < 16) : P half := by
    have found := all ⟨half.toNat, small⟩
    rwa [UInt8.ofNat_toNat] at found
  have bound := byte.toNat_lt
  constructor
  · apply nibble
    rw [toNat_shiftRight_four]
    omega
  · apply nibble
    rw [toNat_and_fifteen]
    omega

theorem zero_notMem_hexDigits (bytes : List Byte) : 0 ∉ hexDigits bytes := by
  have digit := @forall_nibble (fun nibble => 0 ≠ hexDigit nibble) (by decide)
  intro found
  obtain ⟨byte, -, pair⟩ := List.mem_flatMap.mp found
  rw [hexPair, List.mem_cons, List.mem_singleton] at pair
  rcases pair with high | low
  · exact (digit byte).1 high
  · exact (digit byte).2 low

/-- A field of zeros ends the digits written to it exactly when they do not fill it. -/
theorem zero_mem_overwrite_iff {limit : Nat} {bytes : List Byte} :
    0 ∈ overwrite (.replicate limit 0) 0 (hexDigits bytes) ↔ 2 * bytes.length < limit := by
  have digits := zero_notMem_hexDigits bytes
  simp only [overwrite, List.take_zero, List.nil_append, Nat.zero_add, List.mem_append,
    digits, false_or, List.drop_replicate, List.mem_replicate, hexDigits_length, and_true]
  omega

/-- `MNL_AGPS_CMD_NOTIFICATION` with its two strings, as the daemon lays it out. -/
structure SuplNotification where
  sessionId : Int
  type : Int
  requestorId : CString
  clientName : CString
  requestorId_le : requestorId.bytes.length ≤ 508
  clientName_le : clientName.bytes.length ≤ 508

namespace SuplNotification

variable (message : SuplNotification)

def bytes : List Byte :=
  intBytes 230 ++ (intBytes message.sessionId ++ (intBytes message.type ++
    ((Field.string message.requestorId).encoding ++ (Field.string message.clientName).encoding)))

theorem encoding_length (str : CString) :
    (Field.string str).encoding.length = str.bytes.length + 5 := by
  rw [Field.encoding, List.length_append, intBytes_length, str.memory_length]
  omega

theorem bytes_length : message.bytes.length =
    message.requestorId.bytes.length + message.clientName.bytes.length + 22 := by
  simp only [bytes, List.length_append, intBytes_length, encoding_length]
  omega

theorem bytes_length_le : message.bytes.length ≤ 9000 := by
  have first := message.requestorId_le
  have second := message.clientName_le
  rw [bytes_length]
  omega

def datagram : Datagram := ⟨message.bytes, message.bytes_length_le⟩

end SuplNotification

theorem drop_behind {buff bytes rest : List Byte} {offset : Nat}
    (found : buff.drop offset = bytes ++ rest) :
    buff.drop (offset + bytes.length) = rest := by
  rw [← List.drop_drop, found, List.drop_left]

/-- Reading a field that stands at the offset goes on behind it. -/
theorem Finds.bind_eq {β γ : Type} {get : Cursor → Except Access (β × Cursor)}
    {bytes : List Byte} {value : β} (finds : Finds get bytes value) {buff : List Byte}
    {offset : Nat} {rest : List Byte} (small : buff.length < 2 ^ 31)
    (found : buff.drop offset = bytes ++ rest) (fits : offset + bytes.length ≤ buff.length)
    (next : β × Cursor → Except Access γ) :
    get ⟨buff, offset⟩ >>= next = next (value, ⟨buff, (offset + bytes.length : Nat)⟩) := by
  rw [finds buff offset rest small found fits]
  rfl

theorem buffGetString_finds {output : List Byte} {str : CString}
    (room : str.bytes.length + 1 ≤ output.length) (short : str.bytes.length + 1 < 2 ^ 31) :
    Finds (buffGetString output) (Field.string str).encoding
      ((str.bytes.length + 1 : Nat), overwrite output 0 str.memory) := by
  have whole := str.memory_length
  have finds := @buffGetBinary_finds str.memory output (by omega) (by omega)
  rw [whole, wrap32_eq_self (by omega) (by omega)] at finds
  rw [Field.encoding, ← Nat.cast_succ, wrap32_eq_self (by omega) (by omega)]
  exact finds

/-- The conversions of the handler are made on what the daemon sent. -/
theorem mnldToGpsHandler_notification (env : MnldEnv) (message : SuplNotification) :
    ∃ offsets, mnldToGpsHandler env message.datagram = (do
      let hexId ← hexOfString (.replicate env.shortStringMaxlen 0)
        (overwrite env.requestorId 0 message.requestorId.memory)
      let hexText ← hexOfString (.replicate env.longStringMaxlen 0)
        (overwrite env.clientName 0 message.clientName.memory)
      return ⟨.notify ⟨wrap32 message.sessionId, .ofInt (wrap32 message.type), hexId, hexText, .suplUcs2,
        .suplUcs2⟩, offsets⟩) := by
  have first := message.requestorId_le
  have second := message.clientName_le
  have size := message.datagram.buff_length
  have small : message.datagram.buff.length < 2 ^ 31 := by omega
  have idLength := SuplNotification.encoding_length message.requestorId
  have nameLength := SuplNotification.encoding_length message.clientName
  have idArray := env.requestorId_length
  have nameArray := env.clientName_length
  generalize equal : message.datagram.buff = buff at size small
  have atType :
      buff.drop 0 = intBytes 230 ++ (intBytes message.sessionId ++ (intBytes message.type ++
      ((Field.string message.requestorId).encoding ++ ((Field.string message.clientName).encoding ++
        .replicate (9000 - message.bytes.length) 0)))) := by
    rw [← equal]
    simp only [Datagram.buff, SuplNotification.datagram, SuplNotification.bytes, List.drop_zero,
      List.append_assoc]
  have atSession := drop_behind atType
  have atNotifyType := drop_behind atSession
  have atId := drop_behind atNotifyType
  have atName := drop_behind atId
  have command : MnldCommand.ofInt (wrap32 230) = .notification := by decide
  have id := @buffGetString_finds env.requestorId message.requestorId (by omega) (by omega)
  have name := @buffGetString_finds env.clientName message.clientName (by omega) (by omega)
  simp only [intBytes_length] at atSession atNotifyType atId atName
  refine ⟨[(4 : Nat), (8 : Nat), (12 : Nat), (12 + (Field.string message.requestorId).encoding.length : Nat),
    (12 + (Field.string message.requestorId).encoding.length +
      (Field.string message.clientName).encoding.length : Nat)], ?_⟩
  rw [mnldToGpsHandler, equal]
  apply ((buffGetInt_finds 230).bind_eq small atType (by rw [intBytes_length]; omega) _).trans
  rw [command, dispatch, handleNotification]
  simp only [bind_assoc]
  apply ((buffGetInt_finds message.sessionId).bind_eq small atSession (by rw [intBytes_length]; omega) _).trans
  apply ((buffGetInt_finds message.type).bind_eq small atNotifyType (by rw [intBytes_length]; omega) _).trans
  apply (id.bind_eq small atId (by omega) _).trans
  apply (name.bind_eq small atName (by omega) _).trans
  rfl

/-- Both strings were converted inside their arrays, and end inside the fields of `notify`. -/
def NotifiesInside (outcome : Except Access Handled) : Prop :=
  ∃ notification offsets, outcome = .ok ⟨.notify notification, offsets⟩ ∧
    0 ∈ notification.requestorId ∧ 0 ∈ notification.text

theorem memory_overwrite (array : List Byte) (str : CString) : ∃ rest,
    overwrite array 0 str.memory = str.bytes ++ 0 :: rest := by
  refine ⟨array.drop (0 + str.memory.length), ?_⟩
  rw [overwrite, CString.memory, List.take_zero, List.nil_append, List.append_assoc]
  rfl

section Capacity

variable {env : MnldEnv} (short : env.shortStringMaxlen = 256) (message : SuplNotification)

include short

/-- The digits of a requestor id that were written inside its field and leave room for the NUL are few. -/
theorem NotifiesInside.requestorId_le (inside : NotifiesInside (mnldToGpsHandler env message.datagram)) :
    message.requestorId.bytes.length ≤ 62 := by
  obtain ⟨offsets, equal⟩ := mnldToGpsHandler_notification env message
  obtain ⟨restId, idArray⟩ := memory_overwrite env.requestorId message.requestorId
  have ended := @zero_mem_overwrite_iff 256 (usc2Bytes message.requestorId.bytes)
  rw [usc2Bytes_length] at ended
  rw [equal, idArray, short] at inside
  obtain ⟨notification, _, success, terminated, -⟩ := inside
  obtain ⟨hexId, converted, success⟩ := bind_eq_ok_iff.mp success
  -- the conversion went through, so what it wrote is known
  have fits := hexOfString_ok_iff.mp ⟨hexId, converted⟩
  rw [HexFits, cLength_append message.requestorId.nulFree] at fits
  rw [hexOfString_eq message.requestorId.nulFree fits.2.1 fits.2.2] at converted
  obtain ⟨hexText, -, finished⟩ := bind_eq_ok_iff.mp success
  cases converted
  cases finished
  have digits := ended.mp terminated
  omega

variable (long : env.longStringMaxlen = 2048)

include long

/-- Of strings of at most 508 characters `notify.text` takes every one, `notify.requestor_id` those whose digits
leave room for the NUL. -/
theorem mnldToGpsHandler_notifiesInside_iff :
    NotifiesInside (mnldToGpsHandler env message.datagram) ↔ message.requestorId.bytes.length ≤ 62 := by
  constructor
  · exact NotifiesInside.requestorId_le short message
  · intro fits
    obtain ⟨offsets, equal⟩ := mnldToGpsHandler_notification env message
    obtain ⟨restId, idArray⟩ := memory_overwrite env.requestorId message.requestorId
    obtain ⟨restName, nameArray⟩ := memory_overwrite env.clientName message.clientName
    have name := message.clientName_le
    have hexId := @hexOfString_eq 256 _ restId message.requestorId.nulFree (by omega) (by omega)
    have hexText := @hexOfString_eq 2048 _ restName message.clientName.nulFree (by omega) (by omega)
    rw [equal, idArray, nameArray, short, long, hexId, hexText]
    refine ⟨_, _, rfl, ?_, ?_⟩
    · rw [zero_mem_overwrite_iff, usc2Bytes_length]
      omega
    · rw [zero_mem_overwrite_iff, usc2Bytes_length]
      omega

end Capacity

/-- A request of an operator for a subscriber's position. -/
def operatorRequest : SuplNotification where
  sessionId := 1
  type := 2
  requestorId := ⟨lit ['s', 'l', 'p'], by decide, by decide⟩
  clientName := ⟨lit ['o', 'p'], by decide, by decide⟩
  requestorId_le := by decide
  clientName_le := by decide

theorem mnldToGpsHandler_operatorRequest_inside :
    NotifiesInside (mnldToGpsHandler idleMnldEnv operatorRequest.datagram) :=
  (mnldToGpsHandler_notifiesInside_iff rfl operatorRequest rfl).mpr (by decide)

/-- A requestor id of 64 characters. -/
def longRequestor : SuplNotification where
  sessionId := 1
  type := 2
  requestorId := ⟨.replicate 64 65, by decide, by decide⟩
  clientName := ⟨lit ['o', 'p'], by decide, by decide⟩
  requestorId_le := by decide
  clientName_le := by decide

theorem mnldToGpsHandler_longRequestor_outside : ¬ ∀ (env : MnldEnv) (message : SuplNotification),
    env.shortStringMaxlen = 256 → env.longStringMaxlen = 2048 →
      NotifiesInside (mnldToGpsHandler env message.datagram) := by
  intro inside
  have few :=
    NotifiesInside.requestorId_le rfl longRequestor (inside idleMnldEnv longRequestor rfl rfl)
  revert few
  decide

end Mt6582.Gps

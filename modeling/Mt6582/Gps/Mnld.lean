import Mt6582.Gps.Codec

/-! # Messages of the GPS daemon to the framework

`mnld_to_gps_handler` reads one datagram into a zeroed buffer of 9000 bytes and takes the fields of
the message from it with the `buff_get_…` routines, which trust the lengths they find. Structures are
carried as the bytes that were copied; what is done with them after the copy reads no more of the
datagram.
-/

namespace Mt6582.Gps

open Machine

/-- The commands of the daemon the handler distinguishes. -/
inductive MnldCommand where
  | notification | dataConnReq | dataConnRelease | requestSetId | requestRefloc | agpsLoc
  | notification2 | dataConnReq2 | updateEpoFileDone | updateEpoFileFail | gpsInjectTimeReq
  | gpsInjectLocationReq | mnlDie | gpsIcon | measurement | navigation | unknown
deriving DecidableEq, Repr

def MnldCommand.ofInt (type : Int) : MnldCommand :=
  if type = 230 then .notification
  else if type = 231 then .dataConnReq
  else if type = 232 then .dataConnRelease
  else if type = 233 then .requestSetId
  else if type = 234 then .requestRefloc
  else if type = 235 then .agpsLoc
  else if type = 236 then .notification2
  else if type = 237 then .dataConnReq2
  else if type = 0x36 then .updateEpoFileDone
  else if type = 0x38 then .updateEpoFileFail
  else if type = 0x48 then .gpsInjectTimeReq
  else if type = 0x49 then .gpsInjectLocationReq
  else if type = 0x41 then .mnlDie
  else if type = 0x42 then .gpsIcon
  else if type = 0x76 then .measurement
  else if type = 0x77 then .navigation
  else .unknown

/-- `notify_flags` by the type of a notification. -/
inductive NotifyFlags where
  | none | notify | notifyVerify | privacyOverride
deriving DecidableEq, Repr

def NotifyFlags.ofInt (type : Int) : NotifyFlags :=
  if type = 1 then .notify
  else if type = 2 ∨ type = 3 then .notifyVerify
  else if type = 4 then .privacyOverride
  else .none

/-- `GPS_ENC_SUPL_UCS2`, or the code a message carries. -/
inductive NiEncoding where
  | suplUcs2
  | code (value : Int)
deriving DecidableEq, Repr

/-- The fields of `GpsNiNotification` that depend on the message. -/
structure NiNotification where
  notificationId : Int
  notifyFlags : NotifyFlags
  requestorId : List Byte
  text : List Byte
  requestorIdEncoding : NiEncoding
  textEncoding : NiEncoding
deriving DecidableEq, Repr

/-- What the handler passes on. -/
inductive MnldMessage where
  | notify (notification : NiNotification)
  | dataConnReq (ipaddr isEmergency : Int)
  | dataConnReq2 (addr : List Byte) (isEmergency : Int)
  | requestSetid (flags : Int)
  | requestRefloc (flags : Int)
  | agpsLocation (location : List Byte)
  | gpsIcon (status : Int)
  | measurement (measurements clock : List Byte)
  | navigation (event data : List Byte)
  | plain (command : MnldCommand)
deriving DecidableEq, Repr

/-- The state the handler finds: the sizes of `GpsNiNotification`'s strings, whatever its own arrays
hold before they are written, the two `…_init_flag`s and the outcome of its two calls of `malloc`. -/
structure MnldEnv where
  shortStringMaxlen : Nat
  longStringMaxlen : Nat
  requestorId : List Byte
  clientName : List Byte
  gpsmeasurementInit : Bool
  gpsnavigationInit : Bool
  eventAllocated : Bool
  dataAllocated : Bool
  requestorId_length : requestorId.length = 1024
  clientName_length : clientName.length = 1024

/-- The message passed on and the value of `offset` after each field. -/
structure Handled where
  message : MnldMessage
  offsets : List Int
deriving DecidableEq, Repr

def sizeofSockaddrStorage : Nat := 128
def sizeofAgpsLocation : Nat := 72
/-- `MTK_GPS_MEASUREMENT`, aligned by 4 bytes. -/
def sizeofMeasurement : Nat := 220
def sizeofClock : Nat := 68
def sizeofNavigationEvent : Nat := 56

/-- The scan of `asc_str_to_usc2_str`, from `input` on: a character becomes two bytes from `len` on. -/
def usc2Scan (size : Nat) : List Byte → Nat → List Byte → Except Access (Nat × List Byte)
  | [], _, _ => .error ⟨size, 1, size⟩
  | char :: input, len, output =>
      if char = 0 then return (len, output)
      else do
        let output ← store output len [0]
        let output ← store output (len + 1 : Nat) [char]
        usc2Scan size input (len + 2) output

/-- The length without the end, which is written one byte too far to the right. -/
def ascStrToUsc2Str (output input : List Byte) : Except Access (Nat × List Byte) := do
  let output ← store output 0 [0xfe]
  let output ← store output 1 [0xff]
  let scanned ← usc2Scan input.length input 2 output
  let output ← store scanned.2 (scanned.1 + 1 : Nat) [0]
  let output ← store output (scanned.1 + 2 : Nat) [0]
  return (scanned.1, output)

def hexDigit (nibble : Byte) : Byte := if nibble ≤ 9 then nibble + 48 else nibble - 10 + 65

def hexLoop : List Byte → Nat → List Byte → Except Access (List Byte)
  | [], _, output => return output
  | byte :: bytes, i, output => do
      let output ← store output (i * 2 : Nat) [hexDigit (byte >>> 4)]
      let output ← store output (i * 2 + 1 : Nat) [hexDigit (byte &&& 0xf)]
      hexLoop bytes (i + 1) output

def rawDataToHexString (output input : List Byte) (inputLen : Nat) : Except Access (List Byte) := do
  let bytes ← load input 0 inputLen
  hexLoop bytes 0 output

/-- A string of a notification in UCS-2 and hexadecimal, by way of `ucs2_buff`. -/
def hexOfString (output input : List Byte) : Except Access (List Byte) := do
  let ucs2 ← ascStrToUsc2Str (.replicate 1024 0) input
  rawDataToHexString output ucs2.2 ucs2.1

section Handler

variable (env : MnldEnv)

def handleNotification (c : Cursor) : Except Access Handled := do
  let session ← buffGetInt c
  let type ← buffGetInt session.2
  let requestorId ← buffGetString env.requestorId type.2
  let clientName ← buffGetString env.clientName requestorId.2
  let hexId ← hexOfString (.replicate env.shortStringMaxlen 0) requestorId.1.2
  let hexText ← hexOfString (.replicate env.longStringMaxlen 0) clientName.1.2
  return ⟨.notify ⟨session.1, .ofInt type.1, hexId, hexText, .suplUcs2, .suplUcs2⟩,
    [session.2.offset, type.2.offset, requestorId.2.offset, clientName.2.offset]⟩

def handleNotification2 (c : Cursor) : Except Access Handled := do
  let session ← buffGetInt c
  let type ← buffGetInt session.2
  let requestorId ← buffGetString (.replicate env.shortStringMaxlen 0) type.2
  let text ← buffGetString (.replicate env.longStringMaxlen 0) requestorId.2
  let requestorIdEncoding ← buffGetInt text.2
  let textEncoding ← buffGetInt requestorIdEncoding.2
  return ⟨.notify ⟨session.1, .ofInt type.1, requestorId.1.2, text.1.2, .code requestorIdEncoding.1,
      .code textEncoding.1⟩,
    [session.2.offset, type.2.offset, requestorId.2.offset, text.2.offset,
      requestorIdEncoding.2.offset, textEncoding.2.offset]⟩

def handleDataConnReq (c : Cursor) : Except Access Handled := do
  let ipaddr ← buffGetInt c
  let isEmergency ← buffGetInt ipaddr.2
  return ⟨.dataConnReq ipaddr.1 isEmergency.1, [ipaddr.2.offset, isEmergency.2.offset]⟩

def handleDataConnReq2 (c : Cursor) : Except Access Handled := do
  let addr ← buffGetStruct (.replicate sizeofSockaddrStorage 0) sizeofSockaddrStorage c
  let isEmergency ← buffGetInt addr.2
  return ⟨.dataConnReq2 addr.1 isEmergency.1, [addr.2.offset, isEmergency.2.offset]⟩

/-- A command with one integer. -/
def handleInt (message : Int → MnldMessage) (c : Cursor) : Except Access Handled := do
  let value ← buffGetInt c
  return ⟨message value.1, [value.2.offset]⟩

def handleAgpsLoc (c : Cursor) : Except Access Handled := do
  let location ← buffGetStruct (.replicate sizeofAgpsLocation 0) sizeofAgpsLocation c
  return ⟨.agpsLocation location.1, [location.2.offset]⟩

def handleMeasurement (c : Cursor) : Except Access Handled :=
  if env.gpsmeasurementInit then do
    let measurements ← buffGetStruct (.replicate (32 * sizeofMeasurement) 0)
      (32 * sizeofMeasurement : Nat) c
    let clock ← buffGetStruct (.replicate sizeofClock 0) sizeofClock measurements.2
    return ⟨.measurement measurements.1 clock.1, [measurements.2.offset, clock.2.offset]⟩
  else return ⟨.plain .measurement, []⟩

/-- `length` and `data[40]` of `MTK_GPS_NAVIGATION_EVENT` stand at 12 and 16. -/
def handleNavigation (c : Cursor) : Except Access Handled :=
  if env.gpsnavigationInit ∧ env.eventAllocated then do
    let event ← buffGetStruct (.replicate sizeofNavigationEvent 0) sizeofNavigationEvent c
    let length := sizeOfInt (intOfBytes ((event.1.drop 12).take 4))
    let bytes ← load ((event.1.drop 16).take 40) 0 length
    let data ← store (.replicate (if env.dataAllocated then length else 0) 0) 0 bytes
    return ⟨.navigation event.1 data, [event.2.offset]⟩
  else return ⟨.plain .navigation, []⟩

/-- `char buff[9000] = {0}` after a datagram has been read into it. -/
structure Datagram where
  bytes : List Byte
  length_le : bytes.length ≤ 9000

def Datagram.buff (datagram : Datagram) : List Byte :=
  datagram.bytes ++ .replicate (9000 - datagram.bytes.length) 0

def dispatch (command : MnldCommand) (c : Cursor) : Except Access Handled :=
  match command with
  | .notification => handleNotification env c
  | .notification2 => handleNotification2 env c
  | .dataConnReq => handleDataConnReq c
  | .dataConnReq2 => handleDataConnReq2 c
  | .requestSetId => handleInt .requestSetid c
  | .requestRefloc => handleInt .requestRefloc c
  | .agpsLoc => handleAgpsLoc c
  | .gpsIcon => handleInt .gpsIcon c
  | .measurement => handleMeasurement env c
  | .navigation => handleNavigation env c
  | command => return ⟨.plain command, []⟩

def mnldToGpsHandler (datagram : Datagram) : Except Access Handled := do
  let type ← buffGetInt ⟨datagram.buff, 0⟩
  let handled ← dispatch env (.ofInt type.1) type.2
  return ⟨handled.message, type.2.offset :: handled.offsets⟩

end Handler

/-! ## When a field is read inside its objects -/

/-- The `int` at a place of a buffer. -/
def intAt (buff : List Byte) (place : Nat) : Int := intOfBytes ((buff.drop place).take 4)

/-- The bytes from a place of a buffer on. -/
def bytesAt (buff : List Byte) (place count : Nat) : List Byte := (buff.drop place).take count

theorem intOfBytes_bounds (bytes : List Byte) :
    -2 ^ 31 ≤ intOfBytes bytes ∧ intOfBytes bytes < 2 ^ 31 := by
  unfold intOfBytes
  split
  · exact wrap32_bounds _
  · decide

section Reading

variable {buff : List Byte} {offset : Nat}

theorem buffGetInt_ok_iff {result : Int × Cursor} (small : buff.length < 2 ^ 31) :
    buffGetInt ⟨buff, offset⟩ = .ok result ↔
      offset + 4 ≤ buff.length ∧ result = (intAt buff offset, ⟨buff, (offset + 4 : Nat)⟩) := by
  simp only [buffGetInt, bind_eq_ok_iff]
  constructor
  · rintro ⟨bytes, loaded, success⟩
    obtain ⟨fits, rfl⟩ := load_natCast_iff.mp loaded
    cases success
    refine ⟨fits, ?_⟩
    rw [wrap32_eq_self (by omega) (by omega)]
    rfl
  · rintro ⟨fits, rfl⟩
    refine ⟨_, load_natCast_iff.mpr ⟨fits, rfl⟩, ?_⟩
    rw [wrap32_eq_self (by omega) (by omega)]
    rfl

theorem bytesAt_length {count : Nat} (fits : offset + count ≤ buff.length) :
    (bytesAt buff offset count).length = count := by
  simp only [bytesAt, List.length_take, List.length_drop]
  omega

theorem copyOut_natCast_iff {output : List Byte} {count : Nat} {result : List Byte × Cursor}
    (small : buff.length < 2 ^ 31) (bound : count < 2 ^ 31) :
    Cursor.copyOut ⟨buff, offset⟩ output count = .ok result ↔
      offset + count ≤ buff.length ∧ count ≤ output.length ∧
        result = (overwrite output 0 (bytesAt buff offset count), ⟨buff, (offset + count : Nat)⟩) := by
  have length : sizeOfInt count = count := by unfold sizeOfInt; omega
  simp only [Cursor.copyOut, length, bind_eq_ok_iff, load_natCast_iff, store_zero_iff]
  constructor
  · rintro ⟨bytes, ⟨fits, rfl⟩, target, ⟨room, rfl⟩, success⟩
    have taken := bytesAt_length fits
    cases success
    refine ⟨fits, taken ▸ room, ?_⟩
    rw [wrap32_eq_self (by omega) (by omega)]
    rfl
  · rintro ⟨fits, room, rfl⟩
    have taken := bytesAt_length fits
    refine ⟨_, ⟨fits, rfl⟩, _, ⟨taken.symm ▸ room, rfl⟩, ?_⟩
    rw [wrap32_eq_self (by omega) (by omega)]
    rfl

/-- A negative length asks for at least `2 ^ 31` bytes. -/
theorem copyOut_negative {output : List Byte} {len : Int} (small : buff.length < 2 ^ 31)
    (lower : -2 ^ 31 ≤ len) (negative : len < 0) (result : List Byte × Cursor) :
    Cursor.copyOut ⟨buff, offset⟩ output len ≠ .ok result := by
  intro success
  obtain ⟨bytes, loaded, -⟩ := bind_eq_ok_iff.mp success
  have huge : 2 ^ 31 ≤ sizeOfInt len := by unfold sizeOfInt; omega
  have fits : offset + sizeOfInt len ≤ buff.length := (load_natCast_iff.mp loaded).1
  omega

theorem buffGetString_ok_iff {str : List Byte} {result : (Int × List Byte) × Cursor}
    (small : buff.length < 2 ^ 31) :
    buffGetString str ⟨buff, offset⟩ = .ok result ↔ ∃ count : Nat, intAt buff offset = count ∧
      offset + 4 + count ≤ buff.length ∧ count ≤ str.length ∧
        result = (((count : Int), overwrite str 0 (bytesAt buff (offset + 4) count)),
          ⟨buff, (offset + 4 + count : Nat)⟩) := by
  have bounds := intOfBytes_bounds ((buff.drop offset).take 4)
  simp only [buffGetString, bind_eq_ok_iff, buffGetInt_ok_iff small]
  constructor
  · rintro ⟨length, ⟨-, rfl⟩, copied, ran, success⟩
    by_cases negative : intAt buff offset < 0
    · exact absurd ran (copyOut_negative small bounds.1 negative copied)
    · obtain ⟨count, equal⟩ := Int.eq_ofNat_of_zero_le (not_lt.mp negative)
      simp only [equal] at ran success
      obtain ⟨fits, room, rfl⟩ :=
        (copyOut_natCast_iff small (by unfold intAt at equal; omega)).mp ran
      cases success
      exact ⟨count, equal, fits, room, rfl⟩
  · rintro ⟨count, equal, fits, room, rfl⟩
    have copied :=
      (copyOut_natCast_iff small (by unfold intAt at equal; omega)).mpr ⟨fits, room, rfl⟩
    refine ⟨_, ⟨by omega, rfl⟩, ?_⟩
    simp only [equal]
    exact ⟨_, copied, rfl⟩

end Reading

/-! ## When a string becomes hexadecimal inside its objects -/

/-- The length of the C string at the front of an array. -/
def cLength (array : List Byte) : Nat := (array.takeWhile (· ≠ 0)).length

/-- A character of the string is two bytes of `ucs2_buff`, and each of these two digits. The end of the
string is the array's own, and `ucs2_buff` has room for its two bytes one place further on. -/
def HexFits (limit : Nat) (array : List Byte) : Prop :=
  0 ∈ array ∧ 2 * cLength array + 5 ≤ 1024 ∧ 4 * cLength array + 4 ≤ limit

theorem cLength_cons {char : Byte} {input : List Byte} (live : char ≠ 0) :
    cLength (char :: input) = cLength input + 1 := by
  simp [cLength, live]

theorem usc2Scan_spec {size len : Nat} {input output : List Byte} {result : Nat × List Byte}
    (ran : usc2Scan size input len output = .ok result) (started : len ≤ output.length) :
    0 ∈ input ∧ result.1 = len + 2 * cLength input ∧ result.1 ≤ output.length ∧
      result.2.length = output.length := by
  induction input generalizing len output with
  | nil => cases ran
  | cons char input ih =>
    rw [usc2Scan] at ran
    split_ifs at ran with stop
    · cases ran
      subst stop
      exact ⟨List.mem_cons_self, rfl, started, rfl⟩
    · obtain ⟨room, ran⟩ := store_store_iff.mp ran
      have kept := overwrite_length (show len + [0, char].length ≤ output.length from room)
      obtain ⟨ended, length, bound, same⟩ := ih ran (by rw [kept]; exact room)
      rw [kept] at bound same
      refine ⟨List.mem_cons_of_mem _ ended, ?_, bound, same⟩
      rw [length, cLength_cons stop]
      omega

theorem usc2Scan_ok {size len : Nat} {input output : List Byte} (ended : 0 ∈ input)
    (room : len + 2 * cLength input ≤ output.length) :
    ∃ result, usc2Scan size input len output = .ok result := by
  induction input generalizing len output with
  | nil => cases ended
  | cons char input ih =>
    rw [usc2Scan]
    split_ifs with stop
    · exact ⟨_, rfl⟩
    · rw [cLength_cons stop] at room
      have next :
          len + [0, char].length ≤ output.length := by
        simp only [List.length_cons, List.length_nil]; omega
      have rest : (0 : Byte) ∈ input := (List.mem_cons.mp ended).resolve_left (Ne.symm stop)
      obtain ⟨result, ran⟩ := @ih (len + 2) (overwrite output len [0, char]) rest
        (by rw [overwrite_length next]; omega)
      exact ⟨result, store_store_iff.mpr ⟨next, ran⟩⟩

/-- `asc_str_to_usc2_str` needs the string's own end and room for two bytes behind the one it skips. -/
theorem ascStrToUsc2Str_spec {output input : List Byte} {result : Nat × List Byte}
    (ran : ascStrToUsc2Str output input = .ok result) :
    0 ∈ input ∧ 2 * cLength input + 5 ≤ output.length ∧ result.1 = 2 * cLength input + 2 ∧
      result.2.length = output.length := by
  obtain ⟨room, ran⟩ := (@store_store_iff _ _ output 0 0xfe 0xff _ _).mp ran
  have kept := overwrite_length (show 0 + [(0xfe : Byte), 0xff].length ≤ output.length from room)
  obtain ⟨scanned, scan, ran⟩ := bind_eq_ok_iff.mp ran
  obtain ⟨ended, length, -, same⟩ := usc2Scan_spec scan (by rw [kept]; exact room)
  rw [kept] at same
  obtain ⟨last, finished⟩ := (@store_store_iff _ _ scanned.2 (scanned.1 + 1) 0 0 _ _).mp ran
  have end_kept :=
    overwrite_length (show scanned.1 + 1 + [(0 : Byte), 0].length ≤ scanned.2.length from last)
  cases finished
  exact ⟨ended, by omega, by rw [length]; omega, end_kept.trans same⟩

theorem ascStrToUsc2Str_ok {output input : List Byte} (ended : 0 ∈ input)
    (room : 2 * cLength input + 5 ≤ output.length) :
    ∃ result, ascStrToUsc2Str output input = .ok result := by
  have start : 0 + [(0xfe : Byte), 0xff].length ≤ output.length := by
    simp only [List.length_cons, List.length_nil]
    omega
  have kept := overwrite_length start
  obtain ⟨scanned, scan⟩ :=
    @usc2Scan_ok input.length 2 input (overwrite output 0 [0xfe, 0xff]) ended
    (by rw [kept]; omega)
  obtain ⟨-, length, -, same⟩ := usc2Scan_spec scan (by rw [kept]; omega)
  have last : scanned.1 + 1 + 2 ≤ scanned.2.length := by omega
  have finished := (@store_store_iff _ _ scanned.2 (scanned.1 + 1) 0 0
    (fun output => pure (scanned.1, output)) _).mpr ⟨last, rfl⟩
  exact ⟨_, (@store_store_iff _ _ output 0 0xfe 0xff _ _).mpr
    ⟨start, bind_eq_ok_iff.mpr ⟨scanned, scan, finished⟩⟩⟩

theorem hexLoop_ok_iff {bytes output : List Byte} {i : Nat} (started : i * 2 ≤ output.length) :
    (∃ result, hexLoop bytes i output = .ok result) ↔ (i + bytes.length) * 2 ≤ output.length := by
  induction bytes generalizing i output with
  | nil => exact iff_of_true ⟨output, rfl⟩ started
  | cons byte bytes ih =>
    simp only [hexLoop, store_store_iff, List.length_cons]
    constructor
    · rintro ⟨result, room, ran⟩
      have kept :=
        overwrite_length (show i * 2 + [hexDigit (byte >>> 4), hexDigit (byte &&& 0xf)].length ≤
        output.length from room)
      have rest := (ih (by rw [kept]; omega)).mp ⟨result, ran⟩
      omega
    · intro room
      have next :
          i * 2 + [hexDigit (byte >>> 4), hexDigit (byte &&& 0xf)].length ≤ output.length := by
        simp only [List.length_cons, List.length_nil]
        omega
      have kept := overwrite_length next
      obtain ⟨result, ran⟩ := (@ih _ (i + 1) (by rw [kept]; omega)).mpr (by rw [kept]; omega)
      exact ⟨result, next, ran⟩

theorem hexOfString_ok_iff {limit : Nat} {input : List Byte} :
    (∃ result, hexOfString (.replicate limit 0) input = .ok result) ↔ HexFits limit input := by
  have room : (List.replicate 1024 (0 : Byte)).length = 1024 := List.length_replicate
  constructor
  · rintro ⟨result, ran⟩
    obtain ⟨ucs2, converted, ran⟩ := bind_eq_ok_iff.mp ran
    obtain ⟨ended, fits, length, same⟩ := ascStrToUsc2Str_spec converted
    obtain ⟨bytes, loaded, ran⟩ := bind_eq_ok_iff.mp ran
    obtain ⟨inside, rfl⟩ := load_zero_iff.mp loaded
    have digits := (hexLoop_ok_iff (by omega)).mp ⟨result, ran⟩
    rw [List.length_take_of_le inside, List.length_replicate] at digits
    exact ⟨ended, room ▸ fits, by omega⟩
  · rintro ⟨ended, fits, digits⟩
    obtain ⟨ucs2, converted⟩ :=
      @ascStrToUsc2Str_ok (.replicate 1024 0) input ended (room.symm ▸ fits)
    obtain ⟨-, -, length, same⟩ := ascStrToUsc2Str_spec converted
    have inside : ucs2.1 ≤ ucs2.2.length := by omega
    have enough :
        (0 + (ucs2.2.take ucs2.1).length) * 2 ≤ (List.replicate limit (0 : Byte)).length := by
      rw [List.length_take_of_le inside, List.length_replicate]
      omega
    obtain ⟨result, ran⟩ := (hexLoop_ok_iff (by omega)).mpr enough
    exact ⟨result, bind_eq_ok_iff.mpr ⟨_, converted,
      bind_eq_ok_iff.mpr ⟨_, load_zero_iff.mpr ⟨inside, rfl⟩, ran⟩⟩⟩

/-! ## When a whole message is read inside its objects -/

/-- Every copy went through and the offset stayed inside the buffer. -/
def DecodesInside (outcome : Except Access Handled) : Prop :=
  ∃ handled, outcome = .ok handled ∧ ∀ offset ∈ handled.offsets, 0 ≤ offset ∧ offset ≤ 9000

section Conditions

variable (env : MnldEnv) (buff : List Byte)

/-- The two strings of a notification fit their arrays and, in hexadecimal, the fields of `notify`. -/
def NotificationFits : Prop :=
  ∃ first second : Nat, intAt buff 12 = first ∧ first ≤ 1024 ∧
    intAt buff (16 + first) = second ∧ second ≤ 1024 ∧
    HexFits env.shortStringMaxlen (overwrite env.requestorId 0 (bytesAt buff 16 first)) ∧
    HexFits env.longStringMaxlen (overwrite env.clientName 0 (bytesAt buff (20 + first) second))

/-- The two strings fit the fields of `notify` they are copied to, and the datagram. -/
def Notification2Fits : Prop :=
  ∃ first second : Nat, intAt buff 12 = first ∧ first ≤ env.shortStringMaxlen ∧ first ≤ 8980 ∧
    intAt buff (16 + first) = second ∧ second ≤ env.longStringMaxlen ∧ first + second ≤ 8972

/-- The payload is not longer than the array it is copied from, and there is memory for it. -/
def NavigationFits : Prop :=
  env.gpsnavigationInit → env.eventAllocated → sizeOfInt (intAt buff 16) ≤ 40 ∧
    (env.dataAllocated ∨ sizeOfInt (intAt buff 16) = 0)

/-- What the fields of a message have to meet, by the command it carries. -/
def MessageFits : Prop :=
  match MnldCommand.ofInt (intAt buff 0) with
  | .notification => NotificationFits env buff
  | .notification2 => Notification2Fits env buff
  | .navigation => NavigationFits env buff
  | _ => True

end Conditions

section Steps

variable {buff : List Byte} {offset : Nat} (small : buff.length < 2 ^ 31)

/-- What follows a step that went through with a known result. -/
theorem decodesInside_bind_iff {β : Type} {step : Except Access β}
    {rest : β → Except Access Handled} :
    DecodesInside (step >>= rest) ↔ ∃ result, step = .ok result ∧ DecodesInside (rest result) := by
  simp only [DecodesInside, bind_eq_ok_iff]
  constructor
  · rintro ⟨handled, ⟨result, ran, success⟩, bounded⟩
    exact ⟨result, ran, handled, success, bounded⟩
  · rintro ⟨result, ran, handled, success, bounded⟩
    exact ⟨handled, ⟨result, ran, success⟩, bounded⟩

theorem decodesInside_pure_iff {handled : Handled} :
    DecodesInside (pure handled) ↔ ∀ offset ∈ handled.offsets, 0 ≤ offset ∧ offset ≤ 9000 := by
  constructor
  · rintro ⟨_, equal, bounded⟩
    cases equal
    exact bounded
  · intro bounded
    exact ⟨handled, rfl, bounded⟩

include small

theorem decodesInside_int_iff {rest : Int × Cursor → Except Access Handled} :
    DecodesInside (buffGetInt ⟨buff, offset⟩ >>= rest) ↔
      offset + 4 ≤ buff.length ∧
      DecodesInside (rest (intAt buff offset, ⟨buff, (offset + 4 : Nat)⟩)) := by
  rw [decodesInside_bind_iff]
  simp only [buffGetInt_ok_iff small]
  constructor
  · rintro ⟨result, ⟨fits, rfl⟩, decodes⟩
    exact ⟨fits, decodes⟩
  · rintro ⟨fits, decodes⟩
    exact ⟨_, ⟨fits, rfl⟩, decodes⟩

theorem decodesInside_string_iff {str : List Byte}
    {rest : (Int × List Byte) × Cursor → Except Access Handled} :
    DecodesInside (buffGetString str ⟨buff, offset⟩ >>= rest) ↔
      ∃ count : Nat, intAt buff offset = count ∧ offset + 4 + count ≤ buff.length ∧
      count ≤ str.length ∧
        DecodesInside (rest (((count : Int), overwrite str 0 (bytesAt buff (offset + 4) count)),
          ⟨buff, (offset + 4 + count : Nat)⟩)) := by
  rw [decodesInside_bind_iff]
  simp only [buffGetString_ok_iff small]
  constructor
  · rintro ⟨result, ⟨count, equal, fits, room, rfl⟩, decodes⟩
    exact ⟨count, equal, fits, room, decodes⟩
  · rintro ⟨count, equal, fits, room, decodes⟩
    exact ⟨_, ⟨count, equal, fits, room, rfl⟩, decodes⟩

theorem decodesInside_struct_iff {output : List Byte} {count : Nat} (bound : count < 2 ^ 31)
    {rest : List Byte × Cursor → Except Access Handled} :
    DecodesInside (buffGetStruct output count ⟨buff, offset⟩ >>= rest) ↔
      offset + count ≤ buff.length ∧ count ≤ output.length ∧
        DecodesInside (rest (overwrite output 0 (bytesAt buff offset count),
          ⟨buff, (offset + count : Nat)⟩)) := by
  rw [decodesInside_bind_iff]
  simp only [buffGetStruct, copyOut_natCast_iff small bound]
  constructor
  · rintro ⟨result, ⟨fits, room, rfl⟩, decodes⟩
    exact ⟨fits, room, decodes⟩
  · rintro ⟨fits, room, decodes⟩
    exact ⟨_, ⟨fits, room, rfl⟩, decodes⟩

end Steps

section Commands

variable {env : MnldEnv} {buff : List Byte} (size : buff.length = 9000)

include size

theorem handleNotification_iff :
    DecodesInside (handleNotification env ⟨buff, (4 : Nat)⟩) ↔ NotificationFits env buff := by
  have small : buff.length < 2 ^ 31 := by omega
  have firstArray := env.requestorId_length
  have secondArray := env.clientName_length
  rw [handleNotification]
  simp only [decodesInside_int_iff small, decodesInside_string_iff small]
  constructor
  · rintro ⟨-, -, first, atFirst, -, roomFirst, second, atSecond, -, roomSecond, decodes⟩
    obtain ⟨hexId, converted, decodes⟩ := decodesInside_bind_iff.mp decodes
    obtain ⟨hexText, convertedText, -⟩ := decodesInside_bind_iff.mp decodes
    have fits := hexOfString_ok_iff.mp ⟨_, converted⟩
    have fitsText := hexOfString_ok_iff.mp ⟨_, convertedText⟩
    rw [Nat.add_right_comm] at fitsText
    exact ⟨first, second, atFirst, by omega, atSecond, by omega, fits, fitsText⟩
  · rintro ⟨first, second, atFirst, roomFirst, atSecond, roomSecond, fits, fitsText⟩
    obtain ⟨hexId, converted⟩ := hexOfString_ok_iff.mpr fits
    obtain ⟨hexText, convertedText⟩ := hexOfString_ok_iff.mpr fitsText
    rw [show 20 + first = 16 + first + 4 by omega] at convertedText
    refine ⟨by omega, by omega, first, atFirst, by omega, by omega, second, atSecond, by omega, by omega, ?_⟩
    refine decodesInside_bind_iff.mpr ⟨hexId, converted, decodesInside_bind_iff.mpr ⟨hexText, convertedText, ?_⟩⟩
    rw [decodesInside_pure_iff]
    simp only [List.forall_mem_cons, List.not_mem_nil, false_implies, implies_true, and_true]
    omega

theorem handleNotification2_iff :
    DecodesInside (handleNotification2 env ⟨buff, (4 : Nat)⟩) ↔ Notification2Fits env buff := by
  have small : buff.length < 2 ^ 31 := by omega
  rw [handleNotification2]
  simp only [decodesInside_int_iff small, decodesInside_string_iff small, decodesInside_pure_iff,
    List.forall_mem_cons, List.not_mem_nil, false_implies, implies_true, and_true,
    List.length_replicate]
  constructor
  · rintro ⟨-, -, first, atFirst, fits, roomFirst, second, atSecond, fitsNext, roomSecond, -, last, -⟩
    exact ⟨first, second, atFirst, roomFirst, by omega, atSecond, roomSecond, by omega⟩
  · rintro ⟨first, second, atFirst, roomFirst, fits, atSecond, roomSecond, last⟩
    refine ⟨by omega, by omega, first, atFirst, by omega, roomFirst, second, atSecond, by omega, roomSecond, ?_⟩
    omega

theorem handleNavigation_iff :
    DecodesInside (handleNavigation env ⟨buff, (4 : Nat)⟩) ↔ NavigationFits env buff := by
  have small : buff.length < 2 ^ 31 := by omega
  rw [handleNavigation, NavigationFits]
  by_cases live : env.gpsnavigationInit ∧ env.eventAllocated
  · have taken : (bytesAt buff 4 sizeofNavigationEvent).length = sizeofNavigationEvent :=
      bytesAt_length (by rw [size]; decide)
    have event :
        overwrite (.replicate sizeofNavigationEvent 0) 0 (bytesAt buff 4 sizeofNavigationEvent) =
        bytesAt buff 4 sizeofNavigationEvent :=
      overwrite_whole (by rw [taken, List.length_replicate])
    have length :
        intOfBytes (((bytesAt buff 4 sizeofNavigationEvent).drop 12).take 4) = intAt buff 16 := by
      simp [intAt, bytesAt, sizeofNavigationEvent, List.drop_take, List.take_take]
    have data : (((bytesAt buff 4 sizeofNavigationEvent).drop 16).take 40).length = 40 := by
      simp only [List.length_take, List.length_drop, taken]
      decide
    rw [if_pos live, decodesInside_struct_iff small (by decide)]
    simp only [decodesInside_bind_iff, load_zero_iff, store_zero_iff, event, length, data,
      decodesInside_pure_iff, List.length_replicate]
    constructor
    · rintro ⟨-, -, payload, ⟨short, rfl⟩, copy, ⟨room, rfl⟩, -⟩ - -
      rw [List.length_take_of_le (data.symm ▸ short)] at room
      refine ⟨short, ?_⟩
      split_ifs at room with allocated
      · exact .inl allocated
      · exact .inr (Nat.le_zero.mp room)
    · intro fits
      obtain ⟨short, memory⟩ := fits live.1 live.2
      refine ⟨by rw [size]; decide, le_rfl, _, ⟨short, rfl⟩, _, ⟨?_, rfl⟩, ?_⟩
      · rw [List.length_take_of_le (data.symm ▸ short)]
        split_ifs with allocated
        · exact le_rfl
        · exact (memory.resolve_left allocated).le
      · simp [sizeofNavigationEvent]
  · rw [if_neg live, decodesInside_pure_iff]
    apply iff_of_true (by simp)
    intro initialised allocated
    exact absurd ⟨initialised, allocated⟩ live

/-- A command that reads fixed fields only stays inside whatever these hold. -/
theorem handleFixed_inside (command : MnldCommand)
    (fixed : command ≠ .notification ∧ command ≠ .notification2 ∧ command ≠ .navigation) :
    DecodesInside (dispatch env command ⟨buff, (4 : Nat)⟩) := by
  have small : buff.length < 2 ^ 31 := by omega
  have int : ∀ message, DecodesInside (handleInt message ⟨buff, (4 : Nat)⟩) := by
    intro message
    rw [handleInt, decodesInside_int_iff small, decodesInside_pure_iff]
    simp [size]
  cases command with
  | notification => exact absurd rfl fixed.1
  | notification2 => exact absurd rfl fixed.2.1
  | navigation => exact absurd rfl fixed.2.2
  | requestSetId | requestRefloc | gpsIcon => exact int _
  | dataConnReq =>
    simp only [dispatch, handleDataConnReq, decodesInside_int_iff small, decodesInside_pure_iff]
    simp [size]
  | dataConnReq2 =>
    have bound : sizeofSockaddrStorage < 2 ^ 31 := by decide
    simp only [dispatch, handleDataConnReq2, decodesInside_struct_iff small bound,
      decodesInside_int_iff small, decodesInside_pure_iff]
    simp [size, sizeofSockaddrStorage]
  | agpsLoc =>
    have bound : sizeofAgpsLocation < 2 ^ 31 := by decide
    simp only [dispatch, handleAgpsLoc, decodesInside_struct_iff small bound,
      decodesInside_pure_iff]
    simp [size, sizeofAgpsLocation]
  | measurement =>
    have bound : 32 * sizeofMeasurement < 2 ^ 31 := by decide
    have boundClock : sizeofClock < 2 ^ 31 := by decide
    simp only [dispatch, handleMeasurement]
    split_ifs
    · rw [decodesInside_struct_iff small bound]
      simp only [decodesInside_struct_iff small boundClock, decodesInside_pure_iff,
        List.length_replicate, List.forall_mem_cons, List.not_mem_nil, false_implies, implies_true,
        and_true, size]
      decide
    · rw [decodesInside_pure_iff]
      simp
  | dataConnRelease | updateEpoFileDone | updateEpoFileFail | gpsInjectTimeReq | gpsInjectLocationReq
  | mnlDie | unknown =>
    rw [dispatch, decodesInside_pure_iff]
    all_goals simp

theorem dispatch_iff (command : MnldCommand) (equal : MnldCommand.ofInt (intAt buff 0) = command) :
    DecodesInside (dispatch env command ⟨buff, (4 : Nat)⟩) ↔ MessageFits env buff := by
  rw [MessageFits, equal]
  cases command with
  | notification => exact handleNotification_iff size
  | notification2 => exact handleNotification2_iff size
  | navigation => exact handleNavigation_iff size
  | _ => exact iff_of_true (handleFixed_inside size _ (by decide)) trivial

end Commands

theorem Datagram.buff_length (datagram : Datagram) : datagram.buff.length = 9000 := by
  have := datagram.length_le
  simp only [Datagram.buff, List.length_append, List.length_replicate]
  omega

theorem mnldToGpsHandler_iff_dispatch (env : MnldEnv) (datagram : Datagram) :
    DecodesInside (mnldToGpsHandler env datagram) ↔
      DecodesInside (dispatch env (.ofInt (intAt datagram.buff 0)) ⟨datagram.buff, (4 : Nat)⟩) := by
  have size := datagram.buff_length
  have small : datagram.buff.length < 2 ^ 31 := by omega
  have read := @decodesInside_int_iff datagram.buff 0 small (fun type => do
    let handled ← dispatch env (.ofInt type.1) type.2
    return ⟨handled.message, type.2.offset :: handled.offsets⟩)
  apply read.trans
  rw [decodesInside_bind_iff]
  constructor
  · rintro ⟨-, handled, ran, decodes⟩
    have bounded := decodesInside_pure_iff.mp decodes
    exact ⟨handled, ran, (List.forall_mem_cons.mp bounded).2⟩
  · rintro ⟨handled, ran, bounded⟩
    refine ⟨by omega, handled, ran, decodesInside_pure_iff.mpr ?_⟩
    have four : 0 ≤ ((0 + 4 : Nat) : Int) ∧ ((0 + 4 : Nat) : Int) ≤ 9000 := by decide
    exact List.forall_mem_cons.mpr ⟨four, bounded⟩

/-- The handler stays inside the datagram and its destinations exactly when the lengths of the two
notifications and of the navigation payload fit. -/
theorem mnldToGpsHandler_decodesInside_iff (env : MnldEnv) (datagram : Datagram) :
    DecodesInside (mnldToGpsHandler env datagram) ↔ MessageFits env datagram.buff := by
  rw [mnldToGpsHandler_iff_dispatch]
  exact dispatch_iff datagram.buff_length _ rfl

/-- The strings' sizes of `hardware/gps.h`, zeroed arrays and every allocation granted. -/
def idleMnldEnv : MnldEnv where
  shortStringMaxlen := 256
  longStringMaxlen := 2048
  requestorId := .replicate 1024 0
  clientName := .replicate 1024 0
  gpsmeasurementInit := false
  gpsnavigationInit := false
  eventAllocated := true
  dataAllocated := true
  requestorId_length := List.length_replicate
  clientName_length := List.length_replicate

/-- A notification whose first string announces a length of -1. -/
def negativeLength : Datagram := ⟨intBytes 230 ++ intBytes 1 ++ intBytes 1 ++ intBytes (-1), by decide⟩

theorem mnldToGpsHandler_negativeLength_outside :
    ¬ ∀ (env : MnldEnv) (datagram : Datagram), DecodesInside (mnldToGpsHandler env datagram) := by
  intro inside
  have decodes := (mnldToGpsHandler_iff_dispatch _ _).mp (inside idleMnldEnv negativeLength)
  have command : MnldCommand.ofInt (intAt negativeLength.buff 0) = .notification := by decide
  rw [command] at decodes
  obtain ⟨first, second, atFirst, -⟩ :=
    (handleNotification_iff negativeLength.buff_length).mp decodes
  have negative : intAt negativeLength.buff 12 = -1 := by decide
  omega

end Mt6582.Gps

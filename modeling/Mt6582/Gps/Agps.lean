import Mt6582.Gps.Codec

/-! # Messages of the framework to the GPS daemon

The A-GPS interfaces forward each request of the framework as a 1024-byte datagram. Every encoder
zeroes a buffer of its own, puts the message code and its arguments and sends the whole buffer. The
strings, certificates and network-initiated messages come from the framework and have no length limit
of their own.
-/

namespace Mt6582.Gps

open Machine

/-- `AGPS_FRAMEWORK_INFO_…`, consecutive from 125. -/
inductive FrameworkInfo where
  | dataConnOpen | dataConnFailed | dataConnClosed | niMessage | niRespond | setRefLoc | setSetId
  | setServer | updateNetworkState | updateNetworkAvailability | dataConnOpenIpType
  | installCertificates | revokeCertificates
deriving DecidableEq, Repr

def FrameworkInfo.code (info : FrameworkInfo) : Int := 125 + info.ctorIdx

def mnlCmdGpsNlpLocationReq : Int := 0x4a

def nwWifi : Int := 1

/-- `char buff[1024] = {0}; int offset = 0;` -/
@[irreducible] def hal2mnld : Cursor := ⟨.replicate 1024 0, 0⟩

/-- An array of `count` objects of at least one byte each. -/
structure ObjectArray where
  count : Nat
  memory : List Byte
  count_le : count ≤ memory.length
  length_lt : memory.length < 2 ^ 32

/-- The globals `nw_connected` and `nw_type`. -/
structure Network where
  connected : Int
  type : Int
deriving DecidableEq, Repr

/-- The encoder's final offset, the datagrams it has sent in order and the value it returns. -/
structure Encoded where
  offset : Int
  datagrams : List (List Byte)
  ret : Option Int
deriving DecidableEq, Repr

/-- The empty string where the framework passes `NULL`. -/
def emptyCString : CString := ⟨[], by decide, by decide⟩

section Encoders

-- the result of `mtk_daemon_send`
variable (send : List Byte → Int)

def agpsDataConnOpen (apn : CString) : Except Access Encoded := do
  let c ← buffPutInt FrameworkInfo.dataConnOpen.code hal2mnld
  let c ← buffPutString apn c
  return ⟨c.offset, [c.buff], some 0⟩

def agpsDataConnOpenWithApnIpType (apn : CString) (apnIpType : Int) : Except Access Encoded := do
  let c ← buffPutInt FrameworkInfo.dataConnOpenIpType.code hal2mnld
  let c ← buffPutString apn c
  let c ← buffPutInt apnIpType c
  return ⟨c.offset, [c.buff], some 0⟩

def agpsSetServer (type : Int) (hostname : CString) (port : Int) : Except Access Encoded := do
  let c ← buffPutInt FrameworkInfo.setServer.code hal2mnld
  let c ← buffPutInt type c
  let c ← buffPutString hostname c
  let c ← buffPutInt port c
  return ⟨c.offset, [c.buff], some (send c.buff)⟩

/-- `agps_install_certificates` and `agps_revoke_certificates`, up to the message code: `length` counts
objects, `buff_put_struct` takes it as a number of bytes. -/
def agpsPutCertificates (info : FrameworkInfo) (objects : ObjectArray) : Except Access Encoded := do
  let c ← buffPutInt info.code hal2mnld
  let c ← buffPutInt objects.count c
  let c ← buffPutStruct objects.memory (wrap32 objects.count) c
  return ⟨c.offset, [c.buff], some (send c.buff)⟩

def agpsInstallCertificates (certificates : ObjectArray) : Except Access Encoded :=
  agpsPutCertificates send .installCertificates certificates

def agpsRevokeCertificates (fingerprints : ObjectArray) : Except Access Encoded :=
  agpsPutCertificates send .revokeCertificates fingerprints

def agpsRilSetSetId (type : Int) (setid : CString) : Except Access Encoded := do
  let c ← buffPutInt FrameworkInfo.setSetId.code hal2mnld
  let c ← buffPutInt type c
  let c ← buffPutString setid c
  return ⟨c.offset, [c.buff], none⟩

def agpsRilNiMessage (msg : Blob) : Except Access Encoded := do
  let c ← buffPutInt FrameworkInfo.niMessage.code hal2mnld
  let c ← buffPutBinary msg.bytes (wrap32 msg.bytes.length) c
  return ⟨c.offset, [c.buff], none⟩

def agpsNetworkConnectedWifiTraggerNlp : Except Access Encoded := do
  let c ← buffPutInt mnlCmdGpsNlpLocationReq hal2mnld
  return ⟨c.offset, [c.buff], none⟩

/-- The datagrams sent first: a Wi-Fi connection after none asks the daemon for a network location. -/
def wifiRequest (nw : Network) (connected type : Int) : Except Access (List (List Byte)) :=
  if nw.connected = 0 ∧ connected = 1 ∧ type = nwWifi then
    (·.datagrams) <$> agpsNetworkConnectedWifiTraggerNlp
  else pure []

def agpsRilUpdateNetworkState (nw : Network) (connected type roaming : Int) (extraInfo : Option CString) :
    Except Access (Network × Encoded) := do
  let first ← wifiRequest nw connected type
  let c ← buffPutInt FrameworkInfo.updateNetworkState.code hal2mnld
  let c ← buffPutInt connected c
  let c ← buffPutInt type c
  let c ← buffPutInt roaming c
  let c ← buffPutString (extraInfo.getD emptyCString) c
  return (⟨connected, type⟩, ⟨c.offset, first ++ [c.buff], none⟩)

def agpsRilUpdateNetworkAvailability (avaiable : Int) (apn : Option CString) : Except Access Encoded := do
  let c ← buffPutInt FrameworkInfo.updateNetworkAvailability.code hal2mnld
  let c ← buffPutInt avaiable c
  let c ← buffPutString (apn.getD emptyCString) c
  return ⟨c.offset, [c.buff], none⟩

end Encoders

/-- A request of the framework that carries data of arbitrary length. -/
inductive AgpsRequest where
  | dataConnOpen (apn : CString)
  | dataConnOpenWithApnIpType (apn : CString) (apnIpType : Int)
  | setServer (type : Int) (hostname : CString) (port : Int)
  | installCertificates (certificates : ObjectArray)
  | revokeCertificates (fingerprints : ObjectArray)
  | rilSetSetId (type : Int) (setid : CString)
  | rilNiMessage (msg : Blob)
  | rilUpdateNetworkState (connected type roaming : Int) (extraInfo : Option CString)
  | rilUpdateNetworkAvailability (avaiable : Int) (apn : Option CString)

namespace AgpsRequest

def encode (send : List Byte → Int) (nw : Network) : AgpsRequest → Except Access (Network × Encoded)
  | dataConnOpen apn => (nw, ·) <$> agpsDataConnOpen apn
  | dataConnOpenWithApnIpType apn apnIpType => (nw, ·) <$> agpsDataConnOpenWithApnIpType apn apnIpType
  | setServer type hostname port => (nw, ·) <$> agpsSetServer send type hostname port
  | installCertificates certificates => (nw, ·) <$> agpsInstallCertificates send certificates
  | revokeCertificates fingerprints => (nw, ·) <$> agpsRevokeCertificates send fingerprints
  | rilSetSetId type setid => (nw, ·) <$> agpsRilSetSetId type setid
  | rilNiMessage msg => (nw, ·) <$> agpsRilNiMessage msg
  | rilUpdateNetworkState connected type roaming extraInfo =>
      agpsRilUpdateNetworkState nw connected type roaming extraInfo
  | rilUpdateNetworkAvailability avaiable apn => (nw, ·) <$> agpsRilUpdateNetworkAvailability avaiable apn

/-- The length that still fits next to the fixed fields of the message. -/
def Fits : AgpsRequest → Prop
  | dataConnOpen apn => apn.bytes.length ≤ 1015
  | dataConnOpenWithApnIpType apn _ => apn.bytes.length ≤ 1011
  | setServer _ hostname _ => hostname.bytes.length ≤ 1007
  | installCertificates certificates => certificates.count ≤ 1016
  | revokeCertificates fingerprints => fingerprints.count ≤ 1016
  | rilSetSetId _ setid => setid.bytes.length ≤ 1011
  | rilNiMessage msg => msg.bytes.length ≤ 1016
  | rilUpdateNetworkState _ _ _ extraInfo => ∀ str ∈ extraInfo, str.bytes.length ≤ 1003
  | rilUpdateNetworkAvailability _ apn => ∀ str ∈ apn, str.bytes.length ≤ 1011

end AgpsRequest

/-- No write leaves a buffer, and the offset ends inside it. -/
def FinishesInside (outcome : Except Access (Network × Encoded)) : Prop :=
  ∃ result, outcome = .ok result ∧ result.2.offset ≤ 1024

theorem Lays.hal2mnld_iff {put : Cursor → Except Access Cursor} {bytes : List Byte} {next : Cursor}
    (laid : Lays put bytes) : put hal2mnld = .ok next ↔
      bytes.length ≤ 1024 ∧ next = ⟨overwrite (.replicate 1024 0) 0 bytes, bytes.length⟩ := by
  have size : (List.replicate 1024 (0 : Byte)).length = 1024 := List.length_replicate
  have written := laid (.replicate 1024 0) 0 next (by rw [size]; decide)
  rw [size, Nat.zero_add] at written
  rw [hal2mnld]
  exact written

/-- A message that is laid out as `bytes` and then sent stays inside exactly when these fit. -/
theorem Lays.finishesInside_iff {put : Cursor → Except Access Cursor} {bytes : List Byte}
    (laid : Lays put bytes) {finish : Cursor → Network × Encoded}
    (keeps : ∀ c, (finish c).2.offset = c.offset) :
    FinishesInside (put hal2mnld >>= fun c => pure (finish c)) ↔ bytes.length ≤ 1024 := by
  constructor
  · rintro ⟨result, success, -⟩
    obtain ⟨c, ran, -⟩ := bind_eq_ok_iff.mp success
    exact (laid.hal2mnld_iff.mp ran).1
  · intro fits
    have ran := laid.hal2mnld_iff.mpr ⟨fits, rfl⟩
    refine ⟨finish _, bind_eq_ok_iff.mpr ⟨_, ran, rfl⟩, ?_⟩
    rw [keeps]
    exact Int.ofNat_le.mpr fits

/-- The message of `agps_network_connected_wifi_tragger_nlp` is one integer, which always fits. -/
theorem wifiRequest_sent (nw : Network) (connected type : Int) :
    ∃ first, wifiRequest nw connected type = .ok first := by
  have ran := (buffPutInt_lays mnlCmdGpsNlpLocationReq).hal2mnld_iff.mpr ⟨by decide, rfl⟩
  have sent : agpsNetworkConnectedWifiTraggerNlp = .ok _ := bind_eq_ok_iff.mpr ⟨_, ran, rfl⟩
  rw [wifiRequest]
  rw [sent]
  split_ifs
  · exact ⟨_, rfl⟩
  · exact ⟨_, rfl⟩

namespace AgpsRequest

/-- The put routines an encoder calls, in order. -/
def message (request : AgpsRequest) (c : Cursor) : Except Access Cursor :=
  match request with
  | dataConnOpen apn => do
      let c ← buffPutInt FrameworkInfo.dataConnOpen.code c
      buffPutString apn c
  | dataConnOpenWithApnIpType apn apnIpType => do
      let c ← buffPutInt FrameworkInfo.dataConnOpenIpType.code c
      let c ← buffPutString apn c
      buffPutInt apnIpType c
  | setServer type hostname port => do
      let c ← buffPutInt FrameworkInfo.setServer.code c
      let c ← buffPutInt type c
      let c ← buffPutString hostname c
      buffPutInt port c
  | installCertificates certificates => do
      let c ← buffPutInt FrameworkInfo.installCertificates.code c
      let c ← buffPutInt certificates.count c
      buffPutStruct certificates.memory (wrap32 certificates.count) c
  | revokeCertificates fingerprints => do
      let c ← buffPutInt FrameworkInfo.revokeCertificates.code c
      let c ← buffPutInt fingerprints.count c
      buffPutStruct fingerprints.memory (wrap32 fingerprints.count) c
  | rilSetSetId type setid => do
      let c ← buffPutInt FrameworkInfo.setSetId.code c
      let c ← buffPutInt type c
      buffPutString setid c
  | rilNiMessage msg => do
      let c ← buffPutInt FrameworkInfo.niMessage.code c
      buffPutBinary msg.bytes (wrap32 msg.bytes.length) c
  | rilUpdateNetworkState connected type roaming extraInfo => do
      let c ← buffPutInt FrameworkInfo.updateNetworkState.code c
      let c ← buffPutInt connected c
      let c ← buffPutInt type c
      let c ← buffPutInt roaming c
      buffPutString (extraInfo.getD emptyCString) c
  | rilUpdateNetworkAvailability avaiable apn => do
      let c ← buffPutInt FrameworkInfo.updateNetworkAvailability.code c
      let c ← buffPutInt avaiable c
      buffPutString (apn.getD emptyCString) c

/-- The number of bytes of the message. -/
def size : AgpsRequest → Nat
  | dataConnOpen apn => apn.bytes.length + 9
  | dataConnOpenWithApnIpType apn _ => apn.bytes.length + 13
  | setServer _ hostname _ => hostname.bytes.length + 17
  | installCertificates certificates => certificates.count + 8
  | revokeCertificates fingerprints => fingerprints.count + 8
  | rilSetSetId _ setid => setid.bytes.length + 13
  | rilNiMessage msg => msg.bytes.length + 8
  | rilUpdateNetworkState _ _ _ extraInfo => (extraInfo.getD emptyCString).bytes.length + 21
  | rilUpdateNetworkAvailability _ apn => (apn.getD emptyCString).bytes.length + 13

theorem message_lays (request : AgpsRequest) :
    ∃ bytes, Lays request.message bytes ∧ bytes.length = request.size := by
  have int := buffPutInt_lays
  have certificates (objects : ObjectArray) := buffPutStruct_lays objects.count_le
    (objects.count_le.trans_lt objects.length_lt)
  have count (objects : ObjectArray) : (objects.memory.take objects.count).length = objects.count :=
    List.length_take_of_le objects.count_le
  cases request with
  | dataConnOpen apn =>
    refine ⟨_, (int _).bind (buffPutString_lays apn), ?_⟩
    simp only [List.length_append, intBytes_length, CString.memory_length, size]
    omega
  | dataConnOpenWithApnIpType apn apnIpType =>
    refine ⟨_, (int _).bind ((buffPutString_lays apn).bind (int _)), ?_⟩
    simp only [List.length_append, intBytes_length, CString.memory_length, size]
    omega
  | setServer type hostname port =>
    refine ⟨_, (int _).bind ((int _).bind ((buffPutString_lays hostname).bind (int _))), ?_⟩
    simp only [List.length_append, intBytes_length, CString.memory_length, size]
    omega
  | installCertificates objects | revokeCertificates objects =>
    refine ⟨_, (int _).bind ((int _).bind (certificates objects)), ?_⟩
    simp only [List.length_append, intBytes_length, count, size]
    omega
  | rilSetSetId type str | rilUpdateNetworkAvailability type str =>
    refine ⟨_, (int _).bind ((int _).bind (buffPutString_lays _)), ?_⟩
    simp only [List.length_append, intBytes_length, CString.memory_length, size]
    omega
  | rilNiMessage msg =>
    refine ⟨_, (int _).bind (buffPutBinary_lays msg), ?_⟩
    simp only [List.length_append, intBytes_length, size]
    omega
  | rilUpdateNetworkState connected type roaming extraInfo =>
    refine ⟨_, (int _).bind ((int _).bind ((int _).bind ((int _).bind (buffPutString_lays _)))), ?_⟩
    simp only [List.length_append, intBytes_length, CString.memory_length, size]
    omega

/-- An encoder puts its message into a fresh buffer and sends it. -/
theorem encode_eq_message (send : List Byte → Int) (nw : Network) (request : AgpsRequest) :
    ∃ finish : Cursor → Network × Encoded, (∀ c, (finish c).2.offset = c.offset) ∧
      request.encode send nw = request.message hal2mnld >>= fun c => pure (finish c) := by
  cases request with
  | dataConnOpen | dataConnOpenWithApnIpType =>
    refine ⟨fun c => (nw, ⟨c.offset, [c.buff], some 0⟩), fun _ => rfl, ?_⟩
    simp only [encode, agpsDataConnOpen, agpsDataConnOpenWithApnIpType, message,
      map_eq_pure_bind, bind_assoc, pure_bind]
  | setServer | installCertificates | revokeCertificates =>
    refine ⟨fun c => (nw, ⟨c.offset, [c.buff], some (send c.buff)⟩), fun _ => rfl, ?_⟩
    simp only [encode, agpsSetServer, agpsInstallCertificates, agpsRevokeCertificates,
      agpsPutCertificates, message, map_eq_pure_bind, bind_assoc, pure_bind]
  | rilSetSetId | rilNiMessage | rilUpdateNetworkAvailability =>
    refine ⟨fun c => (nw, ⟨c.offset, [c.buff], none⟩), fun _ => rfl, ?_⟩
    simp only [encode, agpsRilSetSetId, agpsRilNiMessage, agpsRilUpdateNetworkAvailability, message,
      map_eq_pure_bind, bind_assoc, pure_bind]
  | rilUpdateNetworkState connected type roaming extraInfo =>
    obtain ⟨first, sent⟩ := wifiRequest_sent nw connected type
    refine ⟨fun c => (⟨connected, type⟩, ⟨c.offset, first ++ [c.buff], none⟩), fun _ => rfl, ?_⟩
    change wifiRequest nw connected type = pure first at sent
    simp only [encode, agpsRilUpdateNetworkState, sent, message, bind_assoc, pure_bind]

theorem encode_inside_iff_size (send : List Byte → Int) (nw : Network) (request : AgpsRequest) :
    FinishesInside (request.encode send nw) ↔ request.size ≤ 1024 := by
  obtain ⟨finish, keeps, equal⟩ := request.encode_eq_message send nw
  obtain ⟨bytes, laid, length⟩ := request.message_lays
  rw [equal, laid.finishesInside_iff keeps, length]

/-- Every encoder stays inside its buffer exactly for the lengths that fit next to its fixed fields. -/
theorem encode_finishesInside_iff (send : List Byte → Int) (nw : Network) (request : AgpsRequest) :
    FinishesInside (request.encode send nw) ↔ request.Fits := by
  rw [encode_inside_iff_size]
  cases request with
  | rilUpdateNetworkState connected type roaming extraInfo =>
    cases extraInfo <;> simp [size, Fits, emptyCString]
  | rilUpdateNetworkAvailability avaiable apn =>
    cases apn <;> simp [size, Fits, emptyCString]
  | _ => simp only [size, Fits]; omega

/-- An access point name of 1016 characters ends one byte behind the buffer. -/
theorem encode_longApn_outside : ¬ ∀ (send : List Byte → Int) (nw : Network) (request : AgpsRequest),
    FinishesInside (request.encode send nw) := by
  intro inside
  have long : (List.replicate 1016 (97 : Byte)).length = 1016 := List.length_replicate
  have nulFree : (0 : Byte) ∉ List.replicate 1016 97 := by
    intro member
    exact absurd (List.eq_of_mem_replicate member) (by decide)
  have fits : (List.replicate 1016 (97 : Byte)).length + 9 ≤ 1024 :=
    (encode_inside_iff_size _ _ _).mp
    (inside (fun _ => 0) ⟨0, 0⟩ (.dataConnOpen ⟨.replicate 1016 97, nulFree, by rw [long]; decide⟩))
  rw [long] at fits
  omega

end AgpsRequest

end Mt6582.Gps

import Mt6582.Gps.Agps
import Mt6582.Machine.Format
import Mt6582.Machine.System

/-! # The datagrams of the A-GPS interfaces

Every request of the framework goes to the daemon as a message code and arguments in a fixed layout, padded to the
1024 bytes of the buffer. The layouts are formats, so each message can be told from its datagram, and a run of
requests is on the wire as the sequence of their messages. In between stands a request for a network location wherever
a connection over Wi-Fi is reported after none. Of certificates and fingerprints only part is in the message: their
number, and as many bytes of the array.
-/

namespace Mt6582.Gps

open Machine

/-- An `int`. -/
def CInt : Type := { value : Int // -2 ^ 31 ≤ value ∧ value < 2 ^ 31 }

/-- The conversion to `int`. -/
def CInt.of (value : Int) : CInt := ⟨wrap32 value, wrap32_bounds value⟩

/-- An object whose size is a `size_t`. -/
def Sized : Type := { bytes : List Byte // bytes.length < 2 ^ 32 }

section Formats

theorem intBytes_wrap32 (value : Int) : intBytes (wrap32 value) = intBytes value := by
  have same : wrap32 value % 2 ^ 32 = value % 2 ^ 32 := Int.bmod_emod
  rw [intBytes, intBytes, same]

/-- As `buff_put_int` writes it and `buff_get_int` reads it. -/
def intFormat : Format CInt Byte where
  encode value := intBytes value.val
  decode symbols :=
    if 4 ≤ symbols.length then some (CInt.of (intOfBytes symbols), symbols.drop 4) else none
  decode_encode value rest := by
    have front : 4 ≤ (intBytes value.val ++ rest).length := by
      rw [List.length_append, intBytes_length]
      omega
    have read : CInt.of (intOfBytes (intBytes value.val ++ rest)) = value := by
      rw [intOfBytes_intBytes]
      exact Subtype.ext ((congrArg wrap32 (wrap32_eq_self value.2.1 value.2.2)).trans
        (wrap32_eq_self value.2.1 value.2.2))
    rw [if_pos front, read]
    rfl

/-- As `buff_put_string`, `buff_put_binary`, and a count with `buff_put_struct` write it. -/
def sizedFormat : Format Sized Byte where
  encode object := intBytes object.val.length ++ object.val
  decode symbols :=
    let size := sizeOfInt (intOfBytes symbols)
    if room : 4 ≤ symbols.length ∧ size ≤ (symbols.drop 4).length ∧ size < 2 ^ 32 then
      some (⟨(symbols.drop 4).take size, by rw [List.length_take_of_le room.2.1]; exact room.2.2⟩,
        (symbols.drop 4).drop size)
    else none
  decode_encode object rest := by
    have size : sizeOfInt (intOfBytes (intBytes object.val.length ++ object.val ++ rest)) = object.val.length := by
      rw [List.append_assoc, intOfBytes_intBytes, sizeOfInt_wrap32 object.2]
    have tail : (intBytes object.val.length ++ object.val ++ rest).drop 4 = object.val ++ rest := by
      rw [List.append_assoc]
      rfl
    have room : 4 ≤ (intBytes object.val.length ++ object.val ++ rest).length ∧
        object.val.length ≤ (object.val ++ rest).length ∧ object.val.length < 2 ^ 32 := by
      simp only [List.length_append, intBytes_length]
      exact ⟨by omega, by omega, object.2⟩
    dsimp only
    simp only [size, tail]
    rw [dif_pos room]
    simp only [List.take_left, List.drop_left]
    rfl

/-- A structure of the given size, as `buff_put_struct` writes it. -/
def structFormat (size : Nat) : Format { bytes : List Byte // bytes.length = size } Byte where
  encode object := object.val
  decode symbols :=
    if room : size ≤ symbols.length then
      some (⟨symbols.take size, List.length_take_of_le room⟩, symbols.drop size)
    else none
  decode_encode object rest := by
    obtain ⟨bytes, rfl⟩ := object
    have room : bytes.length ≤ (bytes ++ rest).length := by
      rw [List.length_append]
      omega
    rw [dif_pos room]
    simp only [List.take_left, List.drop_left]

end Formats

section Messages

/-- The code in front of a message. -/
inductive HalCode where
  | framework (info : FrameworkInfo)
  | nlpLocationReq
deriving DecidableEq, Repr

def HalCode.code : HalCode → Int
  | framework info => info.code
  | nlpLocationReq => mnlCmdGpsNlpLocationReq

/-- All of them. -/
def halCodes : List HalCode :=
  [.framework .dataConnOpen, .framework .dataConnFailed, .framework .dataConnClosed, .framework .niMessage,
    .framework .niRespond, .framework .setRefLoc, .framework .setSetId, .framework .setServer,
    .framework .updateNetworkState, .framework .updateNetworkAvailability, .framework .dataConnOpenIpType,
    .framework .installCertificates, .framework .revokeCertificates, .nlpLocationReq]

def halCodeOf (value : CInt) : Option HalCode := halCodes.find? fun code => code.code = value.val

theorem halCodeOf_code (code : HalCode) : halCodeOf (CInt.of code.code) = some code := by
  cases code with
  | framework info => cases info <;> decide
  | nlpLocationReq => decide

def codeFormat : Format HalCode Byte := intFormat.coded (fun code => CInt.of code.code) halCodeOf halCodeOf_code

/-- The arguments of a message, where `AGpsRefLocation` has the size given. -/
def HalCode.Args (refSize : Nat) : HalCode → Type
  | framework .dataConnOpen => Sized
  | framework .dataConnOpenIpType => Sized × CInt
  | framework .dataConnFailed | framework .dataConnClosed | nlpLocationReq => PUnit
  | framework .niMessage => Sized
  | framework .niRespond => CInt × CInt
  | framework .setRefLoc => { bytes : List Byte // bytes.length = refSize } × CInt
  | framework .setSetId => CInt × Sized
  | framework .setServer => CInt × Sized × CInt
  | framework .updateNetworkState => CInt × CInt × CInt × Sized
  | framework .updateNetworkAvailability => CInt × Sized
  | framework .installCertificates | framework .revokeCertificates => Sized

def argsFormat (refSize : Nat) : (code : HalCode) → Format (code.Args refSize) Byte
  | .framework .dataConnOpen => sizedFormat
  | .framework .dataConnOpenIpType => sizedFormat.seq intFormat
  | .framework .dataConnFailed | .framework .dataConnClosed | .nlpLocationReq => .unit
  | .framework .niMessage => sizedFormat
  | .framework .niRespond => intFormat.seq intFormat
  | .framework .setRefLoc => (structFormat refSize).seq intFormat
  | .framework .setSetId => intFormat.seq sizedFormat
  | .framework .setServer => intFormat.seq (sizedFormat.seq intFormat)
  | .framework .updateNetworkState => intFormat.seq (intFormat.seq (intFormat.seq sizedFormat))
  | .framework .updateNetworkAvailability => intFormat.seq sizedFormat
  | .framework .installCertificates | .framework .revokeCertificates => sizedFormat

/-- A message to the daemon. -/
def HalMessage (refSize : Nat) : Type := (code : HalCode) × code.Args refSize

def messageFormat (refSize : Nat) : Format (HalMessage refSize) Byte := codeFormat.sigma (argsFormat refSize)

/-- The buffer that is sent for a message. -/
def HalMessage.datagram {refSize : Nat} (message : HalMessage refSize) : List Byte :=
  let bytes := (messageFormat refSize).encode message
  bytes ++ List.replicate (1024 - bytes.length) 0

/-- A datagram taken apart by the layouts of the put routines. -/
def splitDatagram (refSize : Nat) (datagram : List Byte) : Option (HalMessage refSize) :=
  ((messageFormat refSize).decode datagram).map Prod.fst

theorem splitDatagram_datagram {refSize : Nat} (message : HalMessage refSize) :
    splitDatagram refSize message.datagram = some message := by
  rw [splitDatagram, HalMessage.datagram, Format.decode_encode]
  rfl

end Messages

section Calls

variable {refSize : Nat}

def agpsDataConnClosed : Except Access Encoded := do
  let c ← buffPutInt FrameworkInfo.dataConnClosed.code hal2mnld
  return ⟨c.offset, [c.buff], some 0⟩

def agpsDataConnFailed : Except Access Encoded := do
  let c ← buffPutInt FrameworkInfo.dataConnFailed.code hal2mnld
  return ⟨c.offset, [c.buff], some 0⟩

def gpsNiRespond (notifId userResponse : Int) : Except Access Encoded := do
  let c ← buffPutInt FrameworkInfo.niRespond.code hal2mnld
  let c ← buffPutInt notifId c
  let c ← buffPutInt userResponse c
  return ⟨c.offset, [c.buff], none⟩

/-- `agps_ril_set_ref_location`; `sz_struct` is a `size_t`. -/
def agpsRilSetRefLocation (location : List Byte) (szStruct : Int) : Except Access Encoded := do
  let c ← buffPutInt FrameworkInfo.setRefLoc.code hal2mnld
  let c ← buffPutStruct location (wrap32 location.length) c
  let c ← buffPutInt szStruct c
  return ⟨c.offset, [c.buff], none⟩

namespace AgpsRequest

/-- The network after the request. -/
def network (nw : Network) : AgpsRequest → Network
  | rilUpdateNetworkState connected type _ _ => ⟨connected, type⟩
  | _ => nw

/-- The request reports a connection over Wi-Fi after none. -/
def Rises (nw : Network) : AgpsRequest → Prop
  | rilUpdateNetworkState connected type _ _ => nw.connected = 0 ∧ connected = 1 ∧ type = nwWifi
  | _ => False

instance (nw : Network) (request : AgpsRequest) : Decidable (request.Rises nw) := by
  unfold Rises
  split <;> infer_instance

/-- The datagrams before the request's own. -/
def first (nw : Network) : AgpsRequest → Except Access (List (List Byte))
  | rilUpdateNetworkState connected type _ _ => wifiRequest nw connected type
  | _ => pure []

end AgpsRequest

/-- A call of one of the interfaces; a request may also be one with certificates. -/
inductive AgpsCall (refSize : Nat) where
  | request (r : AgpsRequest)
  | dataConnClosed
  | dataConnFailed
  | niRespond (notifId userResponse : Int)
  | rilSetRefLocation (location : Blob) (size : location.bytes.length = refSize) (szStruct : Int)

namespace AgpsCall

def encode (send : List Byte → Int) (nw : Network) : AgpsCall refSize → Except Access (Network × Encoded)
  | request r => r.encode send nw
  | dataConnClosed => (nw, ·) <$> agpsDataConnClosed
  | dataConnFailed => (nw, ·) <$> agpsDataConnFailed
  | niRespond notifId userResponse => (nw, ·) <$> gpsNiRespond notifId userResponse
  | rilSetRefLocation location _ szStruct => (nw, ·) <$> agpsRilSetRefLocation location.bytes szStruct

/-- The network that the framework has reported. -/
def network (nw : Network) : AgpsCall refSize → Network
  | request r => r.network nw
  | _ => nw

/-- A call that reports a connection over Wi-Fi after none. -/
def Rises (nw : Network) : AgpsCall refSize → Prop
  | request r => r.Rises nw
  | _ => False

instance (nw : Network) (call : AgpsCall refSize) : Decidable (call.Rises nw) := by
  unfold Rises
  split <;> infer_instance

end AgpsCall

def CString.sized (str : CString) : Sized := ⟨str.memory, by rw [str.memory_length]; exact str.length_lt⟩

def Blob.sized (blob : Blob) : Sized := ⟨blob.bytes, blob.length_lt⟩

/-- What is sent of an array of objects: not the objects, but as many bytes as there are objects. -/
def ObjectArray.leading (objects : ObjectArray) : Sized :=
  ⟨objects.memory.take objects.count, by
    rw [List.length_take_of_le objects.count_le]
    exact objects.count_le.trans_lt objects.length_lt⟩

/-- The message of a request. -/
def AgpsRequest.wire (refSize : Nat) : AgpsRequest → HalMessage refSize
  | dataConnOpen apn => ⟨.framework .dataConnOpen, apn.sized⟩
  | dataConnOpenWithApnIpType apn apnIpType => ⟨.framework .dataConnOpenIpType, apn.sized, .of apnIpType⟩
  | setServer type hostname port => ⟨.framework .setServer, .of type, hostname.sized, .of port⟩
  | installCertificates certificates => ⟨.framework .installCertificates, certificates.leading⟩
  | revokeCertificates fingerprints => ⟨.framework .revokeCertificates, fingerprints.leading⟩
  | rilSetSetId type setid => ⟨.framework .setSetId, .of type, setid.sized⟩
  | rilNiMessage msg => ⟨.framework .niMessage, msg.sized⟩
  | rilUpdateNetworkState connected type roaming extraInfo =>
      ⟨.framework .updateNetworkState, .of connected, .of type, .of roaming, (extraInfo.getD emptyCString).sized⟩
  | rilUpdateNetworkAvailability avaiable apn =>
      ⟨.framework .updateNetworkAvailability, .of avaiable, (apn.getD emptyCString).sized⟩

namespace AgpsCall

/-- The message of a call. -/
def wire : AgpsCall refSize → HalMessage refSize
  | request r => r.wire refSize
  | dataConnClosed => ⟨.framework .dataConnClosed, ⟨⟩⟩
  | dataConnFailed => ⟨.framework .dataConnFailed, ⟨⟩⟩
  | niRespond notifId userResponse => ⟨.framework .niRespond, .of notifId, .of userResponse⟩
  | rilSetRefLocation location size szStruct => ⟨.framework .setRefLoc, ⟨location.bytes, size⟩, .of szStruct⟩

end AgpsCall

/-- The message of `agps_network_connected_wifi_tragger_nlp`. -/
def nlpRequest : HalMessage refSize := ⟨.nlpLocationReq, (⟨⟩ : PUnit)⟩

namespace AgpsCall

/-- What a call sends: its message, after the request for a location where the network rises. -/
def messages (nw : Network) (call : AgpsCall refSize) : List (HalMessage refSize) :=
  (if call.Rises nw then [nlpRequest] else []) ++ [call.wire]

end AgpsCall

end Calls

section Layouts

variable {refSize : Nat}

theorem buffPutInt_wire (value : Int) : Lays (buffPutInt value) (intFormat.encode (.of value)) := by
  have laid := buffPutInt_lays value
  rwa [← intBytes_wrap32] at laid

theorem codeFormat_lays (code : HalCode) : Lays (buffPutInt code.code) (codeFormat.encode code) :=
  buffPutInt_wire code.code

theorem buffPutString_wire (str : CString) : Lays (buffPutString str) (sizedFormat.encode str.sized) := by
  have laid := buffPutString_lays str
  rw [intBytes_wrap32] at laid
  have length : ((str.memory.length : Nat) : Int) = str.bytes.length + 1 := by
    rw [str.memory_length]
    rfl
  rwa [← length] at laid

theorem buffPutBinary_wire (input : Blob) :
    Lays (buffPutBinary input.bytes (wrap32 input.bytes.length)) (sizedFormat.encode input.sized) := by
  have laid := buffPutBinary_lays input
  rwa [intBytes_wrap32] at laid

/-- A count and then as many bytes. -/
theorem buffPutCertificates_wire (objects : ObjectArray) :
    Lays (fun c => buffPutInt objects.count c >>= buffPutStruct objects.memory (wrap32 objects.count))
      (sizedFormat.encode objects.leading) := by
  have laid := (buffPutInt_lays objects.count).bind
    (buffPutStruct_lays objects.count_le (objects.count_le.trans_lt objects.length_lt))
  have length : (objects.memory.take objects.count).length = objects.count :=
    List.length_take_of_le objects.count_le
  change Lays _ (intBytes ((objects.memory.take objects.count).length : Nat) ++ _)
  rwa [length]

/-- The put routines of a request lay out its message. -/
theorem AgpsRequest.message_wire (request : AgpsRequest) :
    Lays request.message ((messageFormat refSize).encode (request.wire refSize)) := by
  have code := codeFormat_lays
  have int := buffPutInt_wire
  cases request with
  | dataConnOpen apn => exact (code (.framework .dataConnOpen)).bind (buffPutString_wire apn)
  | dataConnOpenWithApnIpType apn apnIpType =>
    exact (code (.framework .dataConnOpenIpType)).bind ((buffPutString_wire apn).bind (int apnIpType))
  | setServer type hostname port =>
    exact (code (.framework .setServer)).bind ((int type).bind ((buffPutString_wire hostname).bind (int port)))
  | installCertificates objects =>
    exact (code (.framework .installCertificates)).bind (buffPutCertificates_wire objects)
  | revokeCertificates objects =>
    exact (code (.framework .revokeCertificates)).bind (buffPutCertificates_wire objects)
  | rilSetSetId type setid =>
    exact (code (.framework .setSetId)).bind ((int type).bind (buffPutString_wire setid))
  | rilNiMessage msg => exact (code (.framework .niMessage)).bind (buffPutBinary_wire msg)
  | rilUpdateNetworkState connected type roaming extraInfo =>
    exact (code (.framework .updateNetworkState)).bind
      ((int connected).bind ((int type).bind ((int roaming).bind (buffPutString_wire _))))
  | rilUpdateNetworkAvailability avaiable apn =>
    exact (code (.framework .updateNetworkAvailability)).bind ((int avaiable).bind (buffPutString_wire _))

/-- A message that goes through is sent in a buffer of its own. -/
theorem Lays.datagram {put : Cursor → Except Access Cursor} {message : HalMessage refSize} {c : Cursor}
    (laid : Lays put ((messageFormat refSize).encode message)) (ran : put hal2mnld = .ok c) :
    c.buff = message.datagram := by
  obtain ⟨fits, rfl⟩ := laid.hal2mnld_iff.mp ran
  rw [HalMessage.datagram, overwrite, List.take_zero, List.nil_append, Nat.zero_add, List.drop_replicate]

theorem nlpRequest_lays :
    Lays (buffPutInt mnlCmdGpsNlpLocationReq) ((messageFormat refSize).encode nlpRequest) := by
  have code := codeFormat_lays .nlpLocationReq
  rwa [← List.append_nil (codeFormat.encode _)] at code

/-- The request for a location goes ahead of the report of a connection over Wi-Fi after none. -/
theorem AgpsRequest.first_wire {request : AgpsRequest} {nw : Network} {first : List (List Byte)}
    (sent : request.first nw = .ok first) :
    first = (if request.Rises nw then [(nlpRequest : HalMessage refSize)] else []).map HalMessage.datagram := by
  cases request with
  | rilUpdateNetworkState connected type roaming extraInfo =>
    rw [AgpsRequest.first, wifiRequest] at sent
    split_ifs at sent with rises
    · obtain ⟨enc, ran, equal⟩ := bind_eq_ok_iff.mp sent
      obtain ⟨c, put, result⟩ := bind_eq_ok_iff.mp ran
      cases equal
      cases result
      rw [if_pos (show AgpsRequest.Rises nw (.rilUpdateNetworkState connected type roaming extraInfo) from rises)]
      exact congrArg (fun datagram => [datagram]) (nlpRequest_lays.datagram put)
    · cases sent
      rw [if_neg (show ¬ AgpsRequest.Rises nw (.rilUpdateNetworkState connected type roaming extraInfo) from rises)]
      rfl
  | _ =>
    cases sent
    simp [AgpsRequest.Rises]

end Layouts

section Runs

variable {refSize : Nat} {send : List Byte → Int} {nw next : Network} {enc : Encoded}

/-- A request sends its message in a buffer, behind what goes first. -/
theorem AgpsRequest.encode_eq_first (send : List Byte → Int) (nw : Network) (request : AgpsRequest) :
    ∃ ret : Cursor → Option Int, request.encode send nw = (do
      let first ← request.first nw
      let c ← request.message hal2mnld
      return (request.network nw, ⟨c.offset, first ++ [c.buff], ret c⟩)) := by
  cases request with
  | dataConnOpen | dataConnOpenWithApnIpType =>
    refine ⟨fun _ => some 0, ?_⟩
    simp only [encode, agpsDataConnOpen, agpsDataConnOpenWithApnIpType, message, first, network,
      map_eq_pure_bind, bind_assoc, pure_bind, List.nil_append]
  | setServer | installCertificates | revokeCertificates =>
    refine ⟨fun c => some (send c.buff), ?_⟩
    simp only [encode, agpsSetServer, agpsInstallCertificates, agpsRevokeCertificates, agpsPutCertificates,
      message, first, network, map_eq_pure_bind, bind_assoc, pure_bind, List.nil_append]
  | rilSetSetId | rilNiMessage | rilUpdateNetworkAvailability =>
    refine ⟨fun _ => none, ?_⟩
    simp only [encode, agpsRilSetSetId, agpsRilNiMessage, agpsRilUpdateNetworkAvailability, message, first,
      network, map_eq_pure_bind, bind_assoc, pure_bind, List.nil_append]
  | rilUpdateNetworkState connected type roaming extraInfo =>
    refine ⟨fun _ => none, ?_⟩
    simp only [encode, agpsRilUpdateNetworkState, message, first, network, bind_assoc]

theorem AgpsRequest.encode_messages {request : AgpsRequest} (success : request.encode send nw = .ok (next, enc)) :
    next = request.network nw ∧
      enc.datagrams = ((.request request : AgpsCall refSize).messages nw).map HalMessage.datagram := by
  obtain ⟨ret, equal⟩ := request.encode_eq_first send nw
  rw [equal] at success
  obtain ⟨first, sent, success⟩ := bind_eq_ok_iff.mp success
  obtain ⟨c, ran, success⟩ := bind_eq_ok_iff.mp success
  cases success
  refine ⟨rfl, ?_⟩
  rw [AgpsCall.messages, List.map_append, request.message_wire.datagram ran, request.first_wire sent]
  rfl

/-- A call that sends one message and leaves the network as it is. -/
private theorem plain_messages {call : AgpsCall refSize} {put : Cursor → Except Access Cursor}
    (ret : Option Int) (quiet : ¬ call.Rises nw)
    (laid : Lays put ((messageFormat refSize).encode call.wire))
    (success : (put hal2mnld >>= fun c => pure (nw, ⟨c.offset, [c.buff], ret⟩)) = .ok (next, enc)) :
    next = nw ∧ enc.datagrams = (call.messages nw).map HalMessage.datagram := by
  obtain ⟨c, put, result⟩ := bind_eq_ok_iff.mp success
  cases result
  refine ⟨rfl, ?_⟩
  rw [AgpsCall.messages, if_neg quiet, laid.datagram put]
  rfl

theorem AgpsCall.encode_messages {call : AgpsCall refSize} (success : call.encode send nw = .ok (next, enc)) :
    next = call.network nw ∧ enc.datagrams = (call.messages nw).map HalMessage.datagram := by
  have int := buffPutInt_wire
  have code := codeFormat_lays
  cases call with
  | request r => exact r.encode_messages success
  | dataConnClosed =>
    have laid := code (.framework .dataConnClosed)
    rw [← List.append_nil (codeFormat.encode _)] at laid
    change next = nw ∧ _
    refine plain_messages (some 0) id laid ?_
    simpa only [encode, HalCode.code, agpsDataConnClosed, map_eq_pure_bind, bind_assoc, pure_bind] using success
  | dataConnFailed =>
    have laid := code (.framework .dataConnFailed)
    rw [← List.append_nil (codeFormat.encode _)] at laid
    change next = nw ∧ _
    refine plain_messages (some 0) id laid ?_
    simpa only [encode, HalCode.code, agpsDataConnFailed, map_eq_pure_bind, bind_assoc, pure_bind] using success
  | niRespond notifId userResponse =>
    have laid := (code (.framework .niRespond)).bind ((int notifId).bind (int userResponse))
    change next = nw ∧ _
    refine plain_messages none id laid ?_
    simpa only [encode, gpsNiRespond, HalCode.code, map_eq_pure_bind, bind_assoc, pure_bind] using success
  | rilSetRefLocation location size szStruct =>
    have struct : Lays (buffPutStruct location.bytes (wrap32 location.bytes.length))
        ((structFormat refSize).encode ⟨location.bytes, size⟩) := by
      have laid := buffPutStruct_lays (le_refl location.bytes.length) location.length_lt
      rwa [List.take_length] at laid
    have laid := (code (.framework .setRefLoc)).bind (struct.bind (int szStruct))
    change next = nw ∧ _
    refine plain_messages none id laid ?_
    simpa only [encode, agpsRilSetRefLocation, HalCode.code, map_eq_pure_bind, bind_assoc, pure_bind] using success

/-- The calls of the framework, and the datagrams they send; a call that leaves its buffer ends the run. -/
def agpsLink (refSize : Nat) (send : List Byte → Int) : System Network (AgpsCall refSize) (List Byte) where
  step nw call :=
    match call.encode send nw with
    | .ok (next, enc) => some (next, enc.datagrams)
    | .error _ => none

/-- The network after several calls. -/
def networkAfter (nw : Network) (tape : List (AgpsCall refSize)) : Network :=
  tape.foldl (fun nw call => call.network nw) nw

theorem networkAfter_append_cons (before middle : List (AgpsCall refSize)) (call : AgpsCall refSize) :
    networkAfter nw (before ++ call :: middle) = networkAfter (call.network (networkAfter nw before)) middle := by
  rw [networkAfter, List.foldl_append]
  rfl

/-- The messages of several calls. -/
def messagesOf : Network → List (AgpsCall refSize) → List (HalMessage refSize)
  | _, [] => []
  | nw, call :: rest => call.messages nw ++ messagesOf (call.network nw) rest

theorem agpsLink_datagrams {tape : List (AgpsCall refSize)} {datagrams : List (List Byte)}
    (ran : (agpsLink refSize send).run nw tape = some (next, datagrams)) :
    next = networkAfter nw tape ∧ datagrams = (messagesOf nw tape).map HalMessage.datagram := by
  induction tape generalizing nw datagrams with
  | nil =>
    cases ran
    exact ⟨rfl, rfl⟩
  | cons call rest ih =>
    obtain ⟨middle, out, later, stepped, tail, rfl⟩ := System.run_cons_iff.mp ran
    rw [agpsLink] at stepped
    dsimp only at stepped
    split at stepped
    · next middle' enc encoded =>
      cases stepped
      obtain ⟨rfl, sent⟩ := call.encode_messages encoded
      obtain ⟨last, laterSent⟩ := ih tail
      exact ⟨last, by rw [messagesOf, List.map_append, ← sent, ← laterSent]⟩
    · cases stepped

/-- From a connection to none, some call has reported that there is none. -/
theorem exists_disconnect {tape : List (AgpsCall refSize)} (before : nw.connected ≠ 0)
    (after : (networkAfter nw tape).connected = 0) :
    ∃ type roaming extraInfo, .request (.rilUpdateNetworkState 0 type roaming extraInfo) ∈ tape := by
  induction tape generalizing nw with
  | nil => exact absurd after before
  | cons call rest ih =>
    rcases eq_or_ne (call.network nw).connected 0 with lost | kept
    · cases call with
      | request r =>
        cases r with
        | rilUpdateNetworkState connected type roaming extraInfo =>
          obtain rfl : connected = 0 := lost
          exact ⟨type, roaming, extraInfo, List.mem_cons_self⟩
        | _ => exact absurd lost before
      | _ => exact absurd lost before
    · obtain ⟨type, roaming, extraInfo, member⟩ := ih kept after
      exact ⟨type, roaming, extraInfo, List.mem_cons_of_mem _ member⟩

theorem AgpsCall.Rises.connected {call : AgpsCall refSize} (rises : call.Rises nw) :
    nw.connected = 0 ∧ (call.network nw).connected = 1 := by
  cases call with
  | request r =>
    cases r with
    | rilUpdateNetworkState connected type roaming extraInfo => exact ⟨rises.1, rises.2.1⟩
    | _ => exact absurd rises id
  | _ => exact absurd rises id

/-- Whatever the framework asks for in a run that stays inside its buffers, its datagrams taken apart are the messages
of the calls, in the order of the calls and with their arguments, where an array of certificates or fingerprints only
counts for the bytes of it that are sent. Between two requests for a location, the framework has reported that there
is no connection. -/
theorem agpsLink_wire {tape : List (AgpsCall refSize)} {datagrams : List (List Byte)}
    (ran : (agpsLink refSize send).run nw tape = some (next, datagrams)) :
    datagrams.map (splitDatagram refSize) = (messagesOf nw tape).map some ∧
    ∀ before first middle second after, tape = before ++ first :: (middle ++ second :: after) →
      first.Rises (networkAfter nw before) → second.Rises (networkAfter nw (before ++ first :: middle)) →
      ∃ type roaming extraInfo, .request (.rilUpdateNetworkState 0 type roaming extraInfo) ∈ middle := by
  refine ⟨?_, fun before first middle second after _ up again => ?_⟩
  · have read : splitDatagram refSize ∘ HalMessage.datagram = some := by
      funext message
      rw [Function.comp_apply, splitDatagram_datagram]
    rw [(agpsLink_datagrams ran).2, List.map_map, read]
  · have connected : (first.network (networkAfter nw before)).connected ≠ 0 := by
      rw [up.connected.2]
      decide
    have lost := again.connected.1
    rw [networkAfter_append_cons] at lost
    exact exists_disconnect connected lost

/-- A connection over Wi-Fi, and an identity. -/
def wifiThenIdentity : List (AgpsCall 18) :=
  [.request (.rilUpdateNetworkState 1 1 0 none), .request (.rilSetSetId 1 emptyCString)]

theorem agpsLink_wire_wifi : ∃ datagrams : List (List Byte), datagrams.map (splitDatagram 18) =
    [some nlpRequest, some (AgpsRequest.wire 18 (.rilUpdateNetworkState 1 1 0 none)),
      some (AgpsRequest.wire 18 (.rilSetSetId 1 emptyCString))] := by
  have sent (nw : Network) (r : AgpsRequest) (fits : r.size ≤ 1024) :
      ∃ next out, (agpsLink 18 fun _ => 0).step nw (.request r) = some (next, out) := by
    obtain ⟨⟨next, enc⟩, encoded, -⟩ := (r.encode_inside_iff_size (fun _ => 0) nw).mpr fits
    exact ⟨next, enc.datagrams, by simp only [agpsLink, AgpsCall.encode, encoded]⟩
  obtain ⟨middle, first, connects⟩ := sent ⟨0, 0⟩ (.rilUpdateNetworkState 1 1 0 none) (by decide)
  obtain ⟨next, second, identifies⟩ := sent middle (.rilSetSetId 1 emptyCString) (by decide)
  have ran : (agpsLink 18 fun _ => 0).run ⟨0, 0⟩ wifiThenIdentity = some (next, first ++ (second ++ [])) :=
    System.run_cons_iff.mpr ⟨middle, first, _, connects, System.run_cons_iff.mpr
      ⟨next, second, [], identifies, rfl, rfl⟩, rfl⟩
  exact ⟨_, (agpsLink_wire ran).1⟩

end Runs

end Mt6582.Gps

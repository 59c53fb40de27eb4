import Mt6582.Machine.Simulation
import Mt6582.Ril.Framing

/-! # The receiver threads

`MTKRILReceiver.run`, one thread for each instance of `MediaTekRIL`. A thread chooses a socket by the property
`gsm.3gswitch`, which may change before it connects, and then hands the messages of that connection to
`processResponse`.
Its logging and its messages refine a description that counts without overflow and knows nothing of the reads.
-/

namespace Mt6582.Ril

open Machine

section Model

/-- An element of an array; no element where Java throws. -/
def elementAt (array : List String) (index : Int) : Option String :=
  if index < 0 then none else array[index.toNat]?

def currentSim : Option Int → Int
  | none | some 0 => 0
  | some mInstanceId => mInstanceId

def m3GsimId (gsm3gswitch : Int) : Int :=
  if gsm3gswitch > 0 ∧ gsm3gswitch ≤ 2 then gsm3gswitch - 1 else 0

-- the names of the superclass
variable (socketNameRil : List String)

/-- With the capability switched, two instances swap their sockets. -/
def rilSocket (mInstanceId : Option Int) (gsm3gswitch : Int) : Option String := do
  let own ← elementAt socketNameRil (currentSim mInstanceId)
  if m3GsimId gsm3gswitch ≥ 1 then
    if currentSim mInstanceId = 0 then elementAt socketNameRil (m3GsimId gsm3gswitch)
    else if currentSim mInstanceId = m3GsimId gsm3gswitch then elementAt socketNameRil 0
    else return own
  else return own

/-- A line of the log, as an error or as information. -/
inductive Rlog where
  | e (text : String)
  | i (text : String)
deriving DecidableEq, Repr

/-- Nothing after the eighth time. -/
def couldntFind (rilSocket : String) (retryCount : BitVec 32) : Option Rlog :=
  if retryCount = 8 then
    some (.e ("Couldn't find '" ++ rilSocket ++ "' socket after " ++ toString retryCount.toInt ++
      " times, continuing to retry silently"))
  else if retryCount.toInt ≥ 0 ∧ retryCount.toInt < 8 then
    some (.i ("Couldn't find '" ++ rilSocket ++ "' socket; retrying after timeout"))
  else none

structure LocalSocket where
  rilSocket : String
  is : InputStream

/-- What `disconnected` stands for: the radio becomes unavailable, the serials start again and the list of
requests is cleared. -/
inductive ReceiverEvent where
  | retries (line : Option Rlog)
  | connected (rilSocket : String)
  | processResponse (length : Int) (p : List Byte)
  | disconnected (rilSocket : String)
  | ended
deriving DecidableEq, Repr

/-- `address` is the name that this round of the loop has chosen and has not tried yet. -/
structure MTKRILReceiver where
  buffer : List Byte := List.replicate rilMaxCommandBytes 0
  retryCount : BitVec 32 := 0
  address : Option String := none
  mSocket : Option LocalSocket := none
  alive : Bool := true

namespace MTKRILReceiver

/-- The loop up to the address. -/
def chooseSocket (mInstanceId : Option Int) (gsm3gswitch : Int) (receiver : MTKRILReceiver) :
    Option (MTKRILReceiver × List ReceiverEvent) :=
  if !receiver.alive ∨ receiver.address.isSome ∨ receiver.mSocket.isSome then none
  else match rilSocket socketNameRil mInstanceId gsm3gswitch with
    | none => some ({ receiver with alive := false }, [.ended])
    | some rilSocket => some ({ receiver with address := some rilSocket }, [])

/-- The connection, or around once more. -/
def connect (connection : Option InputStream) (receiver : MTKRILReceiver) :
    Option (MTKRILReceiver × List ReceiverEvent) :=
  receiver.address.map fun rilSocket =>
    match connection with
    | none =>
        ({ receiver with address := none, retryCount := receiver.retryCount + 1 },
          [.retries (couldntFind rilSocket receiver.retryCount)])
    | some is =>
        ({ receiver with address := none, retryCount := 0, mSocket := some ⟨rilSocket, is⟩ },
          [.connected rilSocket])

def disconnect (rilSocket : String) (receiver : MTKRILReceiver) : MTKRILReceiver × List ReceiverEvent :=
  ({ receiver with mSocket := none }, [.disconnected rilSocket])

/-- One message. What `processResponse` throws ends the connection, as a fault of the read does. -/
def readMessage (throws : Bool) (receiver : MTKRILReceiver) :
    Option (MTKRILReceiver × List ReceiverEvent) :=
  receiver.mSocket.map fun socket =>
    match readRilMessage socket.is receiver.buffer with
    | .error _ => receiver.disconnect socket.rilSocket
    | .ok (length, buffer, is) =>
        let receiver := { receiver with buffer := buffer }
        if length < 0 then receiver.disconnect socket.rilSocket
        else
          let response := .processResponse length (buffer.take length.toNat)
          if throws then
            let (receiver, events) := receiver.disconnect socket.rilSocket
            (receiver, response :: events)
          else ({ receiver with mSocket := some { socket with is := is } }, [response])

end MTKRILReceiver

/-- The threads and the property. -/
structure Receivers (ι : Type*) where
  gsm3gswitch : Int
  receiver : ι → MTKRILReceiver

/-- `connect` tells what the connection will give, if there is one. -/
inductive ReceiverAction (ι : Type*) where
  | setProperty (gsm3gswitch : Int)
  | chooseSocket (i : ι)
  | connect (i : ι) (connection : Option InputStream)
  | readMessage (i : ι) (throws : Bool)

variable {ι : Type*} [DecidableEq ι] (mInstanceId : ι → Option Int)

def receivers : System (Receivers ι) (ReceiverAction ι) (ι × ReceiverEvent) where
  step s
    | .setProperty value => some ({ s with gsm3gswitch := value }, [])
    | .chooseSocket i =>
        ((s.receiver i).chooseSocket socketNameRil (mInstanceId i) s.gsm3gswitch).map fun (receiver, events) =>
          ({ s with receiver := Function.update s.receiver i receiver }, events.map (i, ·))
    | .connect i connection =>
        ((s.receiver i).connect connection).map fun (receiver, events) =>
          ({ s with receiver := Function.update s.receiver i receiver }, events.map (i, ·))
    | .readMessage i throws =>
        ((s.receiver i).readMessage throws).map fun (receiver, events) =>
          ({ s with receiver := Function.update s.receiver i receiver }, events.map (i, ·))

def Receivers.initial (gsm3gswitch : Int) : Receivers ι := ⟨gsm3gswitch, fun _ => {}⟩

end Model

/-! ## What the threads are for -/

section Links

/-- The messages a stream has to give: those in front of the first frame that is cut off or claims a length which
does not fit. -/
def messagesIn (bytes : List Byte) : List (List Byte) :=
  if _ : 4 ≤ bytes.length ∧ 0 ≤ messageLength bytes ∧ messageLength bytes ≤ rilMaxCommandBytes ∧
      messageLength bytes ≤ (bytes.drop 4).length then
    (bytes.drop 4).take (messageLength bytes).toNat :: messagesIn ((bytes.drop 4).drop (messageLength bytes).toNat)
  else []
termination_by bytes.length
decreasing_by
  simp only [List.length_drop]
  omega

/-- One thread: how often in a row it failed to connect, and where it tries next; or what there is to receive. -/
inductive Link where
  | searching (failures : Nat)
  | chosen (failures : Nat) (rilSocket : String)
  | connected (rilSocket : String) (messages : List (List Byte))
  | ended

/-- Eight lines of information, then an error; all over again after `2 ^ 32` failures. -/
def complaint (rilSocket : String) (failures : Nat) : Option Rlog :=
  if failures % 2 ^ 32 < 8 then some (.i ("Couldn't find '" ++ rilSocket ++ "' socket; retrying after timeout"))
  else if failures % 2 ^ 32 = 8 then
    some (.e ("Couldn't find '" ++ rilSocket ++ "' socket after 8 times, continuing to retry silently"))
  else none

variable (socketNameRil : List String)

def Link.chooseSocket (mInstanceId : Option Int) (gsm3gswitch : Int) : Link → Option (Link × List ReceiverEvent)
  | .searching failures =>
      match rilSocket socketNameRil mInstanceId gsm3gswitch with
      | none => some (.ended, [.ended])
      | some rilSocket => some (.chosen failures rilSocket, [])
  | _ => none

def Link.connect (connection : Option InputStream) : Link → Option (Link × List ReceiverEvent)
  | .chosen failures rilSocket =>
      match connection with
      | none => some (.searching (failures + 1), [.retries (complaint rilSocket failures)])
      | some is => some (.connected rilSocket (messagesIn is.rest), [.connected rilSocket])
  | _ => none

def Link.readMessage (throws : Bool) : Link → Option (Link × List ReceiverEvent)
  | .connected rilSocket [] => some (.searching 0, [.disconnected rilSocket])
  | .connected rilSocket (message :: messages) =>
      some (if throws then (.searching 0, [.processResponse message.length message, .disconnected rilSocket])
        else (.connected rilSocket messages, [.processResponse message.length message]))
  | _ => none

structure Links (ι : Type*) where
  gsm3gswitch : Int
  link : ι → Link

variable {ι : Type*} [DecidableEq ι] (mInstanceId : ι → Option Int)

def links : System (Links ι) (ReceiverAction ι) (ι × ReceiverEvent) where
  step s
    | .setProperty value => some ({ s with gsm3gswitch := value }, [])
    | .chooseSocket i =>
        ((s.link i).chooseSocket socketNameRil (mInstanceId i) s.gsm3gswitch).map fun (link, events) =>
          ({ s with link := Function.update s.link i link }, events.map (i, ·))
    | .connect i connection =>
        ((s.link i).connect connection).map fun (link, events) =>
          ({ s with link := Function.update s.link i link }, events.map (i, ·))
    | .readMessage i throws =>
        ((s.link i).readMessage throws).map fun (link, events) =>
          ({ s with link := Function.update s.link i link }, events.map (i, ·))

def Links.initial (gsm3gswitch : Int) : Links ι := ⟨gsm3gswitch, fun _ => .searching 0⟩

end Links

/-! ## The bytes -/

section Bytes

variable {is next : InputStream} {buffer after : List Byte} {offset remaining : Int} {filled : Bool}

theorem fill_keeps_length (success : fill is buffer offset remaining = .ok (filled, after, next)) :
    after.length = buffer.length := by
  have read_length {is next : InputStream} {buffer after : List Byte} {offset remaining count : Int}
      (gave : is.read buffer offset remaining = .ok (count, after, next)) :
      after.length = buffer.length := by
    rw [InputStream.read] at gave
    dsimp only at gave
    split_ifs at gave with outside none ended <;> cases gave
    · rfl
    · rfl
    · apply overwrite_length
      rw [List.length_take]
      have left : 0 < is.rest.length := List.length_pos_iff.mpr ended
      omega
  fun_induction fill is buffer offset remaining with
  | case1 => cases success
  | case2 is buffer offset remaining count middle stream gave given =>
    cases success
    exact read_length gave
  | case3 is buffer offset remaining count middle stream gave given more _ ih =>
    exact (ih success).trans (read_length gave)
  | case4 is buffer offset remaining count middle stream gave given done =>
    cases success
    exact read_length gave

theorem fill_of_fault {fault : Fault} (failed : is.read buffer offset remaining = .error fault) :
    fill is buffer offset remaining = .error fault := by
  rw [fill]
  split
  · next same => exact congrArg Except.error (Except.error.inj (same.symm.trans failed))
  · next gave => cases failed.symm.trans gave

theorem messageLength_front {bytes : List Byte} (enough : 4 ≤ bytes.length) (rest : List Byte) :
    messageLength (bytes.take 4 ++ rest) = messageLength bytes := by
  match bytes, enough with
  | _ :: _ :: _ :: _ :: _, _ => rfl

theorem messagesIn_of_whole {bytes : List Byte} {length : Nat} (enough : 4 ≤ bytes.length)
    (states : messageLength bytes = length) (fits : length ≤ rilMaxCommandBytes)
    (present : length ≤ (bytes.drop 4).length) :
    messagesIn bytes = (bytes.drop 4).take length :: messagesIn ((bytes.drop 4).drop length) := by
  rw [messagesIn, dif_pos ⟨enough, by omega, by omega, by omega⟩, states, Int.toNat_natCast]

/-- What a call returns is decided by the bytes of the stream, however the reads split them. -/
theorem readRilMessage_spec (is : InputStream) {buffer : List Byte} (size : buffer.length = rilMaxCommandBytes) :
    (∃ message left next, messagesIn is.rest = message :: messagesIn next.rest ∧
        readRilMessage is buffer = .ok ((message.length : Int), left, next) ∧
        left.length = rilMaxCommandBytes ∧ left.take message.length = message) ∨
      messagesIn is.rest = [] ∧
        ((∃ fault, readRilMessage is buffer = .error fault) ∨
          ∃ left next, readRilMessage is buffer = .ok (-1, left, next) ∧ left.length = rilMaxCommandBytes) := by
  have room : 0 + 4 ≤ buffer.length := by
    rw [size]
    decide
  rcases Nat.lt_or_ge is.rest.length 4 with short | enough
  · obtain ⟨left, next, ended⟩ := @fill_cut is buffer 0 4 room short
    refine .inr ⟨by rw [messagesIn, dif_neg (by omega)], .inr ⟨left, next, ?_, (fill_keeps_length ended).trans size⟩⟩
    have first : fill is buffer 0 4 = .ok (false, left, next) := ended
    rw [readRilMessage, first]
  obtain ⟨reads, lengthRead⟩ := @fill_complete is buffer 0 4 room enough
  have first : fill is buffer 0 4 = .ok (true, overwrite buffer 0 (is.rest.take 4),
      { is with rest := is.rest.drop 4, reads := reads }) := lengthRead
  have middleSize := (fill_keeps_length first).trans size
  have states : messageLength (overwrite buffer 0 (is.rest.take 4)) = messageLength is.rest := by
    rw [overwrite, List.take_zero, List.nil_append]
    exact messageLength_front enough _
  rw [readRilMessage, first]
  dsimp only
  rw [states]
  generalize overwrite buffer 0 (is.rest.take 4) = middle at middleSize
  let rest : InputStream := { is with rest := is.rest.drop 4, reads := reads }
  by_cases fits : 0 ≤ messageLength is.rest ∧ messageLength is.rest ≤ rilMaxCommandBytes
  · obtain ⟨length, states⟩ := Int.eq_ofNat_of_zero_le fits.1
    rw [states] at fits ⊢
    have small : length ≤ rilMaxCommandBytes := by omega
    rcases Nat.lt_or_ge (is.rest.drop 4).length length with short | present
    · obtain ⟨left, next, ended⟩ := @fill_cut rest middle 0 length (by omega) short
      rw [Int.natCast_zero] at ended
      refine .inr ⟨by rw [messagesIn, dif_neg (by omega)],
        .inr ⟨left, next, ?_, (fill_keeps_length ended).trans middleSize⟩⟩
      rw [ended]
    · obtain ⟨second, payloadRead⟩ := @fill_complete rest middle 0 length (by omega) present
      rw [Int.natCast_zero] at payloadRead
      have taken : ((is.rest.drop 4).take length).length = length := List.length_take_of_le present
      refine .inl ⟨(is.rest.drop 4).take length, _, ⟨(is.rest.drop 4).drop length, is.split, second⟩,
        messagesIn_of_whole enough states small present, ?_,
        (fill_keeps_length payloadRead).trans middleSize, ?_⟩
      · rw [payloadRead, taken]
      · rw [taken, overwrite, List.take_zero, List.nil_append, taken]
        exact List.take_left' taken
  · refine .inr ⟨by rw [messagesIn, dif_neg (by omega)], .inl ⟨.indexOutOfBounds, ?_⟩⟩
    have outside : rest.read middle 0 (messageLength is.rest) = .error .indexOutOfBounds := by
      rw [InputStream.read, if_pos (by omega)]
    rw [fill_of_fault outside]

end Bytes

/-! ## The threads are such links -/

section Follows

variable {socketNameRil : List String} {id : Option Int} {receiver : MTKRILReceiver} {link : Link}

inductive Follows : MTKRILReceiver → Link → Prop
  | searching {buffer : List Byte} (size : buffer.length = rilMaxCommandBytes) (failures : Nat) :
      Follows ⟨buffer, BitVec.ofNat 32 failures, none, none, true⟩ (.searching failures)
  | chosen {buffer : List Byte} (size : buffer.length = rilMaxCommandBytes) (failures : Nat) (rilSocket : String) :
      Follows ⟨buffer, BitVec.ofNat 32 failures, some rilSocket, none, true⟩ (.chosen failures rilSocket)
  | connected {buffer : List Byte} (size : buffer.length = rilMaxCommandBytes) (rilSocket : String)
      (is : InputStream) :
      Follows ⟨buffer, 0, none, some ⟨rilSocket, is⟩, true⟩ (.connected rilSocket (messagesIn is.rest))
  | ended {buffer : List Byte} {retryCount : BitVec 32} : Follows ⟨buffer, retryCount, none, none, false⟩ .ended

/-- The states follow each other and the events are the same. -/
def Alike (low : MTKRILReceiver × List ReceiverEvent) (high : Link × List ReceiverEvent) : Prop :=
  Follows low.1 high.1 ∧ low.2 = high.2

/-- `retryCount` overflows, and the lines start again when it is back at zero. -/
theorem couldntFind_eq (rilSocket : String) (failures : Nat) :
    couldntFind rilSocket (BitVec.ofNat 32 failures) = complaint rilSocket failures := by
  have value : (BitVec.ofNat 32 failures).toNat = failures % 2 ^ 32 := BitVec.toNat_ofNat failures 32
  have signed := @BitVec.toInt_eq_toNat_cond 32 (BitVec.ofNat 32 failures)
  have small := Nat.mod_lt failures (Nat.two_pow_pos 32)
  rw [value] at signed
  have eighth : BitVec.ofNat 32 failures = 8 ↔ failures % 2 ^ 32 = 8 := by
    rw [← BitVec.toNat_inj, value]
    rfl
  rw [couldntFind, complaint]
  rcases Nat.lt_trichotomy (failures % 2 ^ 32) 8 with early | here | late
  · rw [if_neg (by rw [eighth]; omega), if_pos, if_pos early]
    split_ifs at signed <;> omega
  · rw [if_pos (eighth.mpr here), if_neg (by omega), if_pos here, eighth.mpr here]
    simp only [String.append_assoc]
    rfl
  · rw [if_neg (by rw [eighth]; omega), if_neg, if_neg (by omega), if_neg (by omega)]
    split_ifs at signed <;> omega

theorem Follows.chooseSocket (follows : Follows receiver link) (gsm3gswitch : Int) :
    Option.Rel Alike (receiver.chooseSocket socketNameRil id gsm3gswitch)
      (link.chooseSocket socketNameRil id gsm3gswitch) := by
  cases follows with
  | searching size failures =>
    rw [MTKRILReceiver.chooseSocket, Link.chooseSocket, if_neg (by simp)]
    cases rilSocket socketNameRil id gsm3gswitch with
    | none => exact .some ⟨.ended, rfl⟩
    | some rilSocket => exact .some ⟨.chosen size failures rilSocket, rfl⟩
  | chosen => exact .none
  | connected => exact .none
  | ended => exact .none

theorem Follows.connect (follows : Follows receiver link) (connection : Option InputStream) :
    Option.Rel Alike (receiver.connect connection) (link.connect connection) := by
  cases follows with
  | searching => exact .none
  | connected => exact .none
  | ended => exact .none
  | chosen size failures rilSocket =>
    rw [MTKRILReceiver.connect, Option.map_some]
    cases connection with
    | none =>
      have counted : BitVec.ofNat 32 failures + 1 = BitVec.ofNat 32 (failures + 1) :=
        (BitVec.ofNat_add failures 1).symm
      dsimp only
      rw [couldntFind_eq, counted]
      exact .some ⟨.searching size (failures + 1), rfl⟩
    | some is => exact .some ⟨.connected size rilSocket is, rfl⟩

theorem Follows.readMessage (follows : Follows receiver link) (throws : Bool) :
    Option.Rel Alike (receiver.readMessage throws) (link.readMessage throws) := by
  cases follows with
  | searching => exact .none
  | chosen => exact .none
  | ended => exact .none
  | @connected buffer size rilSocket is =>
    rw [MTKRILReceiver.readMessage, Option.map_some]
    rcases readRilMessage_spec is size with ⟨message, left, next, messages, read, leftSize, payload⟩ |
      ⟨messages, ⟨fault, failed⟩ | ⟨left, next, ended, leftSize⟩⟩
    · rw [read, messages]
      dsimp only
      rw [if_neg (by omega), Int.toNat_natCast, payload]
      cases throws with
      | false => exact .some ⟨.connected leftSize rilSocket next, rfl⟩
      | true => exact .some ⟨.searching leftSize 0, rfl⟩
    · rw [failed, messages]
      exact .some ⟨.searching size 0, rfl⟩
    · rw [ended, messages]
      exact .some ⟨.searching leftSize 0, rfl⟩

variable {ι : Type*} [DecidableEq ι]

theorem Follows.update {low : ι → MTKRILReceiver} {high : ι → Link} (all : ∀ i, Follows (low i) (high i))
    (i : ι) {receiver : Option (MTKRILReceiver × List ReceiverEvent)} {link : Option (Link × List ReceiverEvent)}
    (alike : Option.Rel Alike receiver link) (gsm3gswitch : Int) :
    Option.Rel (fun next next' => (next.1.gsm3gswitch = next'.1.gsm3gswitch ∧
        ∀ i, Follows (next.1.receiver i) (next'.1.link i)) ∧ next.2 = next'.2)
      (receiver.map fun next => ((⟨gsm3gswitch, Function.update low i next.1⟩ : Receivers ι), next.2.map (i, ·)))
      (link.map fun next => ((⟨gsm3gswitch, Function.update high i next.1⟩ : Links ι), next.2.map (i, ·))) := by
  cases alike with
  | none => exact .none
  | some both =>
    refine .some ⟨⟨rfl, fun j => ?_⟩, by simp only [both.2]⟩
    rcases eq_or_ne j i with rfl | other
    · simpa only [Function.update_self] using both.1
    · simpa only [Function.update_of_ne other] using all j

theorem receivers_lockStep (socketNameRil : List String) (mInstanceId : ι → Option Int) :
    (receivers socketNameRil mInstanceId).LockStep (links socketNameRil mInstanceId) fun s s' =>
      s.gsm3gswitch = s'.gsm3gswitch ∧ ∀ i, Follows (s.receiver i) (s'.link i) := by
  rintro ⟨gsm3gswitch, low⟩ ⟨-, high⟩ a ⟨rfl, all⟩
  cases a with
  | setProperty value => exact .some ⟨⟨rfl, all⟩, rfl⟩
  | chooseSocket i => exact Follows.update all i ((all i).chooseSocket gsm3gswitch) gsm3gswitch
  | connect i connection => exact Follows.update all i ((all i).connect connection) gsm3gswitch
  | readMessage i throws => exact Follows.update all i ((all i).readMessage throws) gsm3gswitch

/-- In any interleaving of the threads, a thread hands over the messages of its own stream in their order and none of
an earlier one, and complains as described. -/
theorem receivers_eq_links (socketNameRil : List String) (mInstanceId : ι → Option Int) (gsm3gswitch : Int)
    (tape : List (ReceiverAction ι)) :
    ((receivers socketNameRil mInstanceId).run (.initial gsm3gswitch) tape).map Prod.snd =
      ((links socketNameRil mInstanceId).run (.initial gsm3gswitch) tape).map Prod.snd := by
  refine (receivers_lockStep socketNameRil mInstanceId).observations ⟨rfl, fun i => ?_⟩ tape
  exact .searching List.length_replicate 0

end Follows

/-! ## One socket, one thread -/

section Sockets

variable {socketNameRil : List String}

/-- The index of the name that is chosen. -/
def slot (sim m3GsimId : Int) : Int :=
  if m3GsimId = 1 ∧ sim = 0 then 1 else if m3GsimId = 1 ∧ sim = 1 then 0 else sim

theorem m3GsimId_cases (gsm3gswitch : Int) : m3GsimId gsm3gswitch = 0 ∨ m3GsimId gsm3gswitch = 1 := by
  rw [m3GsimId]
  split_ifs <;> omega

theorem slot_inj {sim other m3GsimId : Int} (same : slot sim m3GsimId = slot other m3GsimId) : sim = other := by
  simp only [slot] at same
  split_ifs at same <;> omega

/-- Before the switch one of the two has the name that the other has after it. -/
theorem slot_other {sim other before after : Int} (differ : before ≠ after) (first : before = 0 ∨ before = 1)
    (second : after = 0 ∨ after = 1) (pair : sim = 0 ∧ other = 1 ∨ sim = 1 ∧ other = 0) :
    slot sim before = slot other after := by
  simp only [slot]
  split_ifs <;> omega

theorem elementAt_inj {i j : Int} {name : String} (nodup : socketNameRil.Nodup)
    (first : elementAt socketNameRil i = some name) (second : elementAt socketNameRil j = some name) : i = j := by
  rw [elementAt] at first second
  split_ifs at first second with negative negative'
  have same := (List.getElem?_inj (List.getElem?_eq_some_iff.mp first).1 nodup).mp (first.trans second.symm)
  omega

theorem elementAt_inside {i : Int} (inside : 0 ≤ i ∧ i < socketNameRil.length) :
    ∃ name, elementAt socketNameRil i = some name := by
  rw [elementAt, if_neg (by omega)]
  exact ⟨_, List.getElem?_eq_getElem (by omega)⟩

theorem rilSocket_eq {id : Option Int} (inside : 0 ≤ currentSim id ∧ currentSim id < socketNameRil.length)
    (gsm3gswitch : Int) :
    rilSocket socketNameRil id gsm3gswitch =
      elementAt socketNameRil (slot (currentSim id) (m3GsimId gsm3gswitch)) := by
  obtain ⟨own, found⟩ := elementAt_inside inside
  rw [rilSocket, found, slot]
  rcases m3GsimId_cases gsm3gswitch with zero | one
  · rw [zero]
    simp [found]
  · rw [one]
    by_cases first : currentSim id = 0
    · simp [first]
    by_cases second : currentSim id = 1
    · simp [second]
    · simp [first, second, found]

end Sockets

section Steps

variable {socketNameRil : List String} {id : Option Int} {receiver next : MTKRILReceiver} {out : List ReceiverEvent}
  {gsm3gswitch : Int}

/-- The thread is about to connect to a socket, or is connected to it. -/
def MTKRILReceiver.Holds (receiver : MTKRILReceiver) (name : String) : Prop :=
  receiver.address = some name ∨ ∃ is, receiver.mSocket = some ⟨name, is⟩

theorem MTKRILReceiver.exists_holds (busy : ¬ (receiver.address = none ∧ receiver.mSocket = none)) :
    ∃ name, receiver.Holds name := by
  cases chosen : receiver.address with
  | some name => exact ⟨name, .inl chosen⟩
  | none =>
    cases connected : receiver.mSocket with
    | some socket => exact ⟨socket.rilSocket, .inr ⟨socket.is, connected⟩⟩
    | none => exact absurd ⟨chosen, connected⟩ busy

/-- The thread is at the top of its loop. -/
structure MTKRILReceiver.Free (receiver : MTKRILReceiver) : Prop where
  alive : receiver.alive = true
  address : receiver.address = none
  mSocket : receiver.mSocket = none

theorem chooseSocket_holds {name : String} (chosen : rilSocket socketNameRil id gsm3gswitch = some name)
    (stepped : receiver.chooseSocket socketNameRil id gsm3gswitch = some (next, out)) :
    next.alive = true ∧ ∀ held, next.Holds held → held = name := by
  rw [MTKRILReceiver.chooseSocket, chosen] at stepped
  split_ifs at stepped with busy
  simp only [Bool.not_eq_true', not_or, Bool.not_eq_false, Option.not_isSome_iff_eq_none] at busy
  cases stepped
  refine ⟨busy.1, ?_⟩
  rintro held (address | ⟨is, connected⟩)
  · exact (Option.some.inj address).symm
  · exact absurd (busy.2.2.symm.trans connected) nofun

theorem connect_holds {connection : Option InputStream}
    (stepped : receiver.connect connection = some (next, out)) :
    next.alive = receiver.alive ∧ ∀ name, next.Holds name → receiver.Holds name := by
  obtain ⟨address, chosen, equal⟩ := Option.map_eq_some_iff.mp stepped
  cases connection with
  | none =>
    cases equal
    refine ⟨rfl, ?_⟩
    rintro name (none | connected)
    · cases none
    · exact .inr connected
  | some stream =>
    cases equal
    refine ⟨rfl, ?_⟩
    rintro name (none | ⟨is, connected⟩)
    · cases none
    · cases connected
      exact .inl chosen

/-- A message leaves the connection as it is, or ends it. -/
theorem readMessage_holds {throws : Bool} (stepped : receiver.readMessage throws = some (next, out)) :
    next.alive = receiver.alive ∧ next.address = receiver.address ∧ (throws = true → next.mSocket = none) ∧
      ∀ name, next.Holds name → receiver.Holds name := by
  obtain ⟨⟨rilSocket, is⟩, connected, equal⟩ := Option.map_eq_some_iff.mp stepped
  have closed (none : next.mSocket = none) (same : next.address = receiver.address) :
      ∀ name, next.Holds name → receiver.Holds name := by
    rintro name (address | ⟨is, connected⟩)
    · exact .inl (same ▸ address)
    · exact absurd (none.symm.trans connected) nofun
  split at equal
  · cases equal
    exact ⟨rfl, rfl, fun _ => rfl, closed rfl rfl⟩
  · dsimp only at equal
    split_ifs at equal with ended thrown <;> cases equal
    · exact ⟨rfl, rfl, fun _ => rfl, closed rfl rfl⟩
    · exact ⟨rfl, rfl, fun _ => rfl, closed rfl rfl⟩
    · refine ⟨rfl, rfl, fun throws => absurd throws thrown, ?_⟩
      rintro name (address | ⟨next, still⟩)
      · exact .inl address
      · cases still
        exact .inr ⟨is, connected⟩

/-- Whatever is read, the connection can end. -/
theorem exists_readMessage {socket : LocalSocket} (connected : receiver.mSocket = some socket) :
    ∃ next out, receiver.readMessage true = some (next, out) := by
  rw [MTKRILReceiver.readMessage, connected]
  exact ⟨_, _, rfl⟩

end Steps

section Exclusive

variable {ι : Type*} {socketNameRil : List String} {mInstanceId : ι → Option Int}

/-- No two threads are connected to one socket. -/
def Receivers.Exclusive (s : Receivers ι) : Prop :=
  ∀ i j first second, (s.receiver i).mSocket = some first → (s.receiver j).mSocket = some second →
    first.rilSocket = second.rilSocket → i = j

/-- One instance for each of some SIMs, SIM 1 and SIM 2 among them, and different names for their sockets. -/
structure Instances (socketNameRil : List String) (mInstanceId : ι → Option Int) : Prop where
  nodup : socketNameRil.Nodup
  inside : ∀ i, 0 ≤ currentSim (mInstanceId i) ∧ currentSim (mInstanceId i) < socketNameRil.length
  distinct : ∀ i j, currentSim (mInstanceId i) = currentSim (mInstanceId j) → i = j
  two : ∃ i j, currentSim (mInstanceId i) = 0 ∧ currentSim (mInstanceId j) = 1

/-- While an instance that swaps its socket is connected, or has chosen what to connect to, the property goes on
selecting the same SIM. -/
def SwitchesApart (mInstanceId : ι → Option Int) (s : Receivers ι) : ReceiverAction ι → Prop
  | .setProperty value => m3GsimId value = m3GsimId s.gsm3gswitch ∨
      ∀ i, currentSim (mInstanceId i) ≤ 1 → (s.receiver i).address = none ∧ (s.receiver i).mSocket = none
  | _ => True

/-- The sockets are the ones that the property would have chosen now. -/
structure Receivers.Matches (socketNameRil : List String) (mInstanceId : ι → Option Int) (s : Receivers ι) : Prop where
  alive : ∀ i, (s.receiver i).alive = true
  holds : ∀ i name, (s.receiver i).Holds name → rilSocket socketNameRil (mInstanceId i) s.gsm3gswitch = some name

variable {s : Receivers ι}

theorem Instances.chosen (instances : Instances socketNameRil mInstanceId) (i : ι) (gsm3gswitch : Int) :
    ∃ name, rilSocket socketNameRil (mInstanceId i) gsm3gswitch = some name := by
  obtain ⟨first, second, -, one⟩ := instances.two
  have room := (instances.inside second).2
  have inside := instances.inside i
  rw [rilSocket_eq inside]
  apply elementAt_inside
  rw [slot]
  split_ifs <;> omega

theorem Receivers.Matches.exclusive (matching : s.Matches socketNameRil mInstanceId)
    (instances : Instances socketNameRil mInstanceId) : s.Exclusive := by
  rintro i j ⟨name, is⟩ ⟨other, is'⟩ connected connected' same
  have here := matching.holds i name (.inr ⟨is, connected⟩)
  have there := matching.holds j other (.inr ⟨is', connected'⟩)
  rw [rilSocket_eq (instances.inside i)] at here
  rw [rilSocket_eq (instances.inside j), ← show name = other from same] at there
  exact instances.distinct i j (slot_inj (elementAt_inj instances.nodup here there))

variable [DecidableEq ι]

theorem Receivers.Matches.update (matching : s.Matches socketNameRil mInstanceId) {i : ι} {next : MTKRILReceiver}
    (alive : next.alive = true) (holds : ∀ name, next.Holds name →
      rilSocket socketNameRil (mInstanceId i) s.gsm3gswitch = some name) :
    Receivers.Matches socketNameRil mInstanceId ⟨s.gsm3gswitch, Function.update s.receiver i next⟩ := by
  constructor
  · intro j
    rcases eq_or_ne j i with rfl | other
    · simpa only [Function.update_self] using alive
    · simpa only [Function.update_of_ne other] using matching.alive j
  · intro j name held
    rcases eq_or_ne j i with rfl | other
    · exact holds name (by simpa only [Function.update_self] using held)
    · exact matching.holds j name (by simpa only [Function.update_of_ne other] using held)

theorem Receivers.Matches.kept (instances : Instances socketNameRil mInstanceId)
    (matching : s.Matches socketNameRil mInstanceId) {a : ReceiverAction ι} {next : Receivers ι}
    {out : List (ι × ReceiverEvent)} (allowed : SwitchesApart mInstanceId s a)
    (stepped : (receivers socketNameRil mInstanceId).step s a = some (next, out)) :
    next.Matches socketNameRil mInstanceId := by
  cases a with
  | setProperty value =>
    cases stepped
    refine ⟨matching.alive, fun i name held => ?_⟩
    have before := matching.holds i name held
    rw [rilSocket_eq (instances.inside i)] at before ⊢
    rcases allowed with same | free
    · rw [same, before]
    · have third : ¬ currentSim (mInstanceId i) ≤ 1 := by
        intro low
        obtain ⟨address, disconnected⟩ := free i low
        rcases held with chosen | ⟨is, connected⟩
        · exact absurd (address.symm.trans chosen) nofun
        · exact absurd (disconnected.symm.trans connected) nofun
      have fixed (m3GsimId : Int) : slot (currentSim (mInstanceId i)) m3GsimId = currentSim (mInstanceId i) := by
        rw [slot, if_neg (by omega), if_neg (by omega)]
      rw [fixed] at before ⊢
      exact before
  | chooseSocket i =>
    obtain ⟨⟨receiver, events⟩, chooses, equal⟩ := Option.map_eq_some_iff.mp stepped
    cases equal
    obtain ⟨name, chosen⟩ := instances.chosen i s.gsm3gswitch
    obtain ⟨alive, holds⟩ := chooseSocket_holds chosen chooses
    refine matching.update alive fun held holding => ?_
    rw [holds held holding, chosen]
  | connect i connection =>
    obtain ⟨⟨receiver, events⟩, connects, equal⟩ := Option.map_eq_some_iff.mp stepped
    cases equal
    obtain ⟨alive, holds⟩ := connect_holds connects
    exact matching.update (alive.trans (matching.alive i)) fun name held => matching.holds i name (holds name held)
  | readMessage i throws =>
    obtain ⟨⟨receiver, events⟩, reads, equal⟩ := Option.map_eq_some_iff.mp stepped
    cases equal
    obtain ⟨alive, -, -, holds⟩ := readMessage_holds reads
    exact matching.update (alive.trans (matching.alive i)) fun name held => matching.holds i name (holds name held)

/-- A run of one thread. -/
def Alone (socketNameRil : List String) (mInstanceId : ι → Option Int) (s : Receivers ι) (j : ι)
    (last : MTKRILReceiver) : Prop :=
  ∃ tape trace, (receivers socketNameRil mInstanceId).run s tape =
    some (⟨s.gsm3gswitch, Function.update s.receiver j last⟩, trace)

variable {j : ι}

theorem Alone.refl (s : Receivers ι) : Alone socketNameRil mInstanceId s j (s.receiver j) :=
  ⟨[], [], by rw [Function.update_eq_self]; rfl⟩

theorem Alone.snoc {middle next : MTKRILReceiver} (alone : Alone socketNameRil mInstanceId s j middle)
    (a : ReceiverAction ι) (out : List (ι × ReceiverEvent))
    (stepped : (receivers socketNameRil mInstanceId).step ⟨s.gsm3gswitch, Function.update s.receiver j middle⟩ a =
      some (⟨s.gsm3gswitch, Function.update (Function.update s.receiver j middle) j next⟩, out)) :
    Alone socketNameRil mInstanceId s j next := by
  obtain ⟨tape, trace, ran⟩ := alone
  rw [Function.update_idem] at stepped
  exact ⟨tape ++ [a], _, System.run_append ran
    (System.run_cons_iff.mpr ⟨_, out, [], stepped, rfl, (List.append_nil out).symm⟩)⟩

/-- A thread connects to what it has chosen, or fails to. -/
theorem Alone.connect {middle : MTKRILReceiver} {name : String} (alone : Alone socketNameRil mInstanceId s j middle)
    (chosen : middle.address = some name) (connection : Option InputStream) :
    ∃ last, Alone socketNameRil mInstanceId s j last ∧ last.alive = middle.alive ∧ last.address = none ∧
      last.mSocket = (connection.map fun is => ⟨name, is⟩).or middle.mSocket := by
  obtain ⟨next, out, connects, still, tried, socket⟩ : ∃ next out, middle.connect connection = some (next, out) ∧
      next.alive = middle.alive ∧ next.address = none ∧
      next.mSocket = (connection.map fun is => ⟨name, is⟩).or middle.mSocket := by
    rw [MTKRILReceiver.connect, chosen]
    cases connection with
    | none => exact ⟨_, _, rfl, rfl, rfl, rfl⟩
    | some is => exact ⟨_, _, rfl, rfl, rfl, rfl⟩
  refine ⟨next, alone.snoc (.connect j connection) (out.map (j, ·)) ?_, still, tried, socket⟩
  refine Option.map_eq_some_iff.mpr ⟨(next, out), ?_, rfl⟩
  simpa only [Function.update_self] using connects

/-- A thread can get back to the top of its loop. -/
theorem exists_alone_free (j : ι) (alive : (s.receiver j).alive = true) :
    ∃ last, Alone socketNameRil mInstanceId s j last ∧ last.Free := by
  obtain ⟨middle, alone, still, untried⟩ : ∃ middle, Alone socketNameRil mInstanceId s j middle ∧
      middle.alive = true ∧ middle.address = none := by
    cases address : (s.receiver j).address with
    | none => exact ⟨_, Alone.refl s, alive, address⟩
    | some name =>
      obtain ⟨last, alone, still, untried, -⟩ := (Alone.refl s).connect address none
      exact ⟨last, alone, still.trans alive, untried⟩
  cases socket : middle.mSocket with
  | none => exact ⟨middle, alone, still, untried, socket⟩
  | some connection =>
    obtain ⟨last, out, reads⟩ := exists_readMessage socket
    obtain ⟨alive, address, closed, -⟩ := readMessage_holds reads
    refine ⟨last, alone.snoc (.readMessage j true) (out.map (j, ·)) ?_,
      alive.trans still, address.trans untried, closed rfl⟩
    refine Option.map_eq_some_iff.mpr ⟨(last, out), ?_, rfl⟩
    simpa only [Function.update_self] using reads

/-- A thread can be made to connect to the socket that the property gives it now. -/
theorem exists_alone_connected {name : String} (j : ι) (alive : (s.receiver j).alive = true)
    (chosen : rilSocket socketNameRil (mInstanceId j) s.gsm3gswitch = some name) :
    ∃ last is, Alone socketNameRil mInstanceId s j last ∧ last.mSocket = some ⟨name, is⟩ := by
  obtain ⟨middle, alone, free⟩ := @exists_alone_free _ socketNameRil mInstanceId s _ j alive
  have chooses : middle.chooseSocket socketNameRil (mInstanceId j) s.gsm3gswitch =
      some ({ middle with address := some name }, []) := by
    rw [MTKRILReceiver.chooseSocket, if_neg (by simp [free.alive, free.address, free.mSocket]), chosen]
  have addressed : Alone socketNameRil mInstanceId s j { middle with address := some name } := by
    refine alone.snoc (.chooseSocket j) [] ?_
    refine Option.map_eq_some_iff.mpr ⟨({ middle with address := some name }, []), ?_, rfl⟩
    simpa only [Function.update_self] using chooses
  obtain ⟨last, alone, -, -, connected⟩ := addressed.connect rfl (some ⟨[], fun _ => 1, 0⟩)
  exact ⟨last, _, alone, connected⟩

/-- What a thread holds, it can be connected to. -/
theorem exists_alone_joined {name : String} (i : ι) (holds : (s.receiver i).Holds name) :
    ∃ last is, Alone socketNameRil mInstanceId s i last ∧ last.mSocket = some ⟨name, is⟩ := by
  rcases holds with chosen | ⟨is, connected⟩
  · obtain ⟨last, alone, -, -, connected⟩ := (Alone.refl s).connect chosen (some ⟨[], fun _ => 1, 0⟩)
    exact ⟨last, _, alone, connected⟩
  · exact ⟨_, is, Alone.refl s, connected⟩

/-- Two threads get to share a socket exactly where the property selects another SIM while SIM 1 or SIM 2 is still
connected, or has read the property and is about to connect. -/
theorem receivers_exclusive_iff (instances : Instances socketNameRil mInstanceId) (gsm3gswitch : Int) :
    (receivers socketNameRil mInstanceId).Decides (fun s _ a => SwitchesApart mInstanceId s a)
      (fun s _ => s.Exclusive) (.initial gsm3gswitch) := by
  refine System.decides_of_invariant (fun s _ => s.Matches socketNameRil mInstanceId)
    (fun s _ matching => matching.exclusive instances)
    (fun s _ a next out matching allowed stepped => matching.kept instances allowed stepped) ?_
    ⟨fun i => rfl, fun i name held => ?_⟩
  · intro s history a next out matching stepped refused
    cases a with
    | chooseSocket i => exact absurd trivial refused
    | connect i connection => exact absurd trivial refused
    | readMessage i throws => exact absurd trivial refused
    | setProperty value =>
      cases stepped
      simp only [SwitchesApart, not_or, not_forall] at refused
      obtain ⟨differ, i, low, busy⟩ := refused
      obtain ⟨name, holds⟩ := MTKRILReceiver.exists_holds busy
      obtain ⟨j, pair⟩ : ∃ j, currentSim (mInstanceId i) = 0 ∧ currentSim (mInstanceId j) = 1 ∨
          currentSim (mInstanceId i) = 1 ∧ currentSim (mInstanceId j) = 0 := by
        obtain ⟨first, second, zero, one⟩ := instances.two
        have inside := instances.inside i
        rcases Decidable.em (currentSim (mInstanceId i) = 0) with here | there
        · exact ⟨second, .inl ⟨here, one⟩⟩
        · exact ⟨first, .inr ⟨by omega, zero⟩⟩
      have other : i ≠ j := by
        rintro rfl
        omega
      have chosen : rilSocket socketNameRil (mInstanceId j) value = some name := by
        have here := matching.holds i name holds
        rw [rilSocket_eq (instances.inside i),
          slot_other (Ne.symm differ) (m3GsimId_cases _) (m3GsimId_cases value) pair] at here
        rw [rilSocket_eq (instances.inside j), here]
      obtain ⟨joined, is, ⟨tape, trace, ran⟩, connected⟩ :=
        @exists_alone_joined _ socketNameRil mInstanceId ⟨value, s.receiver⟩ _ name i holds
      obtain ⟨last, is', ⟨tape', trace', ran'⟩, connected'⟩ :=
        @exists_alone_connected _ socketNameRil mInstanceId ⟨value, Function.update s.receiver i joined⟩ _ name j
          (by simpa only [Function.update_of_ne other.symm] using matching.alive j) chosen
      refine ⟨tape ++ tape', _, _, System.run_append ran ran', fun exclusive => other ?_⟩
      refine exclusive i j ⟨name, is⟩ ⟨name, is'⟩ ?_ ?_ rfl
      · simpa only [Function.update_of_ne other, Function.update_self] using connected
      · simpa only [Function.update_self] using connected'
  · rcases held with chosen | ⟨is, connected⟩
    · cases chosen
    · cases connected

/-- Two instances with three names. -/
def instanceOf : Bool → Option Int
  | false => none
  | true => some 1

theorem receivers_exclusive_iff_two : Instances ["rild", "rild2", "rild3"] instanceOf ∧
    (receivers ["rild", "rild2", "rild3"] instanceOf).Decides (fun s _ a => SwitchesApart instanceOf s a)
      (fun s _ => s.Exclusive) (.initial 0) := by
  have instances : Instances ["rild", "rild2", "rild3"] instanceOf :=
    ⟨by decide, by decide, by decide, ⟨false, true, rfl, rfl⟩⟩
  exact ⟨instances, receivers_exclusive_iff instances 0⟩

end Exclusive

end Mt6582.Ril

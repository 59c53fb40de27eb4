import Mt6582.Machine.Java
import Mt6582.Machine.System

/-! # The socket that sends commands to the server

A thread takes the commands from a queue one after the other, opens the socket, writes the command, reads
until an answer comes, and hands `mResponse` to the activity. The field keeps what it held where a turn
does not set it. Between any two of these steps the activity may send another command, or end the client.
-/

namespace Mt6582.Ygps

open Machine

def LINE_OUT_SIZE : Nat := 10

/-- `PMTK`. -/
def pmtk : JavaString := javaLit ['P', 'M', 'T', 'K']

/-- `TIMEOUT`. -/
def timeoutText : JavaString := javaLit "TIMEOUT".toList

/-- `ERROR`. -/
def errorText : JavaString := javaLit "ERROR".toList

/-! ## The sentence of a command -/

/-- `toUpperCase` on ASCII; some locales keep the dot on the letter `i`. -/
def upperCase (dotted : Bool) (c : UInt16) : UInt16 :=
  if 97 ≤ c ∧ c ≤ 122 then if dotted ∧ c = 105 then 0x130 else c - 32 else c

/-- `getBytes` of one unit that is not half of a pair. -/
def utf8Bytes (c : UInt16) : List UInt8 :=
  if c < 0x80 then [c.toUInt8]
  else if c < 0x800 then [(0xc0 : UInt8) ||| (c >>> 6).toUInt8, (0x80 : UInt8) ||| (c &&& 0x3f).toUInt8]
  else [(0xe0 : UInt8) ||| (c >>> 12).toUInt8, (0x80 : UInt8) ||| ((c >>> 6) &&& 0x3f).toUInt8,
    (0x80 : UInt8) ||| (c &&& 0x3f).toUInt8]

/-- A digit as `toUpperCase` leaves it. -/
def upperHexDigit (n : Nat) : UInt16 := UInt16.ofNat (if n < 10 then 48 + n else 55 + n)

/-- `%1$02x` in capitals. -/
def upperHex (byte : UInt8) : JavaString := [upperHexDigit (byte.toNat / 16), upperHexDigit (byte.toNat % 16)]

/-- `temp ^= b` on a signed byte. -/
def xorByte (temp : UInt32) (b : UInt8) : UInt32 := temp ^^^ b.toInt8.toInt32.toUInt32

def calcCS (dotted : Bool) (command : JavaString) : JavaString :=
  if command = [] then []
  else
    let ba := (command.map (upperCase dotted)).flatMap utf8Bytes
    upperHex (ba.foldl xorByte 0).toUInt8

/-! ## The thread -/

/-- How far `openClient` gets. -/
inductive Opening where
  | refused | withoutStreams | withoutInput | complete
deriving DecidableEq, Repr

/-- What one `read` gives. -/
inductive SocketRead where
  | chunk (bytes : List UInt8)
  | endOfStream
  | exception
deriving DecidableEq, Repr

/-- The socket during one turn. Behind the last of the reads nothing comes until the time-out. -/
structure SocketBehaviour where
  opening : Opening
  written : Bool
  reads : List SocketRead
deriving DecidableEq, Repr

inductive LoopExit where
  | response (result : JavaString)
  | timeout
  | exception
  | ended
deriving DecidableEq, Repr

/-- Where the thread is, with the command it serves and what the socket has done in this turn. -/
inductive SendThread where
  | waits
  | took (command : JavaString)
  | opened (command : JavaString) (opening : Opening)
  | exchanged (command : JavaString) (behaviour : SocketBehaviour)
  | ended

/-- The command that is served. -/
def SendThread.command : SendThread → Option JavaString
  | took command | opened command _ | exchanged command _ => some command
  | waits | ended => none

structure ClientSocket where
  /-- The socket, if there is one, and whether it is connected. -/
  mClientSocket : Option Bool := none
  mDataInput : Bool := false
  mDataOutput : Bool := false
  mCommand : Option JavaString := none
  mResponse : Option JavaString := none
  mCommandQueue : List JavaString := []
  mCallBack : Bool := true
  mSendThread : SendThread := .waits
  interrupted : Bool := false

/-- What the activity is told, with the command and the behaviour of the socket meanwhile. -/
structure Answer where
  command : JavaString
  behaviour : SocketBehaviour
  response : Option JavaString

/-- How a turn ends: the activity is told, or is no longer there. -/
inductive ClientEvent where
  | onResponse (answer : Answer)
  | unanswered (command : JavaString)

def ClientEvent.command : ClientEvent → JavaString
  | onResponse answer => answer.command
  | unanswered command => command

namespace ClientSocket

def openClient (opening : Opening) (client : ClientSocket) : ClientSocket :=
  if client.mClientSocket = some true then client
  else match opening with
    | .refused => client
    | .withoutStreams => { client with mClientSocket := some true }
    | .withoutInput => { client with mClientSocket := some true, mDataOutput := true }
    | .complete => { client with mClientSocket := some true, mDataOutput := true, mDataInput := true }

/-- What fails on the way is caught, and the fields are cleared in the end. -/
def closeClient (client : ClientSocket) : ClientSocket :=
  { client with mClientSocket := none, mDataInput := false, mDataOutput := false }

def isAlive (client : ClientSocket) : Bool :=
  match client.mSendThread with
  | .ended => false
  | _ => true

/-- A thread that has ended cannot be started again. -/
def sendCommand (dotted : Bool) (command : JavaString) (client : ClientSocket) : ClientSocket :=
  let sendComm := [36] ++ command ++ [42] ++ calcCS dotted command
  if !client.isAlive then client
  else if command = sendComm ∨ client.mCommandQueue.contains sendComm then client
  else { client with mCommandQueue := client.mCommandQueue ++ [sendComm] }

/-- The thread is interrupted, which it finds where it waits. -/
def endClient (client : ClientSocket) : ClientSocket :=
  { client.closeClient with interrupted := true, mCallBack := false }

section Turn

-- `new String` on the bytes of a chunk
variable (newString : List UInt8 → JavaString)

/-- The loop that reads, after `line` chunks. -/
def readLoop : Nat → List SocketRead → LoopExit
  | _, [] => .exception
  | _, .exception :: _ => .exception
  | _, .endOfStream :: _ => .ended
  | line, .chunk bytes :: reads =>
      if contains (newString bytes) pmtk then .response (newString bytes)
      else if line + 1 > LINE_OUT_SIZE then .timeout
      else readLoop (line + 1) reads

/-- Sets `mResponse`, but where the stream ends. -/
def exchange (behaviour : SocketBehaviour) (client : ClientSocket) : ClientSocket :=
  if client.mDataOutput ∧ client.mDataInput then
    if !behaviour.written then { client with mResponse := some errorText }
    else match readLoop newString 0 behaviour.reads with
      | .response result => { client with mResponse := some result }
      | .timeout => { client with mResponse := some timeoutText }
      | .exception => { client with mResponse := some errorText }
      | .ended => client
  else { client with mResponse := some errorText }

/-- The thread takes a command. An interruption ends it, even where a command waits. -/
def take (client : ClientSocket) : Option ClientSocket :=
  match client.mSendThread with
  | .waits =>
      if client.interrupted then some { client with mSendThread := .ended }
      else match client.mCommandQueue with
        | [] => none
        | command :: rest =>
            some { client with mCommandQueue := rest, mCommand := some command, mSendThread := .took command }
  | _ => none

/-- The thread opens the socket for the command. -/
def turnOpen (opening : Opening) (client : ClientSocket) : Option ClientSocket :=
  match client.mSendThread with
  | .took command => some { openClient opening client with mSendThread := .opened command opening }
  | _ => none

/-- The thread writes the command and reads. -/
def turnExchange (written : Bool) (reads : List SocketRead) (client : ClientSocket) : Option ClientSocket :=
  match client.mSendThread with
  | .opened command opening =>
      some { exchange newString ⟨opening, written, reads⟩ client with
        mSendThread := .exchanged command ⟨opening, written, reads⟩ }
  | _ => none

/-- The end of a turn. -/
def respond (client : ClientSocket) : Option (ClientSocket × ClientEvent) :=
  match client.mSendThread with
  | .exchanged command behaviour =>
      let event := if client.mCallBack then .onResponse ⟨command, behaviour, client.mResponse⟩ else .unanswered command
      some (closeClient { client with mCommand := none, mSendThread := .waits }, event)
  | _ => none

/-- What `endClient` has set to `null` between a comparison and its use ends the thread. -/
def fault (client : ClientSocket) : Option (ClientSocket × ClientEvent) :=
  if !client.interrupted then none
  else client.mSendThread.command.map fun command => ({ client with mSendThread := .ended }, .unanswered command)

end Turn

end ClientSocket

/-- What the activity does, and the steps of the thread. -/
inductive ClientAction where
  | sendCommand (command : JavaString)
  | endClient
  | take
  | openClient (opening : Opening)
  | exchange (written : Bool) (reads : List SocketRead)
  | onResponse
  | fault

/-- The activity and the thread. -/
def clientSystem (dotted : Bool) (newString : List UInt8 → JavaString) :
    System ClientSocket ClientAction ClientEvent where
  step client
    | .sendCommand command => some (client.sendCommand dotted command, [])
    | .endClient => some (client.endClient, [])
    | .take => client.take.map (·, [])
    | .openClient opening => (client.turnOpen opening).map (·, [])
    | .exchange written reads => (client.turnExchange newString written reads).map (·, [])
    | .onResponse => client.respond.map fun (client, event) => (client, [event])
    | .fault => client.fault.map fun (client, event) => (client, [event])

/-! ## Whose response it is -/

section Response

variable (newString : List UInt8 → JavaString)

/-- The command was written. -/
def SocketBehaviour.Written (behaviour : SocketBehaviour) : Prop := behaviour.opening = .complete ∧ behaviour.written

/-- The first reads give these chunks. -/
def SocketBehaviour.Receives (behaviour : SocketBehaviour) (chunks : List (List UInt8)) : Prop :=
  chunks.map SocketRead.chunk <+: behaviour.reads

/-- A response that comes from the turn itself. -/
inductive Belongs (behaviour : SocketBehaviour) : Option JavaString → Prop
  | chunk {chunks : List (List UInt8)} {bytes : List UInt8} (written : behaviour.Written)
      (received : behaviour.Receives (chunks ++ [bytes])) (answers : contains (newString bytes) pmtk) :
      Belongs behaviour (some (newString bytes))
  | timeout {chunks : List (List UInt8)} (written : behaviour.Written) (received : behaviour.Receives chunks)
      (many : LINE_OUT_SIZE < chunks.length) : Belongs behaviour (some timeoutText)
  | unwritten (unwritten : ¬ behaviour.Written) : Belongs behaviour (some errorText)
  | exception {chunks : List (List UInt8)} (written : behaviour.Written)
      (failed : behaviour.reads = chunks.map SocketRead.chunk ∨
        ∃ later, behaviour.reads = chunks.map SocketRead.chunk ++ .exception :: later) :
      Belongs behaviour (some errorText)

/-- The stream ends before an answer has come and before the chunks are too many. -/
def EndsUnanswered (behaviour : SocketBehaviour) : Prop :=
  behaviour.Written ∧ ∃ (chunks : List (List UInt8)) (later : List SocketRead), behaviour.reads =
      chunks.map SocketRead.chunk ++ .endOfStream :: later ∧ chunks.length ≤ LINE_OUT_SIZE ∧
    ∀ bytes ∈ chunks, contains (newString bytes) pmtk = false

end Response

/-! ## The loop -/

section Loop

variable {newString : List UInt8 → JavaString}

/-- What the reads were when the loop is left. -/
theorem readLoop_spec (line : Nat) (reads : List SocketRead) :
    match ClientSocket.readLoop newString line reads with
    | .response result => ∃ chunks bytes, (chunks ++ [bytes]).map SocketRead.chunk <+: reads ∧
        contains (newString bytes) pmtk = true ∧ result = newString bytes
    | .timeout => ∃ chunks : List (List UInt8), chunks.map SocketRead.chunk <+: reads ∧
        LINE_OUT_SIZE < line + chunks.length
    | .exception => ∃ chunks : List (List UInt8), reads = chunks.map SocketRead.chunk ∨
        ∃ later, reads = chunks.map SocketRead.chunk ++ .exception :: later
    | .ended => ∃ (chunks : List (List UInt8)) (later : List SocketRead),
        reads = chunks.map SocketRead.chunk ++ .endOfStream :: later ∧
          (chunks ≠ [] → line + chunks.length ≤ LINE_OUT_SIZE) ∧
          ∀ bytes ∈ chunks, contains (newString bytes) pmtk = false := by
  induction reads generalizing line with
  | nil => exact ⟨[], .inl rfl⟩
  | cons read reads ih =>
    cases read with
    | exception => exact ⟨[], .inr ⟨reads, rfl⟩⟩
    | endOfStream =>
      exact ⟨[], reads, rfl, fun some => absurd rfl some,
        fun _ absent => absurd absent List.not_mem_nil⟩
    | chunk bytes =>
      rw [ClientSocket.readLoop]
      split_ifs with answers late
      · exact ⟨[], bytes, ⟨reads, rfl⟩, answers, rfl⟩
      · exact ⟨[bytes], ⟨reads, rfl⟩, late⟩
      · have rest := ih (line + 1)
        cases exit : ClientSocket.readLoop newString (line + 1) reads with
        | response result =>
          rw [exit] at rest
          obtain ⟨chunks, last, received, answers, rfl⟩ := rest
          exact ⟨bytes :: chunks, last, List.cons_prefix_cons.mpr ⟨rfl, received⟩, answers, rfl⟩
        | timeout =>
          rw [exit] at rest
          obtain ⟨chunks, received, many⟩ := rest
          refine ⟨bytes :: chunks, List.cons_prefix_cons.mpr ⟨rfl, received⟩, ?_⟩
          rw [List.length_cons]
          omega
        | exception =>
          rw [exit] at rest
          obtain ⟨chunks, rfl | ⟨later, rfl⟩⟩ := rest
          · exact ⟨bytes :: chunks, .inl rfl⟩
          · exact ⟨bytes :: chunks, .inr ⟨later, rfl⟩⟩
        | ended =>
          rw [exit] at rest
          obtain ⟨chunks, later, rfl, few, silent⟩ := rest
          refine ⟨bytes :: chunks, later, rfl, fun _ => ?_, ?_⟩
          · rw [List.length_cons]
            rcases Decidable.em (chunks = []) with rfl | some
            · rw [List.length_nil]
              omega
            · have := few some
              omega
          · rw [List.forall_mem_cons]
            exact ⟨by simpa using answers, silent⟩

/-- Chunks that are received in front of a read that is none. -/
theorem prefix_of_stopped {stop : SocketRead} (other : ∀ bytes, stop ≠ .chunk bytes)
    {received chunks : List (List UInt8)} {later : List SocketRead}
    (started : received.map SocketRead.chunk <+: chunks.map SocketRead.chunk ++ stop :: later) :
    received <+: chunks := by
  induction received generalizing chunks with
  | nil => exact List.nil_prefix
  | cons bytes received ih =>
    cases chunks with
    | nil =>
      obtain ⟨same, -⟩ := List.cons_prefix_cons.mp started
      exact absurd same.symm (other bytes)
    | cons first chunks =>
      obtain ⟨same, rest⟩ := List.cons_prefix_cons.mp started
      cases same
      exact List.cons_prefix_cons.mpr ⟨rfl, ih rest⟩

/-- Nothing that comes from the turn is left to say when the stream has ended. -/
theorem not_belongs_of_ends {behaviour : SocketBehaviour}
    (ends : EndsUnanswered newString behaviour) (response : Option JavaString) :
    ¬ Belongs newString behaviour response := by
  obtain ⟨written, chunks, later, reads, few, silent⟩ := ends
  have within {received : List (List UInt8)} (started : behaviour.Receives received) :
      received <+: chunks := by
    rw [SocketBehaviour.Receives, reads] at started
    exact prefix_of_stopped (fun _ same => by cases same) started
  intro belongs
  cases belongs with
  | @chunk before bytes written received answers =>
    have member : bytes ∈ chunks := (within received).subset (by simp)
    rw [silent bytes member] at answers
    cases answers
  | timeout written received many =>
    have := (within received).length_le
    omega
  | unwritten unwritten => exact unwritten written
  | @exception before written failed =>
    rcases failed with all | ⟨rest, failed⟩
    · have member : SocketRead.endOfStream ∈ before.map SocketRead.chunk := by
        rw [← all, reads]
        simp
      obtain ⟨bytes, -, same⟩ := List.mem_map.mp member
      cases same
    · have same : before = chunks := by
        apply (within ⟨_, failed.symm⟩).eq_of_length_le
        have reverse :
            chunks.map SocketRead.chunk <+: before.map SocketRead.chunk ++ .exception :: rest := by
          rw [← failed, reads]
          exact List.prefix_append _ _
        exact (prefix_of_stopped (fun _ same => by cases same) reverse).length_le
      rw [reads, same] at failed
      cases List.append_cancel_left failed

end Loop

/-! ## One turn and whole runs -/

section Run

variable {newString : List UInt8 → JavaString} {client : ClientSocket} {behaviour : SocketBehaviour}

/-- There is no socket. -/
structure ClientSocket.Closed (client : ClientSocket) : Prop where
  socket : client.mClientSocket = none
  input : client.mDataInput = false
  output : client.mDataOutput = false

/-- The streams are there as far as the socket was opened. -/
structure ClientSocket.OpenedTo (client : ClientSocket) (opening : Opening) : Prop where
  input : client.mDataInput = true ↔ opening = .complete
  output : opening = .complete → client.mDataOutput = true

theorem openClient_openedTo (closed : client.Closed) (opening : Opening) :
    (client.openClient opening).OpenedTo opening := by
  have fresh : client.mClientSocket ≠ some true := by rw [closed.socket]; nofun
  unfold ClientSocket.openClient
  rw [if_neg fresh]
  cases opening <;> constructor <;> simp [closed.input]

theorem exchange_belongs_iff (opened : client.OpenedTo behaviour.opening) :
    Belongs newString behaviour (client.exchange newString behaviour).mResponse ↔
      ¬ EndsUnanswered newString behaviour := by
  refine ⟨fun belongs ends => not_belongs_of_ends ends _ belongs, fun answered => ?_⟩
  obtain ⟨opening, written, reads⟩ := behaviour
  rcases ne_or_eq opening .complete with partly | rfl
  · have absent : client.mDataInput = false := by
      rw [← Bool.not_eq_true, opened.input]
      exact partly
    rw [ClientSocket.exchange, if_neg (by simp [absent])]
    exact .unwritten fun both => partly both.1
  have streams : client.mDataOutput = true ∧ client.mDataInput = true := ⟨opened.output rfl, opened.input.mpr rfl⟩
  rw [ClientSocket.exchange, if_pos streams]
  cases written with
  | false => exact .unwritten fun both => Bool.false_ne_true both.2
  | true =>
    have sent : SocketBehaviour.Written ⟨.complete, true, reads⟩ := ⟨rfl, rfl⟩
    have spec := @readLoop_spec newString 0 reads
    rw [if_neg (by simp)]
    dsimp only
    cases exit : ClientSocket.readLoop newString 0 reads with
    | response result =>
      rw [exit] at spec
      obtain ⟨chunks, bytes, received, answers, rfl⟩ := spec
      exact .chunk sent received answers
    | timeout =>
      rw [exit] at spec
      obtain ⟨chunks, received, many⟩ := spec
      exact .timeout sent received (by omega)
    | exception =>
      rw [exit] at spec
      obtain ⟨chunks, failed⟩ := spec
      exact .exception sent failed
    | ended =>
      rw [exit] at spec
      obtain ⟨chunks, later, rfl, few, silent⟩ := spec
      refine absurd ⟨sent, chunks, later, rfl, ?_, silent⟩ answered
      rcases Decidable.em (chunks = []) with rfl | some
      · exact Nat.zero_le _
      · have := few some
        omega

/-- Opening the socket is between the thread and the socket. -/
theorem openClient_keeps (client : ClientSocket) (opening : Opening) :
    (client.openClient opening).mCallBack = client.mCallBack ∧
      (client.openClient opening).mCommandQueue = client.mCommandQueue ∧
      (client.openClient opening).interrupted = client.interrupted := by
  unfold ClientSocket.openClient
  split_ifs
  · exact ⟨rfl, rfl, rfl⟩
  · cases opening <;> exact ⟨rfl, rfl, rfl⟩

theorem exchange_keeps (client : ClientSocket) (newString : List UInt8 → JavaString) (behaviour : SocketBehaviour) :
    (client.exchange newString behaviour).mCallBack = client.mCallBack ∧
      (client.exchange newString behaviour).mCommandQueue = client.mCommandQueue ∧
      (client.exchange newString behaviour).interrupted = client.interrupted := by
  rw [ClientSocket.exchange]
  split_ifs
  · exact ⟨rfl, rfl, rfl⟩
  · split <;> exact ⟨rfl, rfl, rfl⟩
  · exact ⟨rfl, rfl, rfl⟩

/-- How the fields stand where the thread is, as long as the client has not been ended. -/
def ClientSocket.Stands (newString : List UInt8 → JavaString) (client : ClientSocket) : Prop :=
  match client.mSendThread with
  | .waits | .took _ => client.Closed
  | .opened _ opening => client.OpenedTo opening
  | .exchanged _ behaviour => Belongs newString behaviour client.mResponse ↔ ¬ EndsUnanswered newString behaviour
  | .ended => True

/-- A command as it is written. -/
def sentenceOf (dotted : Bool) (command : JavaString) : JavaString := [36] ++ command ++ [42] ++ calcCS dotted command

/-- A command only goes to the queue, where it waits at most once. -/
theorem sendCommand_eq (client : ClientSocket) (dotted : Bool) (command : JavaString) :
    client.sendCommand dotted command = { client with
      mCommandQueue :=
        if client.isAlive ∧ sentenceOf dotted command ∉ client.mCommandQueue then
          client.mCommandQueue ++ [sentenceOf dotted command]
        else client.mCommandQueue } := by
  have longer : command ≠ sentenceOf dotted command := by
    intro same
    have size := congrArg List.length same
    simp only [sentenceOf, List.length_append, List.length_singleton] at size
    omega
  have sent : client.sendCommand dotted command =
      if !client.isAlive then client
      else if command = sentenceOf dotted command ∨ client.mCommandQueue.contains (sentenceOf dotted command) then client
      else { client with mCommandQueue := client.mCommandQueue ++ [sentenceOf dotted command] } := rfl
  rw [sent]
  by_cases alive : client.isAlive = true
  · by_cases waits : sentenceOf dotted command ∈ client.mCommandQueue
    · simp [alive, waits]
    · simp [alive, waits, longer]
  · simp [alive]

/-- What each step does, and when it can be taken. -/
inductive ClientStep (dotted : Bool) (newString : List UInt8 → JavaString) (client : ClientSocket) :
    ClientAction → ClientSocket → List ClientEvent → Prop
  | sendCommand (command : JavaString) :
      ClientStep dotted newString client (.sendCommand command) (client.sendCommand dotted command) []
  | endClient : ClientStep dotted newString client .endClient client.endClient []
  | interrupted (waits : client.mSendThread = .waits) (interrupted : client.interrupted = true) :
      ClientStep dotted newString client .take { client with mSendThread := .ended } []
  | took {command : JavaString} {rest : List JavaString} (waits : client.mSendThread = .waits)
      (uninterrupted : client.interrupted = false) (queue : client.mCommandQueue = command :: rest) :
      ClientStep dotted newString client .take
        { client with mCommandQueue := rest, mCommand := some command, mSendThread := .took command } []
  | opened {command : JavaString} (took : client.mSendThread = .took command) (opening : Opening) :
      ClientStep dotted newString client (.openClient opening)
        { client.openClient opening with mSendThread := .opened command opening } []
  | exchanged {command : JavaString} {opening : Opening} (opened : client.mSendThread = .opened command opening)
      (written : Bool) (reads : List SocketRead) :
      ClientStep dotted newString client (.exchange written reads)
        { client.exchange newString ⟨opening, written, reads⟩ with
          mSendThread := .exchanged command ⟨opening, written, reads⟩ } []
  | answered {command : JavaString} {behaviour : SocketBehaviour}
      (exchanged : client.mSendThread = .exchanged command behaviour) (told : client.mCallBack = true) :
      ClientStep dotted newString client .onResponse
        { client with mCommand := none, mSendThread := .waits }.closeClient
        [.onResponse ⟨command, behaviour, client.mResponse⟩]
  | unanswered {command : JavaString} {behaviour : SocketBehaviour}
      (exchanged : client.mSendThread = .exchanged command behaviour) (untold : client.mCallBack = false) :
      ClientStep dotted newString client .onResponse
        { client with mCommand := none, mSendThread := .waits }.closeClient [.unanswered command]
  | fault {command : JavaString} (interrupted : client.interrupted = true)
      (serves : client.mSendThread.command = some command) :
      ClientStep dotted newString client .fault { client with mSendThread := .ended } [.unanswered command]

theorem clientSystem_step {dotted : Bool} {action : ClientAction} {next : ClientSocket} {out : List ClientEvent}
    (stepped : (clientSystem dotted newString).step client action = some (next, out)) :
    ClientStep dotted newString client action next out := by
  cases action with
  | sendCommand command =>
    cases stepped
    exact .sendCommand command
  | endClient =>
    cases stepped
    exact .endClient
  | take =>
    obtain ⟨taken, takes, equal⟩ := Option.map_eq_some_iff.mp stepped
    cases equal
    unfold ClientSocket.take at takes
    split at takes
    · next waits =>
      split_ifs at takes with interrupted
      · cases takes
        exact .interrupted waits interrupted
      · split at takes
        · cases takes
        · next queue =>
          cases takes
          exact .took waits (by simpa using interrupted) queue
    · cases takes
  | openClient opening =>
    obtain ⟨opened, opens, equal⟩ := Option.map_eq_some_iff.mp stepped
    cases equal
    unfold ClientSocket.turnOpen at opens
    split at opens
    · next took =>
      cases opens
      exact .opened took opening
    · cases opens
  | exchange written reads =>
    obtain ⟨exchanged, exchanges, equal⟩ := Option.map_eq_some_iff.mp stepped
    cases equal
    unfold ClientSocket.turnExchange at exchanges
    split at exchanges
    · next opened =>
      cases exchanges
      exact .exchanged opened written reads
    · cases exchanges
  | onResponse =>
    obtain ⟨⟨responded, event⟩, responds, equal⟩ := Option.map_eq_some_iff.mp stepped
    cases equal
    unfold ClientSocket.respond at responds
    split at responds
    · next exchanged =>
      cases responds
      split_ifs with told
      · exact .answered exchanged told
      · exact .unanswered exchanged (by simpa using told)
    · cases responds
  | fault =>
    obtain ⟨⟨failed, event⟩, fails, equal⟩ := Option.map_eq_some_iff.mp stepped
    cases equal
    unfold ClientSocket.fault at fails
    split_ifs at fails with uninterrupted
    obtain ⟨command, serves, equal⟩ := Option.map_eq_some_iff.mp fails
    cases equal
    exact .fault (by simpa using uninterrupted) serves

theorem ClientSocket.Stands.kept {dotted : Bool} {action : ClientAction} {next : ClientSocket} {out : List ClientEvent}
    (stands : client.mCallBack = true → client.Stands newString)
    (stepped : (clientSystem dotted newString).step client action = some (next, out)) :
    (next.mCallBack = true → next.Stands newString) ∧ ∀ answer, .onResponse answer ∈ out →
      (Belongs newString answer.behaviour answer.response ↔ ¬ EndsUnanswered newString answer.behaviour) := by
  cases clientSystem_step stepped with
  | sendCommand command =>
    rw [sendCommand_eq]
    refine ⟨fun told => ?_, nofun⟩
    have standing := stands told
    unfold ClientSocket.Stands at standing ⊢
    dsimp only
    split at standing
    · exact ⟨standing.socket, standing.input, standing.output⟩
    · exact ⟨standing.socket, standing.input, standing.output⟩
    · exact ⟨standing.input, standing.output⟩
    · exact standing
    · trivial
  | endClient => exact ⟨nofun, nofun⟩
  | interrupted waits interrupted => exact ⟨fun _ => trivial, nofun⟩
  | took waits uninterrupted queue =>
    refine ⟨fun told => ?_, nofun⟩
    have closed := stands told
    rw [ClientSocket.Stands, waits] at closed
    exact ⟨closed.socket, closed.input, closed.output⟩
  | opened took opening =>
    refine ⟨fun told => ?_, nofun⟩
    have closed := stands ((openClient_keeps client opening).1 ▸ told)
    rw [ClientSocket.Stands, took] at closed
    have opened := openClient_openedTo closed opening
    exact ⟨opened.input, opened.output⟩
  | exchanged opened written reads =>
    refine ⟨fun told => ?_, nofun⟩
    have streams := stands ((exchange_keeps client newString _).1 ▸ told)
    rw [ClientSocket.Stands, opened] at streams
    exact exchange_belongs_iff streams
  | answered exchanged told =>
    have belongs := stands told
    rw [ClientSocket.Stands, exchanged] at belongs
    refine ⟨fun _ => ⟨rfl, rfl, rfl⟩, fun answer member => ?_⟩
    cases List.mem_singleton.mp member
    exact belongs
  | unanswered exchanged untold =>
    refine ⟨fun told => absurd (untold.symm.trans told) nofun, fun answer member => ?_⟩
    cases List.mem_singleton.mp member
  | fault interrupted serves =>
    refine ⟨fun _ => trivial, fun answer member => ?_⟩
    cases List.mem_singleton.mp member

/-- In every run the response to a command comes from its own turn, unless the stream ended unanswered. -/
theorem clientSystem_belongs_iff (dotted : Bool) (newString : List UInt8 → JavaString) {tape : List ClientAction}
    {last : ClientSocket} {events : List ClientEvent}
    (ran : (clientSystem dotted newString).run {} tape = some (last, events)) :
    ∀ answer, .onResponse answer ∈ events →
      (Belongs newString answer.behaviour answer.response ↔ ¬ EndsUnanswered newString answer.behaviour) := by
  have kept (client : ClientSocket) (history : List ClientEvent) (action : ClientAction) (next : ClientSocket)
      (out : List ClientEvent) (inv : (client.mCallBack = true → client.Stands newString) ∧
        ∀ answer, .onResponse answer ∈ history →
          (Belongs newString answer.behaviour answer.response ↔ ¬ EndsUnanswered newString answer.behaviour))
      (stepped : (clientSystem dotted newString).step client action = some (next, out)) :
      (next.mCallBack = true → next.Stands newString) ∧ ∀ answer, .onResponse answer ∈ history ++ out →
        (Belongs newString answer.behaviour answer.response ↔ ¬ EndsUnanswered newString answer.behaviour) := by
    obtain ⟨stands, before⟩ := inv
    obtain ⟨after, here⟩ := ClientSocket.Stands.kept stands stepped
    refine ⟨after, fun answer member => ?_⟩
    rcases List.mem_append.mp member with earlier | newest
    · exact before answer earlier
    · exact here answer newest
  have start : ((({} : ClientSocket).mCallBack = true → ClientSocket.Stands newString {}) ∧
      ∀ answer, ClientEvent.onResponse answer ∈ ([] : List ClientEvent) →
        (Belongs newString answer.behaviour answer.response ↔ ¬ EndsUnanswered newString answer.behaviour)) :=
    ⟨fun _ => ⟨rfl, rfl, rfl⟩, nofun⟩
  exact (System.run_invariant_of_step kept start ran).2

end Run

/-! ## A stream that ends -/

/-- `new String` on ASCII. -/
def asciiString (bytes : List UInt8) : JavaString := bytes.map UInt8.toUInt16

def asciiBytes (text : String) : List UInt8 := text.toList.map fun char => UInt8.ofNat char.toNat

/-- The server answers with one chunk. -/
def answeredBy (text : String) : SocketBehaviour := ⟨.complete, true, [.chunk (asciiBytes text)]⟩

/-- The server closes the connection at once. -/
def closedAtOnce : SocketBehaviour := ⟨.complete, true, [.endOfStream]⟩

/-- A turn in which the socket behaves so. -/
def turn (behaviour : SocketBehaviour) : List ClientAction :=
  [.take, .openClient behaviour.opening, .exchange behaviour.written behaviour.reads, .onResponse]

/-- `PMTK605` is answered, `PMTK837,1,3` is not. -/
def staleTape : List ClientAction :=
  .sendCommand (javaLit "PMTK605".toList) :: turn (answeredBy "$PMTK705,AXN_1.0*2B") ++
    .sendCommand (javaLit "PMTK837,1,3".toList) :: turn closedAtOnce

def staleAnswers : List Answer :=
  [⟨javaLit "$PMTK605*31".toList, answeredBy "$PMTK705,AXN_1.0*2B", some (javaLit "$PMTK705,AXN_1.0*2B".toList)⟩,
    ⟨javaLit "$PMTK837,1,3*3C".toList, closedAtOnce, some (javaLit "$PMTK705,AXN_1.0*2B".toList)⟩]

theorem stale_run : ∃ last, (clientSystem false asciiString).run {} staleTape =
    some (last, staleAnswers.map ClientEvent.onResponse) := ⟨_, rfl⟩

theorem stale_answers_belong_iff :
    (∃ last, (clientSystem false asciiString).run {} staleTape =
      some (last, staleAnswers.map ClientEvent.onResponse)) ∧
      ∀ answer ∈ staleAnswers,
        Belongs asciiString answer.behaviour answer.response ↔ ¬ EndsUnanswered asciiString answer.behaviour := by
  obtain ⟨last, ran⟩ := stale_run
  exact ⟨⟨last, ran⟩, fun answer member => clientSystem_belongs_iff false asciiString ran answer
    (List.mem_map_of_mem member)⟩

/-- The second command is given the response to the first. -/
theorem stale_response :
    (∃ last, (clientSystem false asciiString).run {} staleTape =
      some (last, staleAnswers.map ClientEvent.onResponse)) ∧
    ¬ ∀ answer ∈ staleAnswers, Belongs asciiString answer.behaviour answer.response := by
  have ends : EndsUnanswered asciiString closedAtOnce :=
    ⟨⟨rfl, rfl⟩, [], [], rfl, Nat.zero_le _, fun _ absent => absurd absent List.not_mem_nil⟩
  refine ⟨stale_run, fun belongs => ?_⟩
  exact not_belongs_of_ends ends _ (belongs _ (List.mem_cons_of_mem _ List.mem_cons_self))

/-! ## What becomes of a command -/

section Served

variable {dotted : Bool} {newString : List UInt8 → JavaString} {client next last : ClientSocket}
  {tape : List ClientAction} {events out : List ClientEvent}

/-- The commands of a tape, as they would be written. -/
def sentences (dotted : Bool) (tape : List ClientAction) : List JavaString :=
  tape.filterMap fun
    | .sendCommand command => some (sentenceOf dotted command)
    | _ => none

/-- What is served, and what waits. -/
def ClientSocket.pending (client : ClientSocket) : List JavaString :=
  client.mSendThread.command.toList ++ client.mCommandQueue

/-- The thread is there, and the activity to be told, until the client is ended. -/
structure ClientSocket.Serving (client : ClientSocket) : Prop where
  told : client.mCallBack = !client.interrupted
  alive : client.interrupted = false → client.isAlive = true
  distinct : client.mCommandQueue.Nodup

theorem sendCommand_pending (client : ClientSocket) (dotted : Bool) (command : JavaString) :
    (client.sendCommand dotted command).pending =
      client.pending ++
        if client.isAlive ∧ sentenceOf dotted command ∉ client.mCommandQueue then [sentenceOf dotted command] else [] := by
  rw [sendCommand_eq, ClientSocket.pending, ClientSocket.pending]
  split_ifs
  · exact (List.append_assoc _ _ _).symm
  · exact (List.append_nil _).symm

theorem send_or_other (action : ClientAction) :
    (∃ command, action = .sendCommand command) ∨ ∀ command, action ≠ .sendCommand command :=
  Classical.or_iff_not_imp_left.mpr fun other command equal => other ⟨command, equal⟩

/-- Only `sendCommand` adds to what is pending, and only the end of a turn takes from it. -/
theorem step_pending {action : ClientAction} (other : ∀ command, action ≠ .sendCommand command)
    (stepped : (clientSystem dotted newString).step client action = some (next, out)) :
    client.pending = out.map ClientEvent.command ++ next.pending := by
  cases clientSystem_step stepped with
  | sendCommand command => exact absurd rfl (other command)
  | endClient => rfl
  | interrupted waits interrupted => rw [ClientSocket.pending, waits]; rfl
  | took waits uninterrupted queue => rw [ClientSocket.pending, waits, queue]; rfl
  | opened took opening =>
    rw [ClientSocket.pending, took, ← (openClient_keeps client opening).2.1]
    rfl
  | @exchanged command opening opened written reads =>
    rw [ClientSocket.pending, opened, ← (exchange_keeps client newString ⟨opening, written, reads⟩).2.1]
    rfl
  | answered exchanged told => rw [ClientSocket.pending, exchanged]; rfl
  | unanswered exchanged untold => rw [ClientSocket.pending, exchanged]; rfl
  | fault interrupted serves => rw [ClientSocket.pending, serves]; rfl

/-- The queue only gets shorter from the front, but for a new command. -/
theorem step_queue {action : ClientAction} (other : ∀ command, action ≠ .sendCommand command)
    (stepped : (clientSystem dotted newString).step client action = some (next, out)) :
    next.mCommandQueue.Sublist client.mCommandQueue := by
  cases clientSystem_step stepped with
  | sendCommand command => exact absurd rfl (other command)
  | took waits uninterrupted queue =>
    rw [queue]
    exact List.sublist_cons_self _ _
  | opened took opening =>
    change List.Sublist (client.openClient opening).mCommandQueue _
    rw [(openClient_keeps client opening).2.1]
  | exchanged opened written reads =>
    change List.Sublist (client.exchange newString _).mCommandQueue _
    rw [(exchange_keeps client newString _).2.1]
  | _ => exact List.Sublist.refl _

theorem ClientSocket.Serving.kept {action : ClientAction} (serving : client.Serving)
    (stepped : (clientSystem dotted newString).step client action = some (next, out)) : next.Serving := by
  rcases send_or_other action with ⟨command, rfl⟩ | other
  · cases stepped
    rw [sendCommand_eq]
    refine ⟨serving.told, serving.alive, ?_⟩
    dsimp only
    split_ifs with fresh
    · refine List.nodup_append.mpr ⟨serving.distinct, List.nodup_cons.mpr ⟨List.not_mem_nil, List.nodup_nil⟩, ?_⟩
      rintro waiting member sentence single rfl
      obtain rfl := List.mem_singleton.mp single
      exact fresh.2 member
    · exact serving.distinct
  · have distinct := serving.distinct.sublist (step_queue other stepped)
    cases clientSystem_step stepped with
    | sendCommand command => exact absurd rfl (other command)
    | endClient => exact ⟨rfl, nofun, distinct⟩
    | interrupted waits interrupted => exact ⟨serving.told, fun off => absurd (interrupted.symm.trans off) nofun, distinct⟩
    | fault interrupted serves => exact ⟨serving.told, fun off => absurd (interrupted.symm.trans off) nofun, distinct⟩
    | took waits uninterrupted queue => exact ⟨serving.told, fun _ => rfl, distinct⟩
    | opened took opening =>
      have keeps := openClient_keeps client opening
      exact ⟨keeps.1.trans (serving.told.trans (congrArg (!·) keeps.2.2.symm)), fun _ => rfl, distinct⟩
    | @exchanged command opening opened written reads =>
      have keeps := exchange_keeps client newString ⟨opening, written, reads⟩
      exact ⟨keeps.1.trans (serving.told.trans (congrArg (!·) keeps.2.2.symm)), fun _ => rfl, distinct⟩
    | answered exchanged told => exact ⟨serving.told, fun _ => rfl, distinct⟩
    | unanswered exchanged untold => exact ⟨serving.told, fun _ => rfl, distinct⟩

/-- What has ended its turn and what is pending was pending before, or was sent since, in this order. -/
theorem run_sublist (ran : (clientSystem dotted newString).run client tape = some (last, events)) :
    (events.map ClientEvent.command ++ last.pending).Sublist (client.pending ++ sentences dotted tape) := by
  induction tape generalizing client events with
  | nil =>
    cases ran
    exact List.sublist_append_left _ _
  | cons action rest ih =>
    obtain ⟨next, out, later, stepped, tail, rfl⟩ := System.run_cons_iff.mp ran
    have after := ih tail
    rcases send_or_other action with ⟨command, rfl⟩ | other
    · cases stepped
      refine after.trans ?_
      rw [sendCommand_pending]
      change List.Sublist _ (client.pending ++ sentenceOf dotted command :: sentences dotted rest)
      rw [List.append_assoc]
      refine List.Sublist.append_left ?_ _
      split_ifs
      · exact List.Sublist.refl _
      · exact List.sublist_cons_self _ _
    · have same : sentences dotted (action :: rest) = sentences dotted rest := by
        cases action with
        | sendCommand command => exact absurd rfl (other command)
        | _ => rfl
      rw [step_pending other stepped, List.map_append, List.append_assoc, List.append_assoc, same]
      exact List.Sublist.append_left after _

/-- What is pending ends its turn, or stays pending. -/
theorem run_pending {sentence : JavaString} (pends : sentence ∈ client.pending)
    (ran : (clientSystem dotted newString).run client tape = some (last, events)) :
    sentence ∈ events.map ClientEvent.command ++ last.pending := by
  induction tape generalizing client events with
  | nil =>
    cases ran
    exact pends
  | cons action rest ih =>
    obtain ⟨next, out, later, stepped, tail, rfl⟩ := System.run_cons_iff.mp ran
    rw [List.map_append, List.append_assoc]
    rcases send_or_other action with ⟨command, rfl⟩ | other
    · cases stepped
      refine List.mem_append_right _ (ih ?_ tail)
      rw [sendCommand_pending]
      exact List.mem_append_left _ pends
    · rw [step_pending other stepped] at pends
      rcases List.mem_append.mp pends with ended | still
      · exact List.mem_append_left _ ended
      · exact List.mem_append_right _ (ih still tail)

/-- Until the client is ended, every turn ends with an answer. -/
theorem run_answers (serving : client.Serving) (on : client.interrupted = false)
    (unended : ClientAction.endClient ∉ tape)
    (ran : (clientSystem dotted newString).run client tape = some (last, events)) :
    last.interrupted = false ∧ ∃ answers : List Answer, events = answers.map ClientEvent.onResponse := by
  induction tape generalizing client events with
  | nil =>
    cases ran
    exact ⟨on, [], rfl⟩
  | cons action rest ih =>
    obtain ⟨next, out, later, stepped, tail, rfl⟩ := System.run_cons_iff.mp ran
    rw [List.mem_cons, not_or] at unended
    have onward := fun on => ih (serving.kept stepped) on unended.2 tail
    have quiet (on : next.interrupted = false) (silent : out = []) :
        last.interrupted = false ∧ ∃ answers : List Answer, out ++ later = answers.map ClientEvent.onResponse := by
      rw [silent]
      exact onward on
    cases clientSystem_step stepped with
    | sendCommand command => exact quiet (by rw [sendCommand_eq]; exact on) rfl
    | endClient => exact absurd rfl unended.1
    | interrupted waits interrupted => exact absurd (on.symm.trans interrupted) nofun
    | took waits uninterrupted queue => exact quiet on rfl
    | opened took opening => exact quiet ((openClient_keeps client opening).2.2.trans on) rfl
    | exchanged opened written reads => exact quiet ((exchange_keeps client newString _).2.2.trans on) rfl
    | @answered command behaviour exchanged told =>
      obtain ⟨still, answers, rfl⟩ := onward on
      exact ⟨still, ⟨command, behaviour, client.mResponse⟩ :: answers, rfl⟩
    | unanswered exchanged untold =>
      rw [serving.told, on] at untold
      cases untold
    | fault interrupted serves => exact absurd (on.symm.trans interrupted) nofun

/-- Once the client is ended, the command that is served goes unanswered, and no other is taken. -/
theorem run_ended (serving : client.Serving) (off : client.interrupted = true)
    (ran : (clientSystem dotted newString).run client tape = some (last, events)) :
    events = [] ∨ ∃ command, client.mSendThread.command = some command ∧ events = [.unanswered command] := by
  induction tape generalizing client events with
  | nil =>
    cases ran
    exact .inl rfl
  | cons action rest ih =>
    obtain ⟨next, out, later, stepped, tail, rfl⟩ := System.run_cons_iff.mp ran
    have onward := fun off => ih (serving.kept stepped) off tail
    have untold : client.mCallBack = false := by rw [serving.told, off]; rfl
    cases clientSystem_step stepped with
    | sendCommand command =>
      rw [sendCommand_eq] at onward
      exact onward off
    | endClient => exact onward rfl
    | interrupted waits interrupted =>
      rcases onward off with none | ⟨command, serves, -⟩
      · exact .inl none
      · cases serves
    | took waits uninterrupted queue => exact absurd (uninterrupted.symm.trans off) nofun
    | opened took opening =>
      rw [took]
      exact onward ((openClient_keeps client opening).2.2.trans off)
    | exchanged opened written reads =>
      rw [opened]
      exact onward ((exchange_keeps client newString _).2.2.trans off)
    | answered exchanged told => exact absurd (untold.symm.trans told) nofun
    | @unanswered command behaviour exchanged _ =>
      rcases onward off with rfl | ⟨command, serves, -⟩
      · exact .inr ⟨command, by rw [exchanged]; rfl, rfl⟩
      · cases serves
    | @fault command interrupted serves =>
      rcases onward off with rfl | ⟨command, serves, -⟩
      · exact .inr ⟨command, serves, rfl⟩
      · cases serves

/-- Every turn has ended with an answer, or all but the last, of the command that was served when the client was ended. -/
def Answered (dotted : Bool) (newString : List UInt8 → JavaString) (tape : List ClientAction)
    (events : List ClientEvent) : Prop :=
  ∃ answers : List Answer, events = answers.map ClientEvent.onResponse ∨
    ∃ before after middle command, tape = before ++ .endClient :: after ∧ .endClient ∉ before ∧
      (clientSystem dotted newString).run {} before = some (middle, answers.map ClientEvent.onResponse) ∧
      middle.mSendThread.command = some command ∧
      events = answers.map ClientEvent.onResponse ++ [.unanswered command]

theorem run_serving (ran : (clientSystem dotted newString).run {} tape = some (last, events)) : last.Serving := by
  have fresh : ClientSocket.Serving {} := ⟨rfl, fun _ => rfl, List.nodup_nil⟩
  exact @System.run_invariant_of_step _ _ _ (clientSystem dotted newString) (fun client _ => client.Serving)
    (fun _ _ _ _ _ serving stepped => serving.kept stepped) {} last [] events tape fresh ran

theorem run_answered (ran : (clientSystem dotted newString).run {} tape = some (last, events)) :
    Answered dotted newString tape events := by
  have fresh : ClientSocket.Serving {} := ⟨rfl, fun _ => rfl, List.nodup_nil⟩
  by_cases ended : ClientAction.endClient ∈ tape
  · obtain ⟨before, after, rfl, unended⟩ := List.eq_append_cons_of_mem ended
    obtain ⟨middle, earlier, later, first, second, rfl⟩ := System.run_append_iff.mp ran
    obtain ⟨-, answers, rfl⟩ := run_answers fresh rfl unended first
    obtain ⟨next, out, rest, stepped, tail, rfl⟩ := System.run_cons_iff.mp second
    have serving := (run_serving first).kept stepped
    cases stepped
    rcases run_ended serving rfl tail with rfl | ⟨command, serves, rfl⟩
    · exact ⟨answers, .inl (List.append_nil _)⟩
    · exact ⟨answers, .inr ⟨before, after, middle, command, rfl, unended, first, serves, rfl⟩⟩
  · obtain ⟨-, answers, told⟩ := run_answers fresh rfl ended ran
    exact ⟨answers, .inl told⟩

/-- In every run the turns are of commands that were sent, in their order and once for each time they were sent at
most; a command that is sent before the end has its turn afterwards, or is served or waits in the queue; and every turn
ends with an answer, but for the one during which the client is ended. -/
theorem clientSystem_served (dotted : Bool) (newString : List UInt8 → JavaString)
    (ran : (clientSystem dotted newString).run {} tape = some (last, events)) :
    (events.map ClientEvent.command ++ last.pending).Sublist (sentences dotted tape) ∧ last.mCommandQueue.Nodup ∧
      (∀ before command after, tape = before ++ .sendCommand command :: after → .endClient ∉ before →
        ∃ middle earlier later, (clientSystem dotted newString).run {} before = some (middle, earlier) ∧
          events = earlier ++ later ∧
          sentenceOf dotted command ∈ later.map ClientEvent.command ++ last.pending) ∧
      Answered dotted newString tape events := by
  refine ⟨run_sublist ran, (run_serving ran).distinct, ?_, run_answered ran⟩
  rintro before command after rfl unended
  obtain ⟨middle, earlier, later, first, second, rfl⟩ := System.run_append_iff.mp ran
  obtain ⟨next, out, rest, stepped, tail, rfl⟩ := System.run_cons_iff.mp second
  have on := (run_answers ⟨rfl, fun _ => rfl, List.nodup_nil⟩ rfl unended first).1
  have alive := (run_serving first).alive on
  refine ⟨middle, earlier, out ++ rest, first, rfl, ?_⟩
  cases stepped
  refine run_pending ?_ tail
  rw [sendCommand_pending]
  by_cases waits : sentenceOf dotted command ∈ middle.mCommandQueue
  · exact List.mem_append_left _ (List.mem_append_right _ waits)
  · rw [if_pos ⟨alive, waits⟩]
    exact List.mem_append_right _ List.mem_cons_self

/-- The first command is answered; the client is ended while the second is served and the third waits. -/
def endedTape : List ClientAction :=
  .sendCommand (javaLit "PMTK605".toList) :: turn (answeredBy "$PMTK705,AXN_1.0*2B") ++
    [.sendCommand (javaLit "PMTK837,1,3".toList), .sendCommand (javaLit "PMTK605".toList), .take,
      .openClient .complete, .endClient, .exchange true [], .onResponse, .take]

def endedEvents : List ClientEvent :=
  [.onResponse ⟨javaLit "$PMTK605*31".toList, answeredBy "$PMTK705,AXN_1.0*2B",
      some (javaLit "$PMTK705,AXN_1.0*2B".toList)⟩,
    .unanswered (javaLit "$PMTK837,1,3*3C".toList)]

theorem clientSystem_served_ended :
    ∃ last, (clientSystem false asciiString).run {} endedTape = some (last, endedEvents) ∧
      last.isAlive = false ∧ (endedEvents.map ClientEvent.command ++ last.pending).Sublist (sentences false endedTape) ∧
      Answered false asciiString endedTape endedEvents := by
  obtain ⟨last, ran, dead⟩ : ∃ last, (clientSystem false asciiString).run {} endedTape = some (last, endedEvents) ∧
      last.isAlive = false := ⟨_, rfl, rfl⟩
  obtain ⟨sublist, -, -, answered⟩ := clientSystem_served false asciiString ran
  exact ⟨last, ran, dead, sublist, answered⟩

end Served

end Mt6582.Ygps

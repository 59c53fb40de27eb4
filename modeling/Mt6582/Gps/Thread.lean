import Mt6582.Gps.Nmea.Assembly
import Mt6582.Machine.System

/-! # The event loop of `gps_state_thread`

The loop as a labelled system whose steps are single reads and single bytes, so that commands, reads
and bytes interleave in every order the loop allows. The reader is local to the thread and fresh at
its start; `started`, `count`, `report_time_interval` and the NMEA globals outlive the thread and
start with any value. Messages of the daemon and of the codec socket never touch these fields; the
handshake around `flag_unlock` is modelled with the framework's calls.
-/

namespace Mt6582.Gps

open Machine

variable {F : Type} {pf : Platform F}

/-- The byte read from the control socket; `other` is any value without a branch of its own. -/
inductive Command where
  | quit | start | stop | restart | download | other
deriving DecidableEq, Repr

/-- Where the loop stands: waiting for events, in the read of a rate-limited event, in the read loop
of a handled event, at the bytes that remain of a read, or past `Exit`. -/
inductive ThreadMode where
  | poll
  | discard
  | fetch
  | feed (bytes : List Byte)
  | exited
deriving DecidableEq, Repr

structure ThreadState (pf : Platform F) where
  nmea : NmeaState pf
  started : Bool
  count : Nat
  reportTimeInterval : ℚ
  mode : ThreadMode

/-- One step: a command, an event on `gps_fd`, the outcome of a read, one byte (with the clock and the
property the parser may ask for), a hang-up, or a new interval set by the framework. -/
inductive ThreadAction where
  | control (cmd : Command)
  | gpsFd
  | read (bytes : List Byte)
  | readFails
  | byte (now : Int) (mnlProp : List Byte)
  | hangUp
  | setPositionMode (interval : ℚ)

/-- What is seen of the thread: the reader's calls, and each command with whether it changed `started`. -/
inductive ThreadEvent (pf : Platform F) where
  | call (call : Call pf)
  | command (cmd : Command) (changed : Bool)

/-- `sizeof(buff)`. -/
def readSize : Nat := 2048

/-- The branches on `cmd`; the second component says whether `started` changed. -/
def ThreadState.command (s : ThreadState pf) : Command → ThreadState pf × Bool
  | .quit => ({ s with mode := .exited }, false)
  | .start =>
      if s.started then (s, false)
      else ({ s with started := true, nmea.reader := nmeaReaderSetCallback s.nmea.reader true }, true)
  | .stop =>
      if s.started then ({ s with started := false, nmea.reader := nmeaReaderSetCallback s.nmea.reader false }, true)
      else (s, false)
  | .restart => ({ s with nmea.reader.fixMode := 0 }, false)
  | .download => (s, false)
  | .other => (s, false)

/-- What the parser reads of its surroundings. -/
def ThreadState.parseEnv (s : ThreadState pf) (now : Int) (mnlProp : List Byte) : ParseEnv :=
  ⟨pf.sizeofGpsCallbacksMtk, s.started, now, mnlProp⟩

/-- The body of the byte loop: the end tag is raised at the last byte of the read. -/
def ThreadState.addByte (s : ThreadState pf) (c : Byte) (rest : List Byte) (now : Int) (mnlProp : List Byte) :
    NmeaState pf × List (Call pf) :=
  nmeaReaderAddc (s.parseEnv now mnlProp) { s.nmea with gpsNmeaEndTag := rest.isEmpty || s.nmea.gpsNmeaEndTag } c

def ThreadState.feedMode : List Byte → ThreadMode
  | [] => .fetch
  | c :: rest => .feed (c :: rest)

def gpsStateThreadStep (s : ThreadState pf) : ThreadAction → Option (ThreadState pf × List (ThreadEvent pf))
  | .control cmd =>
      if s.mode = .poll then some ((s.command cmd).1, [.command cmd (s.command cmd).2]) else none
  | .gpsFd =>
      if s.mode = .poll then
        if s.reportTimeInterval > (s.count + 1 : Nat) then some ({ s with count := s.count + 1, mode := .discard }, [])
        else some ({ s with count := 0, mode := .fetch }, [])
      else none
  | .read bytes =>
      if bytes.length ≤ readSize then
        match s.mode with
        | .discard => some ({ s with mode := .poll }, [])
        | .fetch => some ({ s with nmea.gpsNmeaEndTag := false, mode := ThreadState.feedMode bytes }, [])
        | _ => none
      else none
  | .readFails =>
      match s.mode with
      | .discard => some ({ s with mode := .poll }, [])
      | .fetch => some ({ s with mode := .poll }, [])
      | _ => none
  | .byte now mnlProp =>
      match s.mode with
      | .feed (c :: rest) =>
          let added := s.addByte c rest now mnlProp
          some ({ s with nmea := added.1, mode := ThreadState.feedMode rest }, added.2.map .call)
      | _ => none
  | .hangUp => if s.mode = .poll then some ({ s with mode := .exited }, []) else none
  | .setPositionMode interval => some ({ s with reportTimeInterval := interval }, [])

def gpsStateThread (pf : Platform F) : System (ThreadState pf) ThreadAction (ThreadEvent pf) := ⟨gpsStateThreadStep⟩

/-- The thread has just initialised its reader; the globals are whatever they are. -/
structure ThreadState.Initial (s : ThreadState pf) : Prop where
  reader : s.nmea.reader = nmeaReaderInit pf
  mode : s.mode = .poll

/-- Everything a step can do: handle a command, add one byte, or neither touch the reader nor `started`. The bytes
of a read are first reached with the end tag down. -/
theorem gpsStateThread_cases {s next : ThreadState pf} {a : ThreadAction}
    {out : List (ThreadEvent pf)}
    (stepped : (gpsStateThread pf).step s a = some (next, out)) :
    (∃ cmd, a = .control cmd ∧ s.mode = .poll ∧ next = (s.command cmd).1 ∧
      out = [.command cmd (s.command cmd).2]) ∨
    (∃ c rest now mnlProp, a = .byte now mnlProp ∧ s.mode = .feed (c :: rest) ∧
      next = { s with nmea := (s.addByte c rest now mnlProp).1, mode := ThreadState.feedMode rest } ∧
      out = (s.addByte c rest now mnlProp).2.map .call) ∨
    ((∀ cmd, a ≠ .control cmd) ∧ (∀ now mnlProp, a ≠ .byte now mnlProp) ∧ next.nmea.reader = s.nmea.reader ∧
      next.nmea.svUsedInFix = s.nmea.svUsedInFix ∧ next.started = s.started ∧
      (∀ bytes, next.mode = .feed bytes → next.nmea.gpsNmeaEndTag = false ∨ (s.mode = .feed bytes ∧ next.nmea = s.nmea)) ∧
      out = []) := by
  cases a with
  | control cmd =>
    simp only [gpsStateThread, gpsStateThreadStep] at stepped
    split_ifs at stepped with polling
    cases stepped
    exact .inl ⟨cmd, rfl, polling, rfl, rfl⟩
  | byte now mnlProp =>
    simp only [gpsStateThread, gpsStateThreadStep] at stepped
    split at stepped
    · next c rest found =>
      cases stepped
      exact .inr (.inl ⟨c, rest, now, mnlProp, rfl, found, rfl, rfl⟩)
    · contradiction
  | gpsFd =>
    simp only [gpsStateThread, gpsStateThreadStep] at stepped
    split_ifs at stepped <;> cases stepped <;> exact .inr (.inr ⟨nofun, nofun, rfl, rfl, rfl, nofun, rfl⟩)
  | read bytes =>
    simp only [gpsStateThread, gpsStateThreadStep] at stepped
    split_ifs at stepped
    split at stepped <;> cases stepped
    · exact .inr (.inr ⟨nofun, nofun, rfl, rfl, rfl, nofun, rfl⟩)
    · exact .inr (.inr ⟨nofun, nofun, rfl, rfl, rfl, fun _ _ => .inl rfl, rfl⟩)
  | readFails =>
    simp only [gpsStateThread, gpsStateThreadStep] at stepped
    split at stepped <;> cases stepped <;> exact .inr (.inr ⟨nofun, nofun, rfl, rfl, rfl, nofun, rfl⟩)
  | hangUp =>
    simp only [gpsStateThread, gpsStateThreadStep] at stepped
    split_ifs at stepped
    cases stepped
    exact .inr (.inr ⟨nofun, nofun, rfl, rfl, rfl, nofun, rfl⟩)
  | setPositionMode interval =>
    cases stepped
    exact .inr (.inr ⟨nofun, nofun, rfl, rfl, rfl, fun _ feeding => .inr ⟨feeding, rfl⟩, rfl⟩)

/-- A started thread with a fresh reader and 64 satellite slots. -/
def freshThread : ThreadState (Platform.utc 64 satellites_lt) :=
  ⟨⟨nmeaReaderInit _, fun _ => false, false⟩, true, 0, 0, .poll⟩

end Mt6582.Gps

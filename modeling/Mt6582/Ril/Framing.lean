import Mt6582.Machine.Buffer
import Mathlib.Algebra.Group.Nat.Defs
import Mathlib.Data.List.Basic

/-! # Framing of RIL messages

`readRilMessage` of `MediaTekRIL` and the receive loop of `MTKRILReceiver.run`. A message is its length in
four big-endian bytes and then its payload; both are read into one buffer, by loops that take what each read
gives. An input stream is what it has left and how much it would give at each of its reads, so a statement
about all streams is one about every way the bytes may be split.
-/

namespace Mt6582.Ril

open Machine

abbrev Byte := UInt8

/-- `RIL_MAX_COMMAND_BYTES`. -/
def rilMaxCommandBytes : Nat := 8192

section Model

/-- `rest` ends where the stream ends; `split` says how many bytes a read would give. -/
structure InputStream where
  rest : List Byte
  split : Nat → Nat
  reads : Nat

inductive Fault where
  | indexOutOfBounds
deriving DecidableEq, Repr

/-- `is.read(buffer, offset, remaining)`: nothing when nothing is asked for, -1 at the end of the stream, else
at least one of the bytes there are. -/
def InputStream.read (is : InputStream) (buffer : List Byte) (offset remaining : Int) :
    Except Fault (Int × List Byte × InputStream) :=
  let next := { is with reads := is.reads + 1 }
  if offset < 0 ∨ remaining < 0 ∨ buffer.length < offset + remaining then .error .indexOutOfBounds
  else if remaining = 0 then .ok (0, buffer, next)
  else if is.rest = [] then .ok (-1, buffer, next)
  else
    let count := max 1 (min (is.split is.reads) (min remaining.toNat is.rest.length))
    .ok (count, overwrite buffer offset.toNat (is.rest.take count), { next with rest := is.rest.drop count })

theorem InputStream.read_progress {is next : InputStream} {buffer after : List Byte}
    {offset remaining count : Int}
    (success : is.read buffer offset remaining = .ok (count, after, next)) (given : ¬ count < 0)
    (more : 0 < remaining) :
    1 ≤ count := by
  rw [InputStream.read] at success
  dsimp only at success
  split_ifs at success with outside none ended
  · omega
  · cases success
    omega
  · cases success
    omega

/-- The loop that fills `remaining` bytes of the buffer; `false` when the stream ended first. -/
def fill (is : InputStream) (buffer : List Byte) (offset remaining : Int) :
    Except Fault (Bool × List Byte × InputStream) :=
  match success : is.read buffer offset remaining with
  | .error fault => .error fault
  | .ok (countRead, buffer, is) =>
      if given : countRead < 0 then .ok (false, buffer, is)
      else if more : 0 < remaining - countRead then
        have := InputStream.read_progress success given (by omega)
        fill is buffer (offset + countRead) (remaining - countRead)
      else .ok (true, buffer, is)
termination_by remaining.toNat

/-- `(buffer[index] & 0xff)` as an `int`. -/
def byteAt (buffer : List Byte) (index : Nat) : BitVec 32 := (buffer.getD index 0).toBitVec.setWidth 32

/-- The length in the first four bytes of the buffer. -/
def messageLength (buffer : List Byte) : Int :=
  (byteAt buffer 0 <<< 24 ||| byteAt buffer 1 <<< 16 ||| byteAt buffer 2 <<< 8 ||| byteAt buffer 3).toInt

/-- `readRilMessage`, with the buffer and the stream it leaves. -/
def readRilMessage (is : InputStream) (buffer : List Byte) : Except Fault (Int × List Byte × InputStream) :=
  match fill is buffer 0 4 with
  | .error fault => .error fault
  | .ok (false, buffer, is) => .ok (-1, buffer, is)
  | .ok (true, buffer, is) =>
      let length := messageLength buffer
      match fill is buffer 0 length with
      | .error fault => .error fault
      | .ok (false, buffer, is) => .ok (-1, buffer, is)
      | .ok (true, buffer, is) => .ok (length, buffer, is)

/-- A read takes as many bytes from the stream as it gives, and no more than it was asked for. -/
theorem InputStream.read_consumes {is next : InputStream} {buffer after : List Byte}
    {offset remaining count : Int}
    (success : is.read buffer offset remaining = .ok (count, after, next)) (given : ¬ count < 0) :
    count ≤ remaining ∧ (next.rest.length : Int) + count = is.rest.length := by
  rw [InputStream.read] at success
  dsimp only at success
  split_ifs at success with outside none ended
  · cases success
    exact ⟨by omega, Int.add_zero _⟩
  · cases success
    omega
  · cases success
    have size : 0 < is.rest.length := List.length_pos_iff.mpr ended
    simp only [List.length_drop]
    omega

/-- A loop that completes takes what it was asked for from the stream. -/
theorem fill_consumes {is next : InputStream} {buffer after : List Byte} {offset remaining : Int}
    (success : fill is buffer offset remaining = .ok (true, after, next)) :
    (next.rest.length : Int) + remaining = is.rest.length := by
  fun_induction fill is buffer offset remaining with
  | case1 => cases success
  | case2 => cases success
  | case3 is buffer offset remaining count middle stream read given more _ ih =>
    have := ih success
    have := InputStream.read_consumes read given
    omega
  | case4 is buffer offset remaining count middle stream read given done =>
    cases success
    have := InputStream.read_consumes read given
    omega

/-- A message that is returned has taken its length and its payload from the stream. -/
theorem readRilMessage_consumes {is next : InputStream} {buffer after : List Byte} {length : Int}
    (success : readRilMessage is buffer = .ok (length, after, next)) (given : ¬ length < 0) :
    next.rest.length < is.rest.length := by
  rw [readRilMessage] at success
  split at success
  · cases success
  · cases success
    omega
  · next lengthRead =>
    have := fill_consumes lengthRead
    dsimp only at success
    split at success
    · cases success
    · cases success
      omega
    · next payloadRead =>
      have := fill_consumes payloadRead
      cases success
      omega

/-- The inner loop of `MTKRILReceiver.run`: the messages handed to `processResponse`, each with its length, and what
ended the loop. -/
def receive (is : InputStream) (buffer : List Byte) : List (Int × List Byte) × Except Fault Int :=
  match success : readRilMessage is buffer with
  | .error fault => ([], .error fault)
  | .ok (length, buffer, next) =>
      if given : length < 0 then ([], .ok length)
      else
        have := readRilMessage_consumes success given
        let later := receive next buffer
        ((length, buffer.take length.toNat) :: later.1, later.2)
termination_by is.rest.length

end Model

section Loop

variable {is : InputStream} {buffer : List Byte} {offset remaining : Nat}

/-- A read inside the buffer that asks for bytes of a stream with bytes gives some of them. -/
theorem InputStream.read_some (room : offset + remaining ≤ buffer.length) (asked : 0 < remaining)
    (left : is.rest ≠ []) :
    ∃ count : Nat, 1 ≤ count ∧ count ≤ remaining ∧ count ≤ is.rest.length ∧
      is.read buffer offset remaining =
      .ok ((count : Int), overwrite buffer offset (is.rest.take count),
        { is with rest := is.rest.drop count, reads := is.reads + 1 }) := by
  have size : 0 < is.rest.length := List.length_pos_iff.mpr left
  refine ⟨max 1 (min (is.split is.reads) (min remaining is.rest.length)), by omega, by omega, by omega, ?_⟩
  rw [InputStream.read, if_neg (by omega), if_neg (by omega), if_neg left]
  rfl

theorem InputStream.read_none (room : offset + 0 ≤ buffer.length) :
    is.read buffer offset (0 : Nat) =
      .ok ((0 : Nat), buffer, { is with reads := is.reads + 1 }) := by
  have inside :
      ¬ ((offset : Int) < 0 ∨ ((0 : Nat) : Int) < 0 ∨ (buffer.length : Int) < offset + (0 : Nat)) := by omega
  simp only [InputStream.read, if_neg inside]
  rfl

theorem InputStream.read_end (room : offset + remaining ≤ buffer.length) (asked : 0 < remaining)
    (ended : is.rest = []) :
    is.read buffer offset remaining = .ok (-1, buffer, { is with reads := is.reads + 1 }) := by
  rw [InputStream.read, if_neg (by omega), if_neg (by omega), if_pos ended]

/-- One round of the loop. -/
theorem fill_round {count : Nat} {after : List Byte} {next : InputStream} (few : count ≤ remaining)
    (gave : is.read buffer offset remaining = .ok ((count : Int), after, next)) :
    fill is buffer offset remaining =
      if count < remaining then fill next after (offset + count : Nat) (remaining - count : Nat)
      else .ok (true, after, next) := by
  rw [fill]
  split
  · next failed => rw [gave] at failed; cases failed
  · next read =>
    rw [gave] at read
    cases read
    rw [dif_neg (by omega), Int.natCast_add, Int.natCast_sub few]
    by_cases more : count < remaining
    · rw [dif_pos (by omega), if_pos more]
    · rw [dif_neg (by omega), if_neg more]

/-- However the reads split the bytes, the loop stores just as many as it was asked for. -/
theorem fill_complete (room : offset + remaining ≤ buffer.length)
    (enough : remaining ≤ is.rest.length) :
    ∃ reads, fill is buffer offset remaining = .ok (true, overwrite buffer offset (is.rest.take remaining),
      { is with rest := is.rest.drop remaining, reads := reads }) := by
  induction remaining using Nat.strongRecOn generalizing is buffer offset with
  | _ remaining ih =>
    rcases Nat.eq_zero_or_pos remaining with rfl | asked
    · rw [fill_round (Nat.le_refl 0) (InputStream.read_none room), if_neg (Nat.lt_irrefl 0)]
      exact ⟨is.reads + 1, by simp [overwrite]⟩
    · have left : is.rest ≠ [] := List.ne_nil_of_length_pos (by omega)
      obtain ⟨count, some, few, present, gave⟩ := is.read_some room asked left
      rw [fill_round few gave]
      split
      · next more =>
        have taken : (is.rest.take count).length = count := List.length_take_of_le present
        have joined :=
          @overwrite_overwrite _ buffer (is.rest.take count) ((is.rest.drop count).take (remaining - count))
          offset (by omega)
        have sum : count + (remaining - count) = remaining := by omega
        obtain ⟨reads, filled⟩ := @ih (remaining - count) (by omega)
          { is with rest := is.rest.drop count, reads := is.reads + 1 } (overwrite buffer offset (is.rest.take count))
          (offset + count) (by rw [overwrite_length (by omega)]; omega) (by rw [List.length_drop]; omega)
        refine ⟨reads, ?_⟩
        rw [taken, ← List.take_add, sum] at joined
        rw [filled, joined, List.drop_drop, sum]
      · next done =>
        obtain rfl : count = remaining := by omega
        exact ⟨is.reads + 1, rfl⟩

/-- If the stream has fewer bytes, the loop meets its end. -/
theorem fill_cut (room : offset + remaining ≤ buffer.length) (short : is.rest.length < remaining) :
    ∃ after next, fill is buffer offset remaining = .ok (false, after, next) := by
  induction remaining using Nat.strongRecOn generalizing is buffer offset with
  | _ remaining ih =>
    by_cases ended : is.rest = []
    · refine ⟨buffer, { is with reads := is.reads + 1 }, ?_⟩
      rw [fill]
      split
      · next failed => rw [InputStream.read_end room (by omega) ended] at failed; cases failed
      · next read =>
        rw [InputStream.read_end room (by omega) ended] at read
        cases read
        rfl
    · obtain ⟨count, some, few, present, gave⟩ := is.read_some room (by omega) ended
      have taken : (is.rest.take count).length = count := List.length_take_of_le present
      rw [fill_round few gave, if_pos (by omega)]
      apply ih (remaining - count) (by omega)
      · rw [overwrite_length (by omega)]
        omega
      · rw [List.length_drop]
        omega

end Loop

section Frames

/-- A length in four bytes, the highest first. -/
def lengthBytes (length : Nat) : List Byte :=
  [.ofNat (length / 2 ^ 24), .ofNat (length / 2 ^ 16), .ofNat (length / 2 ^ 8), .ofNat length]

/-- A message as it is written to the stream. -/
def frame (message : List Byte) : List Byte := lengthBytes message.length ++ message

/-- What is left when the stream ends inside a frame, or in front of one. -/
def Truncated (tail : List Byte) : Prop :=
  ∃ message missing, message.length ≤ rilMaxCommandBytes ∧ missing ≠ [] ∧ tail ++ missing = frame message

/-- A byte shifted behind a number is or-ed to it as a digit. -/
private theorem shiftLeft_or_shiftLeft {digit : Nat} (small : digit < 2 ^ 8) (number shift : Nat) :
    number <<< (shift + 8) ||| digit <<< shift = (number * 2 ^ 8 + digit) <<< shift := by
  have below : digit <<< shift < 2 ^ (shift + 8) := by
    rw [Nat.shiftLeft_eq, Nat.add_comm, Nat.pow_add]
    exact Nat.mul_lt_mul_of_pos_right small (Nat.two_pow_pos shift)
  rw [← Nat.shiftLeft_add_eq_or_of_lt below, Nat.shiftLeft_eq, Nat.shiftLeft_eq, Nat.shiftLeft_eq,
    Nat.add_mul, Nat.add_comm shift 8, Nat.pow_add, Nat.mul_assoc]

/-- Four bytes joined by shifts and ors are the digits of a number to the base 256. -/
private theorem join_toNat (first second third fourth : UInt8) :
    (first.toBitVec.setWidth 32 <<< 24 ||| second.toBitVec.setWidth 32 <<< 16 ||| third.toBitVec.setWidth 32 <<< 8 |||
      fourth.toBitVec.setWidth 32).toNat =
      ((first.toNat * 2 ^ 8 + second.toNat) * 2 ^ 8 + third.toNat) * 2 ^ 8 + fourth.toNat := by
  have fits (b : UInt8) (shift : Nat) (small : shift ≤ 24) :
      (b.toBitVec.setWidth 32 <<< shift).toNat = b.toNat <<< shift := by
    have bound := b.toNat_lt
    have wide : b.toNat % 2 ^ 32 = b.toNat := Nat.mod_eq_of_lt (by omega)
    rw [BitVec.toNat_shiftLeft, BitVec.toNat_setWidth, UInt8.toNat_toBitVec, wide, Nat.shiftLeft_eq]
    apply Nat.mod_eq_of_lt
    calc b.toNat * 2 ^ shift < 2 ^ 8 * 2 ^ shift :=
    Nat.mul_lt_mul_of_pos_right bound (Nat.two_pow_pos shift)
      _ ≤ 2 ^ 8 * 2 ^ 24 := Nat.mul_le_mul_left _ (Nat.pow_le_pow_right (by decide) small)
      _ = 2 ^ 32 := rfl
  have last := fits fourth 0 (by decide)
  rw [BitVec.shiftLeft_zero] at last
  rw [BitVec.toNat_or, BitVec.toNat_or, BitVec.toNat_or, fits _ _ (by decide), fits _ _ (by decide),
    fits _ _ (by decide), last, shiftLeft_or_shiftLeft second.toNat_lt,
    shiftLeft_or_shiftLeft third.toNat_lt, shiftLeft_or_shiftLeft fourth.toNat_lt,
    Nat.shiftLeft_zero]

/-- The length is read back from the bytes it was written as. -/
theorem messageLength_lengthBytes {length : Nat} (small : length < 2 ^ 31) (rest : List Byte) :
    messageLength (lengthBytes length ++ rest) = length := by
  have digits :=
    join_toNat (.ofNat (length / 2 ^ 24)) (.ofNat (length / 2 ^ 16)) (.ofNat (length / 2 ^ 8)) (.ofNat length)
  simp only [UInt8.toNat_ofNat'] at digits
  have value :
      ((length / 2 ^ 24 % 2 ^ 8 * 2 ^ 8 + length / 2 ^ 16 % 2 ^ 8) * 2 ^ 8 + length / 2 ^ 8 % 2 ^ 8) * 2 ^ 8 +
      length % 2 ^ 8 = length := by omega
  rw [value] at digits
  have word :
      (byteAt (lengthBytes length ++ rest) 0 <<< 24 ||| byteAt (lengthBytes length ++ rest) 1 <<< 16 |||
      byteAt (lengthBytes length ++ rest) 2 <<< 8 ||| byteAt (lengthBytes length ++ rest) 3).toNat =
        length := digits
  rw [messageLength, BitVec.toInt_eq_toNat_of_lt (by rw [word]; omega), word]

private theorem overwrite_front (object values : List Byte) :
    overwrite object 0 values = values ++ object.drop values.length := by
  simp [overwrite]

/-- The first loop of a frame leaves its length in the buffer. -/
private theorem fill_length {is : InputStream} {buffer : List Byte} {length : Nat}
    {after : List Byte} (size : buffer.length = rilMaxCommandBytes)
    (fits : length ≤ rilMaxCommandBytes) (bytes : is.rest = lengthBytes length ++ after) :
    ∃ filled reads,
      fill is buffer 0 4 = .ok (true, filled, { is with rest := after, reads := reads }) ∧
      filled.length = rilMaxCommandBytes ∧ messageLength filled = length := by
  have enough : 4 ≤ is.rest.length := by
    rw [bytes, List.length_append]
    exact Nat.le_add_right 4 _
  have room : 0 + 4 ≤ buffer.length := by
    rw [size]
    decide
  obtain ⟨reads, filled⟩ := @fill_complete is buffer 0 4 room enough
  have front : is.rest.take 4 = lengthBytes length := by
    rw [bytes]
    rfl
  have back : is.rest.drop 4 = after := by
    rw [bytes]
    rfl
  rw [front, back] at filled
  refine ⟨overwrite buffer 0 (lengthBytes length), reads, filled, ?_, ?_⟩
  · exact (overwrite_length room).trans size
  · rw [overwrite_front]
    apply messageLength_lengthBytes
    rw [rilMaxCommandBytes] at fits
    omega

/-- One message: its length is returned and its payload stands at the front of the buffer. -/
theorem readRilMessage_frame {is : InputStream} {buffer message after : List Byte}
    (size : buffer.length = rilMaxCommandBytes) (fits : message.length ≤ rilMaxCommandBytes)
    (bytes : is.rest = frame message ++ after) : ∃ filled reads,
      readRilMessage is buffer = .ok ((message.length : Int), filled, { is with rest := after, reads := reads }) ∧
      filled.length = rilMaxCommandBytes ∧ filled.take message.length = message := by
  rw [frame, List.append_assoc] at bytes
  obtain ⟨middle, first, lengthRead, middleSize, length⟩ := fill_length size fits bytes
  let rest : InputStream := { is with rest := message ++ after, reads := first }
  obtain ⟨second, payloadRead⟩ :=
    @fill_complete rest middle 0 message.length (by omega) (by rw [List.length_append]; omega)
  rw [List.take_left, List.drop_left, Int.natCast_zero] at payloadRead
  refine ⟨overwrite middle 0 message, second, ?_, ?_, ?_⟩
  · rw [readRilMessage, lengthRead]
    dsimp only
    rw [length, payloadRead]
  · rw [overwrite_length (by omega), middleSize]
  · rw [overwrite_front]
    exact List.take_left

/-- A stream cut after the length of a frame still has the length. -/
private theorem cut_after_length {bytes message missing : List Byte}
    (whole : bytes ++ missing = frame message) (inside : 4 ≤ bytes.length) :
    ∃ part, bytes = lengthBytes message.length ++ part := by
  have front := congrArg (List.take 4) whole
  rw [List.take_append_of_le_length inside] at front
  refine ⟨bytes.drop 4, ?_⟩
  calc bytes = bytes.take 4 ++ bytes.drop 4 := (List.take_append_drop 4 bytes).symm
    _ = lengthBytes message.length ++ bytes.drop 4 := congrArg (· ++ bytes.drop 4) front

/-- The end of the stream inside a frame, or in front of one. -/
theorem readRilMessage_truncated {is : InputStream} {buffer : List Byte}
    (size : buffer.length = rilMaxCommandBytes) (cut : Truncated is.rest) :
    ∃ left next, readRilMessage is buffer = .ok (-1, left, next) := by
  obtain ⟨message, missing, fits, nonempty, whole⟩ := cut
  rw [readRilMessage]
  rcases Nat.lt_or_ge is.rest.length 4 with inLength | inside
  · obtain ⟨left, next, ended⟩ := @fill_cut is buffer 0 4 (by rw [size]; decide) inLength
    have first : fill is buffer 0 4 = .ok (false, left, next) := ended
    rw [first]
    exact ⟨left, next, rfl⟩
  · obtain ⟨part, rest⟩ := cut_after_length whole inside
    obtain ⟨middle, reads, lengthRead, middleSize, length⟩ := fill_length size fits rest
    have short : part.length < message.length := by
      rw [rest, frame, List.append_assoc, List.append_cancel_left_eq] at whole
      rw [← whole, List.length_append]
      exact Nat.lt_add_of_pos_right (List.length_pos_iff.mpr nonempty)
    obtain ⟨left, next, ended⟩ :=
      @fill_cut { is with rest := part, reads := reads } middle 0 message.length (by omega) short
    rw [Int.natCast_zero] at ended
    refine ⟨left, next, ?_⟩
    rw [lengthRead]
    dsimp only
    rw [length, ended]

/-- One round of the receive loop. -/
theorem receive_round {is next : InputStream} {buffer after : List Byte} {length : Int}
    (read : readRilMessage is buffer = .ok (length, after, next)) :
    receive is buffer =
      if length < 0 then ([], .ok length)
      else ((length, after.take length.toNat) :: (receive next after).1, (receive next after).2) := by
  rw [receive]
  split
  · next failed => rw [read] at failed; cases failed
  · next same =>
    rw [read] at same
    cases same
    rfl

/-- Successive calls return the messages in order, each with its length, and then -1: at the end of the stream, or
inside a frame that the stream does not complete. -/
theorem receive_frames {is : InputStream} {buffer tail : List Byte} {messages : List (List Byte)}
    (size : buffer.length = rilMaxCommandBytes) (fits : ∀ message ∈ messages, message.length ≤ rilMaxCommandBytes)
    (cut : Truncated tail) (bytes : is.rest = messages.flatMap frame ++ tail) :
    receive is buffer = (messages.map fun message => ((message.length : Int), message), .ok (-1)) := by
  induction messages generalizing is buffer with
  | nil =>
    have ending : Truncated is.rest := by
      rw [bytes]
      exact cut
    obtain ⟨left, next, ended⟩ := readRilMessage_truncated size ending
    rw [receive_round ended]
    rfl
  | cons message messages ih =>
    rw [List.flatMap_cons, List.append_assoc] at bytes
    obtain ⟨filled, reads, read, filledSize, payload⟩ :=
      readRilMessage_frame size (fits message List.mem_cons_self) bytes
    have later :=
      @ih { is with rest := messages.flatMap frame ++ tail, reads := reads } filled filledSize
      (fun other member => fits other (List.mem_cons_of_mem _ member)) rfl
    rw [receive_round read, if_neg (by omega), later, Int.toNat_natCast, payload]
    rfl

/-- A message of two bytes and an empty one arrive byte by byte; a third is cut off in its length. -/
theorem receive_frames_cut :
    receive ⟨frame [1, 2] ++ frame [] ++ [0, 0, 0], fun _ => 1, 0⟩ (List.replicate rilMaxCommandBytes 0) =
      ([(2, [1, 2]), (0, [])], .ok (-1)) := by
  have cut : Truncated [0, 0, 0] := ⟨[], [0], by decide, by decide, rfl⟩
  have fits :
      ∀ message ∈ [[1, 2], []], (message : List Byte).length ≤ rilMaxCommandBytes := by decide
  exact receive_frames List.length_replicate fits cut rfl

end Frames

end Mt6582.Ril

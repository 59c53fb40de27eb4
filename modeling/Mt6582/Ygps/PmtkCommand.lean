import Mt6582.Ygps.ClientSocket

/-! # The commands of the activity

The activity cuts a command out between `$` and `*` and the socket puts it between them again with a
checksum. The checksum is that of the command in capitals, the bytes that are sent are the command's own. No field
takes a command: the activity sends two of its own, of capitals, digits and commas, and for these both agree.
-/

namespace Mt6582.Ygps

open Machine

/-- `trim`. -/
def trim (text : JavaString) : JavaString := (text.dropWhile (· ≤ 32)).rdropWhile (· ≤ 32)

/-- An `Integer` as it is put behind a string. -/
def integerText (value : Int) : JavaString :=
  if value < 0 then 45 :: javaLit (Nat.toDigits 10 value.natAbs) else javaLit (Nat.toDigits 10 value.natAbs)

/-- `indexOf`, without a value where it gives -1. -/
def indexOf (c : UInt16) (text : JavaString) : Option Nat := text.findIdx? (· = c)

namespace YgpsActivity

/-- What stands between the markers. Without a value the user is told of an error. -/
def cutCommand (command : JavaString) : Option JavaString :=
  if trim command = [] then none
  else match indexOf 36 command, indexOf 42 command with
    | some index1, some index2 => if index2 < index1 then none else some ((command.take index2).drop (index1 + 1))
    | some index1, none => some (command.drop (index1 + 1))
    | none, some index2 => some (command.take index2)
    | none, none => some command

def sendCommand (dotted : Bool) (command : Option JavaString) (client : ClientSocket) : ClientSocket :=
  match command.bind cutCommand with
  | none => client
  | some com => client.sendCommand dotted (trim com)

/-- The command sent by `showVersion`, which does nothing while the activity is left. -/
def showVersion (dotted mIsExit : Bool) (client : ClientSocket) : ClientSocket :=
  if mIsExit then client else sendCommand dotted (some (javaLit "PMTK605".toList)) client

def INPUT_VALUE_MIN : Int := 0

def INPUT_VALUE_MAX : Int := 999

/-- The field holds a text, which `Integer.valueOf` may reject. -/
def onGpsJammingScanClicked (dotted : Bool) (jammingTimes : JavaString) (client : ClientSocket) :
    Except JavaException ClientSocket :=
  if jammingTimes.length = 0 then return client
  else do
    let times ← Machine.parseInt 10 (some jammingTimes)
    if times ≤ INPUT_VALUE_MIN ∨ times > INPUT_VALUE_MAX then return client
    else return sendCommand dotted (some (javaLit "PMTK837,1,".toList ++ integerText times)) client

end YgpsActivity

/-! ## What a sentence should be -/

/-- The exclusive or of the bytes that `writeBytes` sends. -/
def xorOfBytes (text : JavaString) : UInt8 := (text.map UInt16.toUInt8).foldl (· ^^^ ·) 0

/-- A sentence that the receiver accepts. -/
def Framed (sentence : JavaString) : Prop :=
  ∃ x : JavaString, sentence = [36] ++ x ++ [42] ++ upperHex (xorOfBytes x) ∧ x ≠ [] ∧ 42 ∉ x

/-- Behind the first `$`, if there is one, and in front of the first `*`, if there is one. -/
def body (command : JavaString) : JavaString :=
  (if 36 ∈ command then (command.dropWhile (· ≠ 36)).drop 1 else command).takeWhile (· ≠ 42)

/-- A letter that the capitals differ from by one bit. -/
def flipped (dotted : Bool) (c : UInt16) : Bool := decide (97 ≤ c ∧ c ≤ 122) && !(dotted && decide (c = 105))

/-- A letter that becomes a dotted capital. -/
def dottedI (dotted : Bool) (c : UInt16) : Bool := dotted && decide (c = 105)

/-- The small letters cancel out: their number is even, where the capital of `i` is dotted also without the
letters `i`. -/
def CaseBalanced (dotted : Bool) (text : JavaString) : Prop :=
  text.countP (flipped dotted) % 2 = 0 ∧ text.countP (dottedI dotted) % 2 = 0

/-! ## The checksum -/

section Checksum

theorem toUInt8_signExtend (b : UInt8) : b.toInt8.toInt32.toUInt32.toUInt8 = b := by
  have same :
      b.toInt8.toInt32.toUInt32.toUInt8.toBitVec = (b.toBitVec.signExtend 32).setWidth 8 := rfl
  apply UInt8.toBitVec_inj.mp
  rw [same]
  ext i inside
  rw [BitVec.getElem_setWidth, BitVec.getLsbD_signExtend, if_pos inside, decide_eq_true (by omega),
    Bool.true_and, BitVec.getLsbD_eq_getElem inside]

/-- The mask leaves the exclusive or of the bytes. -/
theorem toUInt8_foldl_xorByte (bytes : List UInt8) (temp : UInt32) :
    (bytes.foldl xorByte temp).toUInt8 = bytes.foldl (· ^^^ ·) temp.toUInt8 := by
  induction bytes generalizing temp with
  | nil => rfl
  | cons b bytes ih =>
    rw [List.foldl_cons, List.foldl_cons, ih, xorByte, UInt32.toUInt8_xor, toUInt8_signExtend]

theorem foldl_xor (bytes : List UInt8) (start : UInt8) :
    bytes.foldl (· ^^^ ·) start = start ^^^ bytes.foldl (· ^^^ ·) 0 := by
  induction bytes generalizing start with
  | nil => rw [List.foldl_nil, List.foldl_nil, UInt8.xor_zero]
  | cons b bytes ih =>
    rw [List.foldl_cons, List.foldl_cons, ih (start ^^^ b), ih (0 ^^^ b), UInt8.zero_xor,
      UInt8.xor_assoc]

theorem xorOfBytes_cons (c : UInt16) (text : JavaString) :
    xorOfBytes (c :: text) = c.toUInt8 ^^^ xorOfBytes text := by
  rw [xorOfBytes, List.map_cons, List.foldl_cons, foldl_xor, UInt8.zero_xor]
  rfl

/-- The exclusive or that the capitals give. -/
def xorOfCapitals (dotted : Bool) (text : JavaString) : UInt8 :=
  ((text.map (upperCase dotted)).flatMap utf8Bytes).foldl (· ^^^ ·) 0

theorem xorOfCapitals_cons (dotted : Bool) (c : UInt16) (text : JavaString) :
    xorOfCapitals dotted (c :: text) =
      (utf8Bytes (upperCase dotted c)).foldl (· ^^^ ·) 0 ^^^ xorOfCapitals dotted text := by
  rw [xorOfCapitals, List.map_cons, List.flatMap_cons, List.foldl_append, foldl_xor]
  rfl

/-- `value` if `n` is odd. -/
def oddly (value : UInt8) (n : Nat) : UInt8 := if n % 2 = 0 then 0 else value

theorem oddly_succ (value : UInt8) (n : Nat) : oddly value (n + 1) = value ^^^ oddly value n := by
  rw [oddly, oddly]
  rcases Decidable.em (n % 2 = 0) with even | odd
  · rw [if_neg (by omega), if_pos even, UInt8.xor_zero]
  · rw [if_pos (by omega), if_neg odd, UInt8.xor_self]

theorem oddly_countP_cons (value : UInt8) (p : UInt16 → Bool) (c : UInt16) (text : JavaString) :
    oddly value ((c :: text).countP p) =
      oddly value (if p c then 1 else 0) ^^^ oddly value (text.countP p) := by
  rw [List.countP_cons]
  cases p c with
  | false => exact (UInt8.zero_xor ..).symm
  | true => exact oddly_succ value _

theorem upperCase_bytes (dotted : Bool) {c : UInt16} (ascii : c < 128) :
    (utf8Bytes (upperCase dotted c)).foldl (· ^^^ ·) 0 = c.toUInt8 ^^^
      (oddly 0x20 (if flipped dotted c then 1 else 0) ^^^ oddly 0x1d (if dottedI dotted c then 1 else 0)) := by
  have each :
      ∀ n < 128,
      (utf8Bytes (upperCase dotted (UInt16.ofNat n))).foldl (· ^^^ ·) 0 =
      (UInt16.ofNat n).toUInt8 ^^^
      (oddly 0x20 (if flipped dotted (UInt16.ofNat n) then 1 else 0) ^^^
        oddly 0x1d (if dottedI dotted (UInt16.ofNat n) then 1 else 0)) := by
    cases dotted <;> decide
  have checked := each c.toNat ascii
  rwa [UInt16.ofNat_toNat] at checked

theorem xorOfCapitals_eq (dotted : Bool) {text : JavaString} (ascii : ∀ c ∈ text, c < 128) :
    xorOfCapitals dotted text = xorOfBytes text ^^^
      (oddly 0x20 (text.countP (flipped dotted)) ^^^ oddly 0x1d (text.countP (dottedI dotted))) := by
  induction text with
  | nil =>
    rw [List.countP_nil, List.countP_nil]
    rfl
  | cons c text ih =>
    obtain ⟨here, rest⟩ := List.forall_mem_cons.mp ascii
    rw [xorOfCapitals_cons, ih rest, upperCase_bytes dotted here, xorOfBytes_cons,
      oddly_countP_cons, oddly_countP_cons]
    ac_rfl

theorem oddly_xor_eq_zero_iff {m n : Nat} :
    oddly 0x20 m ^^^ oddly 0x1d n = 0 ↔ m % 2 = 0 ∧ n % 2 = 0 := by
  rw [oddly, oddly]
  split_ifs with first second second
  · exact iff_of_true (by decide) ⟨first, second⟩
  · exact iff_of_false (by decide) fun both => second both.2
  · exact iff_of_false (by decide) fun both => first both.1
  · exact iff_of_false (by decide) fun both => first both.1

theorem xorOfCapitals_eq_iff (dotted : Bool) {text : JavaString} (ascii : ∀ c ∈ text, c < 128) :
    xorOfCapitals dotted text = xorOfBytes text ↔ CaseBalanced dotted text := by
  rw [xorOfCapitals_eq dotted ascii, CaseBalanced, ← oddly_xor_eq_zero_iff]
  constructor
  · intro same
    rw [← UInt8.xor_right_inj (xorOfBytes text), same, UInt8.xor_zero]
  · intro zero
    rw [zero, UInt8.xor_zero]

theorem upperHexDigit_inj {m n : Nat} (small : m < 16) (small' : n < 16)
    (same : upperHexDigit m = upperHexDigit n) :
    m = n := by
  have each : ∀ m < 16, ∀ n < 16, upperHexDigit m = upperHexDigit n → m = n := by decide
  exact each m small n small' same

theorem upperHex_inj {first second : UInt8} (same : upperHex first = upperHex second) :
    first = second := by
  obtain ⟨high, low⟩ := List.cons.inj same
  have bound := first.toNat_lt
  have bound' := second.toNat_lt
  have highs := upperHexDigit_inj (by omega) (by omega) high
  have lows := upperHexDigit_inj (by omega) (by omega) (List.cons.inj low).1
  apply UInt8.toNat_inj.mp
  omega

end Checksum

/-! ## The cut -/

section Cut

variable {c : UInt16} {i : Nat} {text command com : JavaString}

theorem indexOf_spec (found : indexOf c text = some i) :
    text[i]? = some c ∧ text.take i = text.takeWhile (· ≠ c) ∧
      text.drop i = text.dropWhile (· ≠ c) := by
  induction text generalizing i with
  | nil => cases found
  | cons first text ih =>
    rw [indexOf, List.findIdx?_cons] at found
    rcases Decidable.em (first = c) with rfl | other
    · rw [if_pos (decide_eq_true rfl)] at found
      cases found
      exact ⟨rfl, by simp, by simp⟩
    · rw [if_neg (by simpa using other)] at found
      obtain ⟨j, later, rfl⟩ := Option.map_eq_some_iff.mp found
      obtain ⟨there, front, back⟩ := ih later
      refine ⟨there, ?_, ?_⟩
      · rw [List.take_succ_cons, front, List.takeWhile_cons_of_pos (by simpa using other)]
      · rw [List.drop_succ_cons, back, List.dropWhile_cons_of_pos (by simpa using other)]

theorem not_mem_of_indexOf (absent : indexOf c text = none) : c ∉ text := by
  intro member
  have all := List.findIdx?_eq_none_iff.mp absent c member
  exact absurd (decide_eq_true rfl) (by rw [all]; exact Bool.false_ne_true)

theorem takeWhile_self_of_not_mem (absent : c ∉ text) : text.takeWhile (· ≠ c) = text :=
  List.takeWhile_eq_self_iff.mpr fun _ member => decide_eq_true fun same => absent (same ▸ member)

theorem body_subset (command : JavaString) : ∀ c ∈ body command, c ∈ command := by
  intro c member
  rw [body] at member
  have before := (List.takeWhile_prefix _).subset member
  split_ifs at before
  · exact (List.dropWhile_suffix _).subset (List.mem_of_mem_drop before)
  · exact before

theorem marker_not_mem_body (command : JavaString) : 42 ∉ body command := by
  intro member
  have other := List.mem_takeWhile_imp (p := fun x => decide (x ≠ 42)) member
  exact of_decide_eq_true other rfl

theorem takeWhile_dropWhile_self (p : UInt16 → Bool) (text : JavaString) :
    (text.dropWhile p).takeWhile p = [] := by
  induction text with
  | nil => rfl
  | cons first text ih =>
    rw [List.dropWhile_cons]
    split_ifs with passes
    · exact ih
    · exact List.takeWhile_cons_of_neg passes

/-- Where no error is told, what is cut out stands between the markers. -/
theorem cutCommand_eq_body (cut : YgpsActivity.cutCommand command = some com) :
    com = body command := by
  rw [YgpsActivity.cutCommand] at cut
  split_ifs at cut with blank
  rw [body]
  cases first : indexOf 36 command with
  | none =>
    rw [if_neg (not_mem_of_indexOf first)]
    cases second : indexOf 42 command with
    | none =>
      rw [first, second] at cut
      cases cut
      exact (takeWhile_self_of_not_mem (not_mem_of_indexOf second)).symm
    | some index2 =>
      rw [first, second] at cut
      cases cut
      exact (indexOf_spec second).2.1
  | some index1 =>
    obtain ⟨start, -, back⟩ := indexOf_spec first
    rw [if_pos (List.mem_of_getElem? start), ← back, List.drop_drop]
    cases second : indexOf 42 command with
    | none =>
      rw [first, second] at cut
      cases cut
      apply (takeWhile_self_of_not_mem fun later => ?_).symm
      exact not_mem_of_indexOf second (List.mem_of_mem_drop later)
    | some index2 =>
      rw [first, second] at cut
      dsimp only at cut
      split_ifs at cut with late
      cases cut
      obtain ⟨stop, front, rest⟩ := indexOf_spec second
      have different : index1 ≠ index2 := by
        rintro rfl
        rw [start] at stop
        cases stop
      have long : index1 + 1 ≤ (command.take index2).length := by
        have inside := (List.getElem?_eq_some_iff.mp stop).1
        rw [List.length_take]
        omega
      have others :
          ∀ other ∈ (command.take index2).drop (index1 + 1), decide (other ≠ 42) = true := by
        intro other member
        rw [front] at member
        exact List.mem_takeWhile_imp (p := fun x => decide (x ≠ 42)) (List.mem_of_mem_drop member)
      calc (command.take index2).drop (index1 + 1)
          = (command.take index2).drop (index1 + 1) ++ (command.drop index2).takeWhile (· ≠ 42) := by
            rw [rest, takeWhile_dropWhile_self, List.append_nil]
        _ = ((command.take index2).drop (index1 + 1) ++ command.drop index2).takeWhile (· ≠ 42) :=
            (List.takeWhile_append_of_pos others).symm
        _ = (command.drop (index1 + 1)).takeWhile (· ≠ 42) := by
            rw [← List.drop_append_of_le_length long, List.take_append_drop]

theorem trim_spec (text : JavaString) :
    ∃ front back, text = front ++ trim text ++ back ∧ ∀ c ∈ front ++ back, c ≤ 32 := by
  refine ⟨text.takeWhile (· ≤ 32), (text.dropWhile (· ≤ 32)).rtakeWhile (· ≤ 32), ?_, ?_⟩
  · rw [trim, List.append_assoc, List.rdropWhile_append_rtakeWhile, List.takeWhile_append_dropWhile]
  · rw [List.forall_mem_append]
    refine ⟨fun c member => ?_, fun c member => ?_⟩
    · exact of_decide_eq_true (List.mem_takeWhile_imp (p := fun x => decide (x ≤ 32)) member)
    · exact of_decide_eq_true (List.mem_rtakeWhile_imp (p := fun x => decide (x ≤ 32)) member)

theorem trim_subset (text : JavaString) : ∀ c ∈ trim text, c ∈ text := by
  obtain ⟨front, back, same, -⟩ := trim_spec text
  intro c member
  rw [same]
  simp [member]

theorem trim_eq_nil_iff (text : JavaString) : trim text = [] ↔ ∀ c ∈ text, c ≤ 32 := by
  obtain ⟨front, back, same, blanks⟩ := trim_spec text
  constructor
  · intro empty
    rw [empty, List.append_nil] at same
    rw [same]
    exact blanks
  · intro blank
    have gone : text.dropWhile (· ≤ 32) = [] :=
      List.dropWhile_eq_nil_iff.mpr fun c member => decide_eq_true (blank c member)
    rw [trim, gone, List.rdropWhile_nil]

theorem countP_trim {p : UInt16 → Bool} (noBlank : ∀ c, c ≤ 32 → p c = false) (text : JavaString) :
    (trim text).countP p = text.countP p := by
  obtain ⟨front, back, same, blanks⟩ := trim_spec text
  obtain ⟨before, after⟩ := List.forall_mem_append.mp blanks
  have none {part : JavaString} (blank : ∀ c ∈ part, c ≤ 32) : part.countP p = 0 := by
    rw [List.countP_eq_zero]
    intro c member
    rw [noBlank c (blank c member)]
    exact Bool.false_ne_true
  conv_rhs => rw [same]
  rw [List.countP_append, List.countP_append, none before, none after, Nat.zero_add, Nat.add_zero]

/-- The letters are between the blanks. -/
theorem caseBalanced_trim (dotted : Bool) (text : JavaString) :
    CaseBalanced dotted (trim text) ↔ CaseBalanced dotted text := by
  have notSmall (c : UInt16) (blank : c ≤ 32) : ¬ (97 ≤ c ∧ c ≤ 122) := by
    rintro ⟨small, -⟩
    exact absurd (UInt16.le_trans small blank) (by decide)
  have notFlipped (c : UInt16) (blank : c ≤ 32) : flipped dotted c = false := by
    rw [flipped, decide_eq_false (notSmall c blank), Bool.false_and]
  have notDotted (c : UInt16) (blank : c ≤ 32) : dottedI dotted c = false := by
    have other : c ≠ 105 := by
      rintro rfl
      exact absurd blank (by decide)
    rw [dottedI, decide_eq_false other, Bool.and_false]
  rw [CaseBalanced, CaseBalanced, countP_trim notFlipped, countP_trim notDotted]

end Cut

/-! ## The queued sentence -/

section Sentence

variable {dotted : Bool} {x : JavaString}

theorem takeWhile_marker (bare : 42 ∉ x) (rest : JavaString) :
    (x ++ 42 :: rest).takeWhile (· ≠ 42) = x := by
  have others : ∀ c ∈ x, decide (c ≠ 42) = true := fun c member => decide_eq_true fun same =>
    bare (same ▸ member)
  rw [List.takeWhile_append_of_pos others, List.takeWhile_cons_of_neg (by decide), List.append_nil]

theorem calcCS_eq (nonempty : x ≠ []) : calcCS dotted x = upperHex (xorOfCapitals dotted x) := by
  rw [calcCS, if_neg nonempty]
  exact congrArg upperHex (toUInt8_foldl_xorByte _ 0)

theorem framed_iff (ascii : ∀ c ∈ x, c < 128) (bare : 42 ∉ x) :
    Framed ([36] ++ x ++ [42] ++ calcCS dotted x) ↔ x ≠ [] ∧ CaseBalanced dotted x := by
  constructor
  · rintro ⟨y, same, nonempty, bare'⟩
    simp only [List.cons_append, List.nil_append, List.append_assoc, List.cons.injEq,
      true_and] at same
    have payload := congrArg (List.takeWhile (· ≠ 42)) same
    rw [takeWhile_marker bare, takeWhile_marker bare'] at payload
    subst payload
    have sums := (List.cons.inj (List.append_cancel_left same)).2
    rw [calcCS_eq nonempty] at sums
    exact ⟨nonempty, (xorOfCapitals_eq_iff dotted ascii).mp (upperHex_inj sums)⟩
  · rintro ⟨nonempty, balanced⟩
    rw [calcCS_eq nonempty, (xorOfCapitals_eq_iff dotted ascii).mpr balanced]
    exact ⟨x, rfl, nonempty, bare⟩

/-- A queued sentence is one that the receiver accepts exactly if something stands between the markers and
the small letters in it cancel out. -/
theorem queued_framed_iff {command : JavaString} (ascii : ∀ c ∈ command, c < 128) {client : ClientSocket}
    {sentence : JavaString} (queued : (YgpsActivity.sendCommand dotted (some command) client).mCommandQueue =
      client.mCommandQueue ++ [sentence]) :
    Framed sentence ↔ (∃ c ∈ body command, 32 < c) ∧ CaseBalanced dotted (body command) := by
  have unchanged : client.mCommandQueue ≠ client.mCommandQueue ++ [sentence] := by simp
  rw [YgpsActivity.sendCommand, Option.bind_some] at queued
  cases cut : YgpsActivity.cutCommand command with
  | none =>
    rw [cut] at queued
    exact absurd queued unchanged
  | some com =>
    rw [cut] at queued
    dsimp only [ClientSocket.sendCommand] at queued
    split_ifs at queued
    · exact absurd queued unchanged
    · exact absurd queued unchanged
    obtain rfl := cutCommand_eq_body cut
    obtain rfl := List.singleton_inj.mp (List.append_cancel_left queued)
    have someText : trim (body command) ≠ [] ↔ ∃ c ∈ body command, 32 < c := by
      rw [Ne, trim_eq_nil_iff]
      simp only [not_forall, UInt16.not_le, exists_prop]
    have small (c : UInt16) (member : c ∈ trim (body command)) : c < 128 :=
      ascii c (body_subset command c (trim_subset _ c member))
    have bare : 42 ∉ trim (body command) :=
      fun member => marker_not_mem_body command (trim_subset _ _ member)
    rw [framed_iff small bare, someText, caseBalanced_trim]

section Activity

/-- A text without small letters: its capitals are the text itself. -/
theorem caseBalanced_of_capitals {text : JavaString} (capitals : ∀ c ∈ text, ¬ (97 ≤ c ∧ c ≤ 122)) :
    CaseBalanced dotted text := by
  have none {p : UInt16 → Bool} (small : ∀ c, p c = true → 97 ≤ c ∧ c ≤ 122) : text.countP p % 2 = 0 := by
    have absent : text.countP p = 0 := List.countP_eq_zero.mpr fun c member found => capitals c member (small c found)
    rw [absent]
  constructor
  · refine none fun c found => ?_
    rw [flipped, Bool.and_eq_true] at found
    exact of_decide_eq_true found.1
  · refine none fun c found => ?_
    rw [dottedI, Bool.and_eq_true] at found
    obtain rfl := of_decide_eq_true found.2
    decide

/-- A command of capitals, digits and commas. -/
def Plain (command : JavaString) : Prop := ∀ c ∈ command, (48 ≤ c ∧ c ≤ 57) ∨ (65 ≤ c ∧ c ≤ 90) ∨ c = 44

theorem Plain.append {first second : JavaString} (left : Plain first) (right : Plain second) : Plain (first ++ second) :=
  List.forall_mem_append.mpr ⟨left, right⟩

theorem plain_toDigits (n : Nat) : Plain (javaLit (Nat.toDigits 10 n)) := by
  have each : ∀ code < 58, 48 ≤ code → (48 : UInt16) ≤ UInt16.ofNat code ∧ UInt16.ofNat code ≤ 57 := by decide
  intro c member
  obtain ⟨char, inside, rfl⟩ := List.mem_map.mp member
  have digit := Nat.isDigit_of_mem_toDigits (by decide) (by decide) inside
  rw [Char.isDigit, Bool.and_eq_true, decide_eq_true_iff, decide_eq_true_iff] at digit
  have low : 48 ≤ char.toNat := digit.1
  have high : char.toNat ≤ 57 := digit.2
  exact .inl (each _ (by omega) low)

theorem plain_integerText {value : Int} (positive : 0 ≤ value) : Plain (integerText value) := by
  rw [integerText, if_neg (Int.not_lt.mpr positive)]
  exact plain_toDigits _

/-- What is queued of a plain command is a sentence that the receiver accepts. -/
theorem plain_framed {command : JavaString} (plain : Plain command) (nonempty : command ≠ []) {client : ClientSocket}
    {sentence : JavaString} (queued : (YgpsActivity.sendCommand dotted (some command) client).mCommandQueue =
      client.mCommandQueue ++ [sentence]) : Framed sentence := by
  have range (c : UInt16) (member : c ∈ command) : c.toNat < 91 ∧ 43 < c.toNat := by
    simp only [Plain, UInt16.le_iff_toNat_le, ← UInt16.toNat_inj] at plain
    have known : (48 : UInt16).toNat = 48 ∧ (57 : UInt16).toNat = 57 ∧ (65 : UInt16).toNat = 65 ∧
        (90 : UInt16).toNat = 90 ∧ (44 : UInt16).toNat = 44 := ⟨rfl, rfl, rfl, rfl, rfl⟩
    have := plain c member
    omega
  have ascii (c : UInt16) (member : c ∈ command) : c < 128 :=
    UInt16.lt_iff_toNat_lt.mpr ((range c member).1.trans (by decide))
  have unmarked {marker : UInt16} (low : marker.toNat ≤ 43) : marker ∉ command := fun member =>
    absurd (range marker member).2 (not_lt.mpr low)
  have whole : body command = command := by
    rw [body, if_neg (unmarked (by decide))]
    exact takeWhile_self_of_not_mem (unmarked (by decide))
  rw [queued_framed_iff ascii queued, whole]
  constructor
  · obtain ⟨c, member⟩ := List.exists_mem_of_ne_nil command nonempty
    exact ⟨c, member, UInt16.lt_iff_toNat_lt.mpr (Nat.lt_trans (by decide) (range c member).2)⟩
  · refine caseBalanced_of_capitals fun c member small => ?_
    have low := UInt16.le_iff_toNat_le.mp small.1
    exact absurd (low.trans_lt (range c member).1) (by decide)

theorem version_framed {client : ClientSocket} {mIsExit : Bool} {sentence : JavaString}
    (queued : (YgpsActivity.showVersion dotted mIsExit client).mCommandQueue = client.mCommandQueue ++ [sentence]) :
    Framed sentence := by
  have plain : Plain (javaLit "PMTK605".toList) := forall_of_all (by decide)
  rw [YgpsActivity.showVersion] at queued
  split_ifs at queued
  · simp at queued
  · exact plain_framed plain (by decide) queued

theorem jamming_framed {client next : ClientSocket} {jammingTimes sentence : JavaString}
    (clicked : YgpsActivity.onGpsJammingScanClicked dotted jammingTimes client = .ok next)
    (queued : next.mCommandQueue = client.mCommandQueue ++ [sentence]) : Framed sentence := by
  have unchanged : client.mCommandQueue ≠ client.mCommandQueue ++ [sentence] := by simp
  rw [YgpsActivity.onGpsJammingScanClicked] at clicked
  split_ifs at clicked with empty
  · cases clicked
    exact absurd queued unchanged
  · cases read : Machine.parseInt 10 (some jammingTimes) with
    | error _ =>
      rw [read] at clicked
      cases clicked
    | ok times =>
      rw [read] at clicked
      simp only [bind, Except.bind] at clicked
      split_ifs at clicked with outside
      · cases clicked
        exact absurd queued unchanged
      · cases clicked
        have positive : 0 ≤ times := by
          rw [YgpsActivity.INPUT_VALUE_MIN] at outside
          omega
        have name : Plain (javaLit "PMTK837,1,".toList) := forall_of_all (by decide)
        exact plain_framed (name.append (plain_integerText positive)) (by simp [javaLit]) queued

/-- Every sentence that the activity has queued is one that the receiver accepts, whatever is typed in. The sentence
of any command is one exactly if something stands between the markers and the small letters in it cancel out. -/
theorem activity_framed (dotted : Bool) (client : ClientSocket) (sentence : JavaString) :
    (∀ mIsExit, (YgpsActivity.showVersion dotted mIsExit client).mCommandQueue = client.mCommandQueue ++ [sentence] →
      Framed sentence) ∧
    (∀ jammingTimes next, YgpsActivity.onGpsJammingScanClicked dotted jammingTimes client = .ok next →
      next.mCommandQueue = client.mCommandQueue ++ [sentence] → Framed sentence) ∧
    ∀ command, (∀ c ∈ command, c < 128) →
      (YgpsActivity.sendCommand dotted (some command) client).mCommandQueue = client.mCommandQueue ++ [sentence] →
      (Framed sentence ↔ (∃ c ∈ body command, 32 < c) ∧ CaseBalanced dotted (body command)) :=
  ⟨fun _ => version_framed, fun _ _ => jamming_framed, fun _ ascii => queued_framed_iff ascii⟩

theorem activity_framed_jamming : ∃ next, YgpsActivity.onGpsJammingScanClicked true (javaLit "007".toList) {} = .ok next ∧
    next.mCommandQueue = [javaLit "$PMTK837,1,7*38".toList] ∧ Framed (javaLit "$PMTK837,1,7*38".toList) :=
  ⟨_, rfl, by decide, (activity_framed true {} _).2.1 (javaLit "007".toList) _ rfl (by decide)⟩

end Activity

end Sentence

/-- Three small letters: the checksum is that of `PMTK605`. -/
theorem smallLetters_not_framed :
    (YgpsActivity.sendCommand false (some (javaLit "Pmtk605".toList)) {}).mCommandQueue =
      [javaLit "$Pmtk605*31".toList] ∧ ¬ Framed (javaLit "$Pmtk605*31".toList) := by
  refine ⟨by decide, fun framed => ?_⟩
  have ascii : ∀ c ∈ javaLit "Pmtk605".toList, c < 128 := forall_of_all (by decide)
  have balanced := ((@framed_iff false _ ascii (by decide)).mp framed).2.1
  exact absurd balanced (by decide)

end Mt6582.Ygps

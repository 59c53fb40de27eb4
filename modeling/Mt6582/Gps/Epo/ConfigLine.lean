import Mt6582.Gps.Epo.Config
import Mt6582.Machine.Buffer

/-! # A configuration line is split inside its buffer

`get_val` works on the buffer that `fgets` filled: it puts a newline over the terminator of a line that
has none, looks for `=` and for the ends of the value with scans that read a byte before they test the
bound, and writes two terminators of its own. Here every access is checked against the buffer. For each
line that `fgets` can deliver all of them are inside, and what the returned pointers point to is the key
and the value of the line, whatever an earlier line left behind in the buffer.
-/

namespace Mt6582.Gps

open Machine

/-- `fgets`: the bytes read and a terminator, over what stood in the buffer. -/
def fgets (result line : List Byte) : List Byte := overwrite result 0 (line ++ [0])

/-- `*p` -/
def loadByte (mem : List Byte) (p : Nat) : Except Access Byte := do
  let bytes ← load mem p 1
  pure (bytes.headD 0)

/-- `strlen` from the start of an object; without a terminator it runs out of the object. -/
def strlen (mem : List Byte) : Except Access Nat :=
  if 0 ∈ mem then .ok (mem.takeWhile (· ≠ 0)).length else .error ⟨mem.length, 1, mem.length⟩

/-- The text at a pointer. -/
def cText (mem : List Byte) (p : Nat) : List Byte := (mem.drop p).takeWhile (· ≠ 0)

/-- `while (test(*p) && (p < end)) p++` with `end - p` bytes to go. The byte is read before the bound is
tested, also at `end`. -/
def scan (mem : List Byte) (test : Byte → Bool) : Nat → Nat → Except Access Nat
  | 0, p => do
      let _ ← loadByte mem p
      pure p
  | left + 1, p => do
      let c ← loadByte mem p
      if test c then scan mem test left (p + 1) else pure p

/-- What a call of `get_val` leaves: the buffer, `*ppKey`, `*ppVal` and the returned value. -/
structure GetVal where
  str : List Byte
  key : Option Nat
  val : Option Nat
  ret : Int
deriving DecidableEq, Repr

/-- `get_val` from `key = pStr` on. -/
def getValSplit (str : List Byte) (fin : Nat) (ppKey ppVal : Option Nat) :
    Except Access GetVal := do
  let p ← scan str (· ≠ equals) fin 0
  if fin ≤ p then pure ⟨str, ppKey, ppVal, -1⟩
  else
    let str ← store str p [0]
    let val ← scan str isSpace (fin - (p + 1)) (p + 1)
    let stop ← scan str (!isSpace ·) (fin - val) val
    let str ← store str stop [0]
    pure ⟨str, some 0, some val, 0⟩

/-- `get_val` on the buffer itself; `ppKey` and `ppVal` are what the caller's pointers held. -/
def getValInPlace (str : List Byte) (ppKey ppVal : Option Nat) : Except Access GetVal := do
  let len ← strlen str
  if len = 0 then pure ⟨str, ppKey, ppVal, -1⟩
  else
    let first ← loadByte str 0
    if first = hash then pure ⟨str, none, none, 0⟩
    else
      let last ← loadByte str (len - 1)
      if last = lf then getValSplit str len ppKey ppVal
      else if gpsConfFileSize - 1 ≤ len then pure ⟨str, ppKey, ppVal, -1⟩
      else
        let str ← store str len [lf]
        getValSplit str len ppKey ppVal

/-- The text of a value: what follows the first `=` and the blanks after it, up to the next blank. -/
def valueText (line : List Byte) : List Byte :=
  (((line.dropWhile (· ≠ equals)).tail).dropWhile isSpace).takeWhile (!isSpace ·)

section Accesses

variable {before after text : List Byte}

theorem loadByte_middle (before after : List Byte) (c : Byte) :
    loadByte (before ++ c :: after) before.length = .ok c := by
  have loaded : load (before ++ c :: after) (before.length : Nat) 1 = .ok [c] := by
    rw [load_natCast_iff]
    simp
  rw [loadByte, loaded]
  rfl

theorem store_middle (before after : List Byte) (old new : Byte) :
    store (before ++ old :: after) before.length [new] = .ok (before ++ new :: after) := by
  rw [store_natCast_iff, overwrite_middle]
  simp

/-- A scan stops behind the longest run that passes its test; `c` is the byte at the bound. -/
theorem scan_eq (test : Byte → Bool) (before text after : List Byte) (c : Byte) :
    scan (before ++ (text ++ c :: after)) test text.length before.length =
      .ok (before.length + (text.takeWhile test).length) := by
  induction text generalizing before with
  | nil =>
    rw [List.nil_append, List.length_nil, scan, loadByte_middle]
    rfl
  | cons d text ih =>
    rw [List.cons_append, List.length_cons, scan, loadByte_middle, ok_bind]
    by_cases passes : test d = true
    · have rest := ih (before ++ [d])
      rw [List.append_assoc, List.singleton_append, List.length_append,
        List.length_singleton] at rest
      rw [if_pos passes, rest, List.takeWhile_cons_of_pos passes, List.length_cons, Nat.add_assoc,
        Nat.add_comm 1]
    · rw [if_neg passes, List.takeWhile_cons_of_neg passes]
      rfl

/-- The text before the first occurrence of a byte. -/
theorem takeWhile_upto {c : Byte} (fresh : c ∉ text) :
    (text ++ c :: after).takeWhile (· ≠ c) = text := by
  have all : ∀ d ∈ text, decide (d ≠ c) = true := by
    intro d member
    simp only [decide_eq_true_eq]
    rintro rfl
    exact fresh member
  rw [List.takeWhile_append_of_pos all, List.takeWhile_cons_of_neg (by simp), List.append_nil]

theorem strlen_eq (nonzero : 0 ∉ text) : strlen (text ++ 0 :: after) = .ok text.length := by
  rw [strlen, if_pos (by simp), takeWhile_upto nonzero]

theorem cText_eq (before after : List Byte) (nonzero : 0 ∉ text) :
    cText (before ++ (text ++ 0 :: after)) before.length = text := by
  rw [cText, List.drop_left, takeWhile_upto nonzero]

end Accesses

section Splitting

variable {line key rest after : List Byte} {c : Byte} {ppKey ppVal : Option Nat}

/-- Without `=` the scan runs to the end of the text. -/
theorem getValSplit_absent (absent : equals ∉ line) :
    getValSplit (line ++ c :: after) line.length ppKey ppVal =
      .ok ⟨line ++ c :: after, ppKey, ppVal, -1⟩ := by
  have scanned := scan_eq (· ≠ equals) [] line after c
  have whole : line.takeWhile (· ≠ equals) = line :=
    List.takeWhile_eq_self_iff.mpr fun d member => by
      simpa using fun same : d = equals => absent (same ▸ member)
  rw [List.nil_append, List.length_nil, whole, Nat.zero_add] at scanned
  rw [getValSplit, scanned, ok_bind, if_pos le_rfl]
  rfl

/-- With `=` the buffer ends up as the key, the blanks and the value with a terminator behind key and value. -/
theorem getValSplit_entry (fresh : equals ∉ key) :
    ∃ d more, rest ++ c :: after =
        rest.takeWhile isSpace ++ ((rest.dropWhile isSpace).takeWhile (!isSpace ·) ++ d :: more) ∧
      getValSplit (key ++ equals :: (rest ++ c :: after)) (key.length + 1 + rest.length) ppKey ppVal =
        .ok ⟨key ++ 0 :: (rest.takeWhile isSpace ++
            ((rest.dropWhile isSpace).takeWhile (!isSpace ·) ++ 0 :: more)),
          some 0, some (key.length + 1 + (rest.takeWhile isSpace).length), 0⟩ := by
  generalize blanksEq : rest.takeWhile isSpace = blanks
  generalize textEq : rest.dropWhile isSpace = text
  have restEq :
      rest = blanks ++ text := by rw [← blanksEq, ← textEq, List.takeWhile_append_dropWhile]
  generalize valueEq : text.takeWhile (!isSpace ·) = value
  obtain ⟨d, more, tailEq⟩ : ∃ d more, text.dropWhile (!isSpace ·) ++ c :: after = d :: more := by
    cases text.dropWhile (!isSpace ·) with
    | nil => exact ⟨c, after, rfl⟩
    | cons d tail => exact ⟨d, tail ++ c :: after, rfl⟩
  have textAfter : text ++ c :: after = value ++ d :: more := by
    rw [← tailEq, ← valueEq, ← List.append_assoc, List.takeWhile_append_dropWhile]
  have first := scan_eq (· ≠ equals) [] (key ++ equals :: rest) after c
  rw [takeWhile_upto fresh, List.nil_append, List.length_nil, Nat.zero_add, List.length_append,
    List.length_cons, List.append_assoc, List.cons_append] at first
  have second := scan_eq isSpace (key ++ [0]) rest after c
  rw [blanksEq, List.append_assoc, List.singleton_append, List.length_append,
    List.length_singleton] at second
  have third := scan_eq (!isSpace ·) (key ++ 0 :: blanks) text after c
  rw [valueEq, List.append_assoc, List.cons_append, List.length_append, List.length_cons] at third
  have last := store_middle (key ++ 0 :: (blanks ++ value)) more d 0
  simp only [List.append_assoc, List.cons_append, List.length_append, List.length_cons] at last
  refine ⟨d, more, by rw [restEq, List.append_assoc, textAfter], ?_⟩
  rw [getValSplit, Nat.add_right_comm, Nat.add_assoc, first, ok_bind, if_neg (by omega),
    store_middle, ok_bind, show key.length + (rest.length + 1) - (key.length + 1) = rest.length by
    omega, second, ok_bind, restEq, List.append_assoc, List.length_append,
    show key.length + 1 + blanks.length = key.length + (blanks.length + 1) by omega,
    show key.length + (blanks.length + text.length + 1) - (key.length + (blanks.length + 1)) =
      text.length by omega,
    third, ok_bind, textAfter, show key.length + (blanks.length + 1) + value.length =
      key.length + (blanks.length + value.length + 1) by omega, last, ok_bind]
  rfl

end Splitting

section Line

variable {before line : List Byte}

/-- The buffer holds the line and its terminator. -/
theorem fgets_eq : fgets before line = line ++ 0 :: before.drop (line.length + 1) := by
  simp [fgets, overwrite]

/-- What the returned pointers point to. -/
def GetVal.keyText (out : GetVal) : Option (List Byte) := out.key.map (cText out.str)

def GetVal.valText (out : GetVal) : Option (List Byte) := out.val.map (cText out.str)

theorem valueText_eq {key rest : List Byte} (fresh : equals ∉ key) :
    valueText (key ++ equals :: rest) = (rest.dropWhile isSpace).takeWhile (!isSpace ·) := by
  have all : ∀ d ∈ key, decide (d ≠ equals) = true := by
    intro d member
    simp only [decide_eq_true_eq]
    rintro rfl
    exact fresh member
  rw [valueText, List.dropWhile_append_of_pos all, List.dropWhile_cons_of_neg (by simp),
    List.tail_cons]

/-- The call delivered what a line was taken apart into. -/
def GetVal.Delivers (out : GetVal) : Option ConfItem → Prop
  | none => out.ret = -1
  | some .comment => out.ret = 0 ∧ out.key = none ∧ out.val = none
  | some (.entry key val) => out.ret = 0 ∧ out.keyText = some key ∧ out.valText = some val

/-- The grammar of a line: a comment, or a first `=` in a line that the buffer holds with its newline. -/
theorem getVal_eq (nonempty : line ≠ []) (nonzero : 0 ∉ line) :
    getVal line =
      if line.head? = some hash then some .comment
      else if equals ∈ line ∧ (line.getLast? = some lf ∨ line.length < 99) then
        some (.entry (line.takeWhile (· ≠ equals)) (valueText line))
      else none := by
  have whole : line.takeWhile (· ≠ 0) = line :=
    List.takeWhile_eq_self_iff.mpr fun d member => by
      simpa using fun same : d = 0 => nonzero (same ▸ member)
  rw [getVal, whole, if_neg nonempty]
  by_cases comment : line.head? = some hash
  · rw [if_pos comment, if_pos comment]
  rw [if_neg comment, if_neg comment]
  have refused : line.getLast? ≠ some lf ∧ gpsConfFileSize - 1 ≤ line.length ↔
      ¬(line.getLast? = some lf ∨ line.length < 99) := by
    rw [not_or, Nat.not_lt]
    rfl
  by_cases held : line.getLast? = some lf ∨ line.length < 99
  · rw [if_neg (fun both => refused.mp both held)]
    by_cases present : equals ∈ line
    · obtain ⟨key, rest, rfl, fresh⟩ := List.eq_append_cons_of_mem present
      rw [takeWhile_upto fresh, valueText_eq fresh, if_neg (by simp), if_pos ⟨present, held⟩,
        ← List.drop_drop, List.drop_left, List.drop_one, List.tail_cons]
    · have all : line.takeWhile (· ≠ equals) = line :=
        List.takeWhile_eq_self_iff.mpr fun d member => by
          simpa using fun same : d = equals => present (same ▸ member)
      rw [all, if_pos rfl, if_neg (fun both => present both.1)]
  · rw [if_pos (refused.mpr held), if_neg (fun both => held both.2)]

theorem getValSplit_delivers (after : List Byte) (c : Byte) (ppKey ppVal : Option Nat)
    (nonzero : 0 ∉ line) :
    ∃ out, getValSplit (line ++ c :: after) line.length ppKey ppVal = .ok out ∧
      out.str.length = (line ++ c :: after).length ∧
      out.Delivers (if equals ∈ line then
        some (.entry (line.takeWhile (· ≠ equals)) (valueText line)) else none) := by
  by_cases present : equals ∈ line
  · obtain ⟨key, rest, rfl, fresh⟩ := List.eq_append_cons_of_mem present
    obtain ⟨d, more, shape, split⟩ := @getValSplit_entry key rest after c ppKey ppVal fresh
    rw [List.mem_append, List.mem_cons, not_or, not_or] at nonzero
    obtain ⟨keyNonzero, -, restNonzero⟩ := nonzero
    refine ⟨_, by simpa [Nat.add_assoc, Nat.add_comm 1] using split, ?_, ?_⟩
    · have lengths := congrArg List.length shape
      simp only [List.length_append, List.length_cons] at lengths ⊢
      omega
    · rw [if_pos present, takeWhile_upto fresh, valueText_eq fresh]
      refine ⟨rfl, congrArg some (cText_eq [] _ keyNonzero), congrArg some ?_⟩
      have valueNonzero : 0 ∉ (rest.dropWhile isSpace).takeWhile (!isSpace ·) := fun member =>
        restNonzero ((List.dropWhile_sublist _).subset ((List.takeWhile_sublist _).subset member))
      have value := cText_eq (key ++ 0 :: rest.takeWhile isSpace) more valueNonzero
      rw [List.length_append, List.length_cons, List.append_assoc, List.cons_append] at value
      simpa [Nat.add_assoc, Nat.add_comm 1] using value
  · exact ⟨_, getValSplit_absent present, rfl, by rw [if_neg present]; rfl⟩

/-- For every line that `fgets` can deliver, over any leftovers, the accesses stay inside the buffer and the call
delivers what `getVal` says of the line. -/
theorem getValInPlace_delivers (ppKey ppVal : Option Nat) (size : before.length = gpsConfFileSize)
    (nonempty : line ≠ []) (fits : line.length < gpsConfFileSize) (nonzero : 0 ∉ line) :
    ∃ out, getValInPlace (fgets before line) ppKey ppVal = .ok out ∧
      out.str.length = gpsConfFileSize ∧
      out.Delivers (getVal line) := by
  have room : (fgets before line).length = gpsConfFileSize := by
    rw [fgets, overwrite_length (by rw [List.length_append, List.length_singleton]; omega), size]
  rw [getVal_eq nonempty nonzero]
  rw [fgets_eq] at room ⊢
  obtain ⟨first, text, rfl⟩ := List.exists_cons_of_ne_nil nonempty
  have firstByte := loadByte_middle [] (text ++ 0 :: before.drop ((first :: text).length + 1)) first
  rw [List.nil_append, List.length_nil] at firstByte
  rw [getValInPlace, strlen_eq nonzero, ok_bind, if_neg (by simp), List.cons_append, firstByte,
    ok_bind, ← List.cons_append, List.head?_cons]
  simp only [Option.some.injEq]
  by_cases comment : first = hash
  · rw [if_pos comment, if_pos comment]
    exact ⟨_, rfl, room, rfl, rfl, rfl⟩
  rw [if_neg comment, if_neg comment]
  obtain ⟨initial, last, lineEq⟩ : ∃ initial last, first :: text = initial ++ [last] :=
    ⟨_, _, (List.dropLast_append_getLast (List.cons_ne_nil first text)).symm⟩
  generalize first :: text = line at *
  generalize before.drop (line.length + 1) = after at *
  have lastByte := loadByte_middle initial (0 :: after) last
  rw [← List.singleton_append (x := last), ← List.append_assoc, ← lineEq,
    show initial.length = line.length - 1 by rw [lineEq]; simp] at lastByte
  have ending : line.getLast? = some lf ↔ last = lf := by rw [lineEq]; simp
  rw [lastByte, ok_bind]
  by_cases newline : last = lf
  · obtain ⟨out, split, length, delivers⟩ :=
      getValSplit_delivers after 0 ppKey ppVal nonzero
    rw [if_pos newline, split]
    refine ⟨out, rfl, length.trans room, ?_⟩
    simpa only [ending, newline, true_or, and_true] using delivers
  rw [if_neg newline]
  by_cases full : gpsConfFileSize - 1 ≤ line.length
  · rw [if_pos full, if_neg]
    · exact ⟨_, rfl, room, rfl⟩
    · rintro ⟨-, ended | short⟩
      · exact newline (ending.mp ended)
      · exact absurd short (Nat.not_lt.mpr full)
  · obtain ⟨out, split, length, delivers⟩ :=
      getValSplit_delivers after lf ppKey ppVal nonzero
    have short : line.length < 99 := Nat.lt_of_not_le full
    rw [if_neg full, store_middle, ok_bind, split]
    refine ⟨out, rfl, length.trans (by simpa using room), ?_⟩
    simpa only [short, or_true, and_true] using delivers

/-- On a line of 1 to 99 bytes `get_val` stays inside its buffer. A comment delivers no pointers; any other line is
taken apart at its first `=`, unless it fills the buffer without its newline. -/
theorem getValInPlace_grammar (before line : List Byte) (ppKey ppVal : Option Nat)
    (size : before.length = gpsConfFileSize) (nonempty : 1 ≤ line.length) (fits : line.length ≤ 99)
    (nonzero : 0 ∉ line) :
    ∃ out, getValInPlace (fgets before line) ppKey ppVal = .ok out ∧
      out.str.length = gpsConfFileSize ∧
      (line.head? = some hash → out.ret = 0 ∧ out.key = none ∧ out.val = none) ∧
      (line.head? ≠ some hash →
        if equals ∈ line ∧ (line.getLast? = some lf ∨ line.length < 99) then
          out.ret = 0 ∧ out.keyText = some (line.takeWhile (· ≠ equals)) ∧
            out.valText = some (valueText line)
        else out.ret = -1) := by
  have present : line ≠ [] := List.ne_nil_of_length_pos nonempty
  obtain ⟨out, ran, length, delivers⟩ :=
    getValInPlace_delivers ppKey ppVal size present (Nat.lt_succ_of_le fits) nonzero
  rw [getVal_eq present nonzero] at delivers
  refine ⟨out, ran, length, fun comment => ?_, fun other => ?_⟩
  · rwa [if_pos comment] at delivers
  · rw [if_neg other] at delivers
    split_ifs at delivers ⊢ with taken
    · exact delivers
    · exact delivers

/-- A line without a newline, over the leftovers of a longer one. -/
theorem getValInPlace_grammar_leftovers :
    ∃ out, getValInPlace (fgets (.replicate 100 equals) (lit ['K', '=', ' ', 'v'])) none none = .ok out ∧
      out.ret = 0 ∧ out.keyText = some (lit ['K']) ∧ out.valText = some (lit ['v']) := by
  obtain ⟨out, ran, -, -, entry⟩ :=
    getValInPlace_grammar (.replicate 100 equals) (lit ['K', '=', ' ', 'v']) none none
    (by decide) (by decide) (by decide) (by decide)
  exact ⟨out, ran, entry (by decide)⟩

end Line

end Mt6582.Gps

import Mt6582.Gps.Nmea.Tokenizer
import Mathlib.Data.List.GetD

/-! # Fields of a sentence, and the tokenizer computes them

A sentence's fields are the comma-separated pieces of its body: the text without the leading `$`,
the line end and the checksum. On every line the pointer tokenizer delivers exactly these texts, and
the readers that look one byte past a token decide the same as readers of the field's text alone.
-/

namespace Mt6582.Gps

/-- The sentence without its line end. -/
def dropLineEnd (text : List Byte) : List Byte :=
  if text.getLast? = some lf then
    if text.dropLast.getLast? = some cr then text.dropLast.dropLast else text.dropLast
  else text

/-- The sentence without a trailing `*hh`. -/
def dropChecksum (text : List Byte) : List Byte :=
  if 3 ≤ text.length ∧ text[text.length - 3]? = some star then text.take (text.length - 3) else text

/-- What the tokenizer splits at commas. -/
def nmeaBody (sentence : List Byte) : List Byte :=
  dropChecksum (dropLineEnd (if sentence.head? = some dollar then sentence.tail else sentence))

/-- Field `index` of a sentence; fields past the table of 24 tokens read as missing. -/
def field (sentence : List Byte) (index : Nat) : List Byte :=
  if index < maxNmeaTokens then ((nmeaBody sentence).splitOn comma).getD index [] else []

/-- Accumulate decimal digits in a 32-bit `int`; any other byte fails. -/
def decimal : List Byte → Int → Option Int
  | [], result => some result
  | c :: rest, result =>
      if 0 ≤ (c.toNat : Int) - 48 ∧ (c.toNat : Int) - 48 < 10 then
        decimal rest (wrap32 (result * 10 + ((c.toNat : Int) - 48)))
      else none

/-- The integer a field denotes to `str2int`. -/
def strToInt (text : List Byte) : Int :=
  if text.head? = some minus then
    match decimal text.tail 0 with
    | some result => wrap32 (-result)
    | none => -1
  else (decimal text 0).getD (-1)

/-- The number a field denotes to `str2float`. -/
def strToFloat {F : Type} (pf : Platform F) (text : List Byte) : F :=
  if 16 ≤ text.length then pf.ofInt 0 else pf.strtod text

section Slices

variable (mem : List Byte) {p q : Nat}

theorem slice_length (bound : q ≤ mem.length) : (slice mem p q).length = q - p := by
  simp only [slice, List.length_drop, List.length_take]
  omega

theorem slice_self (p : Nat) : slice mem p p = [] := by
  simp [slice]

theorem slice_cons (inside : p < q) (bound : q ≤ mem.length) :
    slice mem p q = byteAt mem p :: slice mem (p + 1) q := by
  have present : p < (mem.take q).length := by simp only [List.length_take]; omega
  rw [slice, List.drop_eq_getElem_cons present, slice, byteAt, List.getElem_take,
    List.getD_eq_getElem _ _ (by omega)]

theorem slice_append {r : Nat} (left : p ≤ q) (right : q ≤ r) (bound : r ≤ mem.length) :
    slice mem p r = slice mem p q ++ slice mem q r := by
  induction n : q - p generalizing p with
  | zero =>
    have same : p = q := by omega
    rw [same, slice_self, List.nil_append]
  | succ n ih =>
    rw [slice_cons mem (show p < r by omega) bound, slice_cons mem (show p < q by omega) (by omega),
      ih (by omega) (by omega), List.cons_append]

theorem slice_zero : slice mem 0 q = mem.take q := rfl

end Slices

section Memchr

theorem memchr_none {mem : List Byte} {c : Byte} {p n : Nat} (bound : p + n ≤ mem.length)
    (absent : memchr mem c p n = none) : c ∉ slice mem p (p + n) := by
  induction n generalizing p with
  | zero => simp [slice_self]
  | succ n ih =>
    rw [memchr] at absent
    split at absent
    · contradiction
    · next other =>
      rw [slice_cons mem (by omega) bound, List.mem_cons, not_or]
      have tail := ih (by omega) absent
      rw [show p + 1 + n = p + (n + 1) by omega] at tail
      exact ⟨fun equal => other equal.symm, tail⟩

theorem memchr_some {mem : List Byte} {c : Byte} {p n q : Nat} (bound : p + n ≤ mem.length)
    (found : memchr mem c p n = some q) :
    p ≤ q ∧ q < p + n ∧ byteAt mem q = c ∧ c ∉ slice mem p q := by
  induction n generalizing p with
  | zero => contradiction
  | succ n ih =>
    rw [memchr] at found
    split at found
    · next same =>
      cases found
      exact ⟨le_rfl, by omega, same, by simp [slice_self]⟩
    · next other =>
      obtain ⟨lower, upper, same, fresh⟩ := ih (by omega) found
      refine ⟨by omega, by omega, same, ?_⟩
      rw [slice_cons mem (by omega) (by omega), List.mem_cons, not_or]
      exact ⟨fun equal => other equal.symm, fresh⟩

end Memchr

section Trim

variable {mem : List Byte} {p fin : Nat}

theorem slice_getLast? (inside : p < fin) (bound : fin ≤ mem.length) :
    (slice mem p fin).getLast? = some (byteAt mem (fin - 1)) := by
  rw [slice_append mem (q := fin - 1) (by omega) (by omega) bound,
    slice_cons mem (p := fin - 1) (by omega) bound, show fin - 1 + 1 = fin by omega, slice_self]
  simp

theorem slice_dropLast (inside : p < fin) (bound : fin ≤ mem.length) :
    (slice mem p fin).dropLast = slice mem p (fin - 1) := by
  rw [slice_append mem (q := fin - 1) (by omega) (by omega) bound,
    slice_cons mem (p := fin - 1) (by omega) bound, show fin - 1 + 1 = fin by omega, slice_self]
  simp

theorem slice_getElem? {i : Nat} (inside : p + i < fin) (bound : fin ≤ mem.length) :
    (slice mem p fin)[i]? = some (byteAt mem (p + i)) := by
  induction i generalizing p with
  | zero => rw [slice_cons mem (by omega) bound]; rfl
  | succ i ih =>
    rw [slice_cons mem (by omega) bound, List.getElem?_cons_succ, ih (by omega)]
    congr 2
    omega

theorem slice_take_prefix (n : Nat) (inside : p + n ≤ fin) (bound : fin ≤ mem.length) :
    (slice mem p fin).take n = slice mem p (p + n) := by
  rw [slice_append mem (q := p + n) (by omega) inside bound, List.take_append_of_le_length]
  · apply List.take_of_length_le
    rw [slice_length mem (by omega)]
    omega
  · rw [slice_length mem (by omega)]
    omega

theorem slice_drop (n : Nat) : (slice mem p fin).drop n = slice mem (p + n) fin := by
  simp only [slice, List.drop_drop]

private theorem dropLineEnd_slice (order : p ≤ fin) (bound : fin ≤ mem.length) :
    dropLineEnd (slice mem p fin) = slice mem p
      (if p < fin ∧ byteAt mem (fin - 1) = lf then
        if p < fin - 1 ∧ byteAt mem (fin - 1 - 1) = cr then fin - 1 - 1 else fin - 1
      else fin) := by
  rw [dropLineEnd]
  by_cases nonempty : p < fin
  · rw [slice_getLast? nonempty bound, slice_dropLast nonempty bound]
    by_cases ended : byteAt mem (fin - 1) = lf
    · by_cases more : p < fin - 1
      · rw [slice_getLast? more (by omega), slice_dropLast more (by omega)]
        by_cases return_ : byteAt mem (fin - 1 - 1) = cr <;> simp [nonempty, ended, more, return_]
      · have empty : fin - 1 = p := by omega
        rw [empty, slice_self]
        simp [nonempty, empty ▸ ended, slice_self]
    · simp [ended]
  · have empty : fin = p := by omega
    rw [empty, slice_self]
    simp [slice_self]

private theorem dropChecksum_slice (order : p ≤ fin) (bound : fin ≤ mem.length) :
    dropChecksum (slice mem p fin) =
      slice mem p (if p + 3 ≤ fin ∧ byteAt mem (fin - 3) = star then fin - 3 else fin) := by
  rw [dropChecksum]
  rw [slice_length mem bound]
  by_cases room : p + 3 ≤ fin
  · rw [slice_getElem? (by omega) bound, slice_take_prefix _ (by omega) bound,
      show p + (fin - p - 3) = fin - 3 by omega]
    by_cases marked : byteAt mem (fin - 3) = star
    · rw [if_pos ⟨by omega, by rw [marked]⟩, if_pos ⟨room, marked⟩]
    · rw [if_neg (by simpa using fun _ => marked), if_neg (by simpa using fun _ => marked)]
  · rw [if_neg (by omega), if_neg (by omega)]

/-- Trimming stays inside the sentence and leaves exactly its body. -/
theorem nmeaTokenizerTrim_spec (order : p ≤ fin) (bound : fin ≤ mem.length) :
    p ≤ (nmeaTokenizerTrim mem p fin).1 ∧
      (nmeaTokenizerTrim mem p fin).1 ≤ (nmeaTokenizerTrim mem p fin).2 ∧
      (nmeaTokenizerTrim mem p fin).2 ≤ fin ∧
      slice mem (nmeaTokenizerTrim mem p fin).1 (nmeaTokenizerTrim mem p fin).2 =
        nmeaBody (slice mem p fin) := by
  have start :
      ∃ first, p ≤ first ∧ first ≤ fin ∧
      (if p < fin ∧ byteAt mem p = dollar then p + 1 else p) = first ∧
      slice mem first fin =
        if (slice mem p fin).head? = some dollar then (slice mem p fin).tail else slice mem p fin := by
    rcases order.lt_or_eq with nonempty | rfl
    · rw [slice_cons mem nonempty bound, List.head?_cons, List.tail_cons]
      by_cases marked : byteAt mem p = dollar
      · exact ⟨p + 1, Nat.le_succ p,
          nonempty, by rw [if_pos ⟨nonempty, marked⟩], by rw [marked, if_pos rfl]⟩
      · refine ⟨p, le_rfl, order, by rw [if_neg (fun h => marked h.2)], ?_⟩
        rw [if_neg (by simpa using marked), slice_cons mem nonempty bound]
    · exact ⟨p, le_rfl, le_rfl, by simp, by simp [slice_self]⟩
  obtain ⟨first, above, order, stripped, text⟩ := start
  have line := dropLineEnd_slice order bound
  simp only [nmeaTokenizerTrim, stripped, nmeaBody, ← text, line]
  generalize ended : (if first < fin ∧ byteAt mem (fin - 1) = lf then
    if first < fin - 1 ∧ byteAt mem (fin - 1 - 1) = cr then fin - 1 - 1 else fin - 1 else fin) = stop
  have range : first ≤ stop ∧ stop ≤ fin := by
    rw [← ended]
    split_ifs <;> omega
  rw [dropChecksum_slice range.1 (by omega)]
  split_ifs
  · exact ⟨above, by omega, by omega, rfl⟩
  · exact ⟨above, range.1, range.2, rfl⟩

/-- Inside a line the trimmed range ends at its checksum mark or at its line end. -/
theorem nmeaTokenizerTrim_stop (nonempty : 0 < fin) (ended : byteAt mem (fin - 1) = lf) :
    byteAt mem (nmeaTokenizerTrim mem 0 fin).2 ∈ [0, comma, star, cr, lf] := by
  have start : ∃ p, p < fin ∧ (if 0 < fin ∧ byteAt mem 0 = dollar then 0 + 1 else 0) = p := by
    refine ⟨_, ?_, rfl⟩
    split_ifs with marked
    · by_contra short
      have single : fin = 1 := by omega
      subst single
      exact absurd (ended.symm.trans marked.2) (by decide)
    · exact nonempty
  obtain ⟨p, inside, stripped⟩ := start
  simp only [nmeaTokenizerTrim, stripped, inside, ended, and_self, ↓reduceIte]
  generalize line :
    (if p < fin - 1 ∧ byteAt mem (fin - 1 - 1) = cr then fin - 1 - 1 else fin - 1) = stop
  have stopByte : byteAt mem stop = cr ∨ byteAt mem stop = lf := by
    rw [← line]
    split_ifs with return_
    · exact .inl return_.2
    · exact .inr ended
  split_ifs with checksum
  · simp [checksum.2]
  · rcases stopByte with same | same <;> simp [same]

end Trim

section Loop

variable {mem : List Byte} {fin : Nat}

/-- A range inside its object whose next byte ends a field. -/
structure Token.Good (tok : Token) : Prop where
  order : tok.p ≤ tok.fin
  bound : tok.fin ≤ tok.mem.length
  stop : byteAt tok.mem tok.fin ∈ [0, comma, star, cr, lf]

private theorem getD_append_empty (texts : List (List Byte)) (i : Nat) :
    (texts ++ [[]]).getD i [] = texts.getD i [] := by
  rcases Nat.lt_or_ge i texts.length with present | absent
  · rw [List.getD_append _ _ _ _ present]
  · rw [List.getD_append_right _ _ _ _ absent, List.getD_eq_default _ _ absent]
    cases i - texts.length <;> rfl

/-- The table keeps the first 24 tokens, whatever is found after it is full. -/
private theorem getD_push (tokens : List Token) (tok : Token) (rest : List (List Byte)) {i : Nat}
    (few : tokens.length ≤ maxNmeaTokens) (inside : i < maxNmeaTokens) :
    ((if tokens.length < maxNmeaTokens then tokens ++ [tok] else tokens).map Token.text ++ rest).getD i [] =
      (tokens.map Token.text ++ tok.text :: rest).getD i [] := by
  split_ifs with room
  · simp only [List.map_append, List.map_cons, List.map_nil, List.append_assoc, List.cons_append,
      List.nil_append]
  · have present : i < (tokens.map Token.text).length := by simp only [List.length_map]; omega
    rw [List.getD_append _ _ _ _ present, List.getD_append _ _ _ _ present]

private theorem push_few {tokens : List Token} {tok : Token} (few : tokens.length ≤ maxNmeaTokens) :
    (if tokens.length < maxNmeaTokens then tokens ++ [tok] else tokens).length ≤ maxNmeaTokens := by
  split_ifs
  · simp only [List.length_append, List.length_singleton]; omega
  · exact few

/-- Cutting at the next comma is the first step of splitting at commas. -/
theorem splitOn_memchr (bound : fin ≤ mem.length) {p q : Nat} (order : p ≤ fin)
    (found : memchr mem comma p (fin - p) = some q) :
    (slice mem p fin).splitOn comma = slice mem p q :: (slice mem (q + 1) fin).splitOn comma := by
  obtain ⟨lower, upper, mark, fresh⟩ := memchr_some (by omega) found
  rw [slice_append mem lower (by omega) bound, slice_cons mem (p := q) (by omega) bound, mark,
    List.splitOn_append_cons_self_of_not_mem fresh]

theorem nmeaTokenizerLoop_texts (bound : fin ≤ mem.length) (rounds p : Nat) (tokens : List Token)
    (order : p ≤ fin) (enough : fin - p ≤ rounds) (few : tokens.length ≤ maxNmeaTokens) (i : Nat) :
    ((nmeaTokenizerLoop mem fin rounds p tokens).map Token.text).getD i [] =
      if i < maxNmeaTokens then
        (tokens.map Token.text ++ (slice mem p fin).splitOn comma).getD i [] else [] := by
  have finished (tokens : List Token) (few : tokens.length ≤ maxNmeaTokens) :
      (tokens.map Token.text).getD i [] = if i < maxNmeaTokens then
        (tokens.map Token.text ++ (slice mem fin fin).splitOn comma).getD i [] else [] := by
    rw [slice_self, List.splitOn_nil, getD_append_empty]
    split_ifs with inside
    · rfl
    · exact List.getD_eq_default _ _ (by simp only [List.length_map]; omega)
  induction rounds generalizing p tokens with
  | zero =>
    obtain rfl : p = fin := by omega
    exact finished tokens few
  | succ rounds ih =>
    rw [nmeaTokenizerLoop]
    by_cases inside : p < fin
    · rw [if_pos inside]
      cases found : memchr mem comma p (fin - p) with
      | none =>
        have fresh := memchr_none (by omega) found
        rw [show p + (fin - p) = fin by omega] at fresh
        simp only [Option.getD_none, lt_irrefl, ↓reduceIte, order, true_and]
        rw [ih fin _ le_rfl (by omega) (push_few few), slice_self, List.splitOn_nil,
          List.splitOn_eq_singleton fresh]
        by_cases early : i < maxNmeaTokens
        · rw [if_pos early, if_pos early, getD_push _ _ _ few early,
            ← getD_append_empty (tokens.map Token.text ++ [slice mem p fin])]
          simp only [Token.text, List.append_assoc, List.cons_append, List.nil_append]
        · rw [if_neg early, if_neg early]
      | some q =>
        obtain ⟨lower, upper, mark, fresh⟩ := memchr_some (by omega) found
        have before : q < fin := by omega
        simp only [Option.getD_some, before, ↓reduceIte, lower, true_and]
        rw [ih (q + 1) _ before (by omega) (push_few few), splitOn_memchr bound order found]
        by_cases early : i < maxNmeaTokens
        · rw [if_pos early, if_pos early]
          exact getD_push _ ⟨mem, p, q⟩ _ few early
        · rw [if_neg early, if_neg early]
    · obtain rfl : p = fin := by omega
      rw [if_neg inside]
      exact finished tokens few

theorem nmeaTokenizerLoop_good (bound : fin ≤ mem.length)
    (stop : byteAt mem fin ∈ [0, comma, star, cr, lf]) (rounds p : Nat) (tokens : List Token)
    (order : p ≤ fin) (good : ∀ tok ∈ tokens, tok.Good) :
    ∀ tok ∈ nmeaTokenizerLoop mem fin rounds p tokens, tok.Good := by
  induction rounds generalizing p tokens with
  | zero => exact good
  | succ rounds ih =>
    rw [nmeaTokenizerLoop]
    by_cases inside : p < fin
    · rw [if_pos inside]
      have cut : ∃ q, (memchr mem comma p (fin - p)).getD fin = q ∧ p ≤ q ∧ q ≤ fin ∧
          byteAt mem q ∈ [0, comma, star, cr, lf] := by
        cases found : memchr mem comma p (fin - p) with
        | none => exact ⟨fin, rfl, order, le_rfl, stop⟩
        | some q =>
          obtain ⟨lower, upper, mark, _⟩ := memchr_some (by omega) found
          exact ⟨q, rfl, lower, by omega, by simp [mark]⟩
      obtain ⟨q, cutAt, lower, upper, mark⟩ := cut
      simp only [cutAt]
      apply ih
      · split_ifs <;> omega
      · intro tok member
        split_ifs at member
        · rcases List.mem_append.mp member with old | new
          · exact good tok old
          · obtain rfl := List.mem_singleton.mp new
            exact ⟨lower, by dsimp only; omega, mark⟩
        · exact good tok member
    · rw [if_neg inside]
      exact good

/-- On every sentence the tokenizer's tokens are the sentence's fields. -/
theorem nmeaTokenizerGet_text (bound : fin ≤ mem.length) (index : Nat) :
    (nmeaTokenizerGet (nmeaTokenizerInit mem 0 fin) index).text = field (mem.take fin) index := by
  obtain ⟨-, order, inside, body⟩ := nmeaTokenizerTrim_spec (Nat.zero_le fin) bound
  have texts := nmeaTokenizerLoop_texts (show (nmeaTokenizerTrim mem 0 fin).2 ≤ mem.length by omega)
    _ _ [] order le_rfl (Nat.zero_le _) index
  rw [List.map_nil, List.nil_append, body, slice_zero] at texts
  rw [field, ← texts, nmeaTokenizerGet, nmeaTokenizerInit, ← List.getD_map (f := Token.text)]
  rfl

/-- Every token of a line, present or missing, is followed by a byte that ends a field. -/
theorem nmeaTokenizerGet_good (bound : fin ≤ mem.length) (nonempty : 0 < fin)
    (ended : byteAt mem (fin - 1) = lf) (index : Nat) :
    (nmeaTokenizerGet (nmeaTokenizerInit mem 0 fin) index).Good := by
  obtain ⟨-, order, inside, -⟩ := nmeaTokenizerTrim_spec (Nat.zero_le fin) bound
  have good := nmeaTokenizerLoop_good (show (nmeaTokenizerTrim mem 0 fin).2 ≤ mem.length by omega)
    (nmeaTokenizerTrim_stop nonempty ended) ((nmeaTokenizerTrim mem 0 fin).2 - (nmeaTokenizerTrim mem 0 fin).1)
    _ [] order (by simp)
  rw [nmeaTokenizerGet]
  rcases Nat.lt_or_ge index (nmeaTokenizerInit mem 0 fin).length with present | absent
  · rw [List.getD_eq_getElem _ _ present]
    exact good _ (List.getElem_mem present)
  · rw [List.getD_eq_default _ _ absent]
    exact ⟨le_rfl, by decide, by decide⟩

end Loop

section Readers

variable {mem : List Byte} {p fin : Nat}

theorem str2intLoop_eq (bound : fin ≤ mem.length) (order : p ≤ fin) (result : Int) :
    str2intLoop mem fin (fin - p) p result = decimal (slice mem p fin) result := by
  induction len : fin - p generalizing p result with
  | zero =>
    obtain rfl : p = fin := by omega
    rw [slice_self]
    rfl
  | succ len ih =>
    rw [slice_cons mem (by omega) bound, str2intLoop, decimal, if_neg (by omega)]
    by_cases numeral :
      0 ≤ ((byteAt mem p).toNat : Int) - 48 ∧ ((byteAt mem p).toNat : Int) - 48 < 10
    · rw [if_pos numeral, if_pos numeral, ih (by omega) _ (by omega)]
    · rw [if_neg numeral, if_neg numeral]

/-- `str2int` depends on its range alone, as long as an empty range is not followed by `-`. -/
theorem str2int_eq (bound : fin ≤ mem.length) (order : p ≤ fin)
    (visible : p < fin ∨ byteAt mem p ≠ minus) :
    str2int mem p fin = strToInt (slice mem p fin) := by
  have head : byteAt mem p = minus ↔ (slice mem p fin).head? = some minus := by
    rcases Nat.lt_or_ge p fin with inside | outside
    · rw [slice_cons mem inside bound]; simp
    · obtain rfl : p = fin := by omega
      rw [slice_self]
      simpa using visible.resolve_left (lt_irrefl p)
  by_cases signed : byteAt mem p = minus
  · have inside : p < fin := visible.resolve_right (not_not_intro signed)
    have tail : (slice mem p fin).tail = slice mem (p + 1) fin := by
      rw [slice_cons mem inside bound, List.tail_cons]
    have loop := str2intLoop_eq bound (Nat.succ_le_of_lt inside) 0
    cases found : decimal (slice mem (p + 1) fin) 0 <;>
      simp only [str2int, strToInt, if_pos (head.mp signed), signed, ↓reduceIte, tail, loop, found]
  · simp only [str2int, strToInt, if_neg (head.not.mp signed), signed, ↓reduceIte]
    rw [str2intLoop_eq bound order]
    cases decimal (slice mem p fin) 0 <;> rfl

variable {F : Type} {pf : Platform F}

theorem str2float_eq (bound : fin ≤ mem.length) :
    str2float pf mem p fin = strToFloat pf (slice mem p fin) := by
  rw [str2float, strToFloat, slice_length mem bound]

/-- Comparing bytes at a pointer into a field is a prefix test on the rest of its text. -/
theorem memEq_iff (bound : fin ≤ mem.length) (order : p ≤ fin)
    (stop : byteAt mem fin ∈ [0, comma, star, cr, lf]) (word : List Byte)
    (plain : ∀ c ∈ word, c ∉ [0, comma, star, cr, lf]) :
    memEq mem p word = true ↔ word <+: slice mem p fin := by
  induction word generalizing p with
  | nil => simp [memEq]
  | cons c rest ih =>
    rcases Nat.lt_or_ge p fin with inside | outside
    · rw [slice_cons mem inside bound, memEq, Bool.and_eq_true, beq_iff_eq, List.cons_prefix_cons,
        ih (by omega) (fun other member => plain other (List.mem_cons_of_mem _ member)), eq_comm]
    · obtain rfl : p = fin := by omega
      have different : byteAt mem p ≠ c := fun same => plain c List.mem_cons_self (same ▸ stop)
      rw [slice_self, memEq, Bool.and_eq_true, beq_iff_eq]
      simp [different]

variable {tok : Token}

/-- The byte that ends an empty token is no sign. -/
theorem Token.Good.visible (good : tok.Good) : tok.p < tok.fin ∨ byteAt tok.mem tok.p ≠ minus := by
  rcases Nat.lt_or_ge tok.p tok.fin with inside | outside
  · exact .inl inside
  · have same : tok.p = tok.fin := Nat.le_antisymm good.order outside
    right
    intro equal
    have stop := good.stop
    rw [← same, equal] at stop
    exact absurd stop (by decide)

theorem Token.Good.int_eq (good : tok.Good) : tok.int = strToInt tok.text :=
  str2int_eq good.bound good.order good.visible

theorem Token.Good.float_eq (good : tok.Good) : tok.float pf = strToFloat pf tok.text :=
  str2float_eq good.bound

theorem Token.Good.length_eq (good : tok.Good) : tok.text.length = tok.fin - tok.p :=
  slice_length _ good.bound

/-- Reading the first byte of a possibly empty token recognises a letter as its text does. -/
theorem Token.Good.first_eq_iff (good : tok.Good) {c : Byte}
    (plain : c ∉ [0, comma, star, cr, lf]) :
    tok.first = c ↔ tok.text.head? = some c := by
  rcases Nat.lt_or_ge tok.p tok.fin with inside | outside
  · rw [Token.text, slice_cons _ inside good.bound]; simp [Token.first]
  · have same : tok.p = tok.fin := Nat.le_antisymm good.order outside
    rw [Token.text, same, slice_self]
    simp only [List.head?_nil, reduceCtorEq, iff_false]
    intro equal
    have stop := good.stop
    rw [← same, ← Token.first, equal] at stop
    exact plain stop

theorem Token.Good.memEq_iff (good : tok.Good) {skip : Nat} (inside : skip ≤ tok.text.length)
    (word : List Byte) (plain : ∀ c ∈ word, c ∉ [0, comma, star, cr, lf]) :
    memEq tok.mem (tok.p + skip) word = true ↔ word <+: tok.text.drop skip := by
  have order := good.order
  rw [good.length_eq] at inside
  rw [Gps.memEq_iff good.bound (by omega) good.stop word plain, Token.text, slice_drop]

end Readers

section Digits

def IsDigits (text : List Byte) : Prop := ∀ c ∈ text, digit0 ≤ c ∧ c ≤ 57

instance (text : List Byte) : Decidable (IsDigits text) := List.decidableBAll _ text

/-- The decimal value of a text of digits. -/
def digitsValue (digits : List Byte) : Nat := digits.foldl (fun value c => value * 10 + (c.toNat - 48)) 0

theorem digit_bounds {c : Byte} (digit : digit0 ≤ c ∧ c ≤ 57) : 48 ≤ c.toNat ∧ c.toNat ≤ 57 :=
  ⟨UInt8.le_iff_toNat_le.mp digit.1, UInt8.le_iff_toNat_le.mp digit.2⟩

private theorem wrap32_step (value digit : Int) :
    wrap32 (wrap32 value * 10 + digit) = wrap32 (value * 10 + digit) := by
  unfold wrap32
  rw [Int.add_bmod, Int.mul_bmod, Int.bmod_bmod, ← Int.mul_bmod, ← Int.add_bmod]

theorem decimal_digits {digits : List Byte} (each : IsDigits digits) (value : Nat) :
    decimal digits (wrap32 value) =
      some (wrap32 (digits.foldl (fun value c => value * 10 + (c.toNat - 48)) value : Nat)) := by
  induction digits generalizing value with
  | nil => rfl
  | cons c rest ih =>
    obtain ⟨low, high⟩ := digit_bounds (each c List.mem_cons_self)
    have next :=
      ih (fun c member => each c (List.mem_cons_of_mem _ member)) (value * 10 + (c.toNat - 48))
    rw [decimal, if_pos (by omega), wrap32_step, List.foldl_cons, ← next]
    push_cast [low]
    rfl

theorem strToInt_digits {digits : List Byte} (each : IsDigits digits) :
    strToInt digits = wrap32 (digitsValue digits) := by
  have unsigned : digits.head? ≠ some minus := by
    intro signed
    have := each minus (List.mem_of_mem_head? signed)
    exact absurd this.1 (by decide)
  have read : decimal digits 0 = some (wrap32 (digitsValue digits)) := decimal_digits each 0
  rw [strToInt, if_neg unsigned, read, Option.getD_some]

end Digits

end Mt6582.Gps

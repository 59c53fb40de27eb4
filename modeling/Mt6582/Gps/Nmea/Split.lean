import Mathlib.Data.List.Chain
import Mt6582.Gps.Nmea.Fields
import Mt6582.Machine.While

/-! # The tokenizer is a bounded split

`nmea_tokenizer_init` cuts the body of a sentence at its commas and keeps the first 24 pieces. A body
that ends in a comma has no field after it, and neither has an empty body; empty fields elsewhere
count. The ranges it stores follow each other with one comma between them.
-/

namespace Mt6582.Gps

open Machine

/-- The pieces between commas; an empty one at the end is no field. -/
def splitFields (body : List Byte) : List (List Byte) :=
  if (body.splitOn comma).getLast? = some [] then (body.splitOn comma).dropLast else body.splitOn comma

/-- The fields of a sentence that the table holds. -/
def nmeaFields (sentence : List Byte) : List (List Byte) :=
  (splitFields (nmeaBody sentence)).take maxNmeaTokens

/-- `u` starts right after the comma that ends `t`. -/
def Token.Adjacent (t u : Token) : Prop := byteAt t.mem t.fin = comma ∧ u.p = t.fin + 1

section SplitFields

theorem splitFields_nil : splitFields [] = [] := by
  simp [splitFields, List.splitOn_nil]

theorem splitFields_fresh {text : List Byte} (fresh : comma ∉ text) (nonempty : text ≠ []) :
    splitFields text = [text] := by
  rw [splitFields, List.splitOn_eq_singleton fresh, List.getLast?_singleton,
    if_neg (by simpa using nonempty)]

theorem splitFields_cons {text rest : List Byte} (fresh : comma ∉ text) :
    splitFields (text ++ comma :: rest) = text :: splitFields rest := by
  have pieces : rest.splitOn comma ≠ [] := List.splitOn_ne_nil comma rest
  rw [splitFields, splitFields, List.splitOn_append_cons_self_of_not_mem fresh,
    List.getLast?_cons_of_ne_nil pieces, List.dropLast_cons_of_ne_nil pieces]
  split_ifs <;> rfl

end SplitFields

section Round

variable {mem : List Byte} {first fin : Nat}

/-- One round of the loop: the range up to the next comma is stored, and the scan goes on behind it. -/
def nmeaTokenizerRound (mem : List Byte) (fin : Nat) (s : Nat × List Token) : Nat × List Token :=
  let q := (memchr mem comma s.1 (fin - s.1)).getD fin
  (if q < fin then q + 1 else q,
    if s.1 ≤ q ∧ s.2.length < maxNmeaTokens then s.2 ++ [⟨mem, s.1, q⟩] else s.2)

/-- The table when the scan that began at `first` has come to `s.1`. -/
structure Scanned (mem : List Byte) (first fin : Nat) (s : Nat × List Token) : Prop where
  range : first ≤ s.1 ∧ s.1 ≤ fin
  few : s.2.length ≤ maxNmeaTokens
  inside : ∀ tok ∈ s.2, tok.mem = mem ∧ first ≤ tok.p ∧ tok.p ≤ tok.fin ∧ tok.fin ≤ fin
  before : ∀ tok ∈ s.2, s.1 < fin → tok.fin < s.1
  apart : s.2.Pairwise fun t u => t.fin < u.p
  adjacent : s.2.IsChain Token.Adjacent
  next : s.1 < fin → s.2.length < maxNmeaTokens →
    ∀ last ∈ s.2.getLast?, byteAt mem last.fin = comma ∧ s.1 = last.fin + 1
  texts : (s.2.map Token.text ++ splitFields (slice mem s.1 fin)).take maxNmeaTokens =
    (splitFields (slice mem first fin)).take maxNmeaTokens

theorem scanned_first (order : first ≤ fin) : Scanned mem first fin (first, []) where
  range := ⟨le_rfl, order⟩
  few := Nat.zero_le _
  inside := by simp
  before := by simp
  apart := .nil
  adjacent := .nil
  next := by simp
  texts := rfl

/-- Where a round cuts, and what it takes off the fields still to come. -/
theorem cut_cases (bound : fin ≤ mem.length) {p : Nat} (inside : p < fin) :
    ∃ q, (memchr mem comma p (fin - p)).getD fin = q ∧ p ≤ q ∧ q ≤ fin ∧
      (q < fin → byteAt mem q = comma) ∧
      splitFields (slice mem p fin) =
        slice mem p q :: splitFields (slice mem (if q < fin then q + 1 else q) fin) := by
  cases found : memchr mem comma p (fin - p) with
  | none =>
    have fresh := memchr_none (by omega) found
    rw [show p + (fin - p) = fin by omega] at fresh
    have nonempty :
        slice mem p fin ≠ [] := by rw [slice_cons mem inside bound]; exact List.cons_ne_nil _ _
    refine ⟨fin, rfl, inside.le, le_rfl, fun less => absurd less (lt_irrefl fin), ?_⟩
    rw [splitFields_fresh fresh nonempty, if_neg (lt_irrefl fin), slice_self, splitFields_nil]
  | some q =>
    obtain ⟨lower, upper, mark, fresh⟩ := memchr_some (by omega) found
    have before : q < fin := by omega
    refine ⟨q, rfl, lower, before.le, fun _ => mark, ?_⟩
    rw [slice_append mem lower before.le bound, slice_cons mem before bound, mark,
      splitFields_cons fresh, if_pos before]

theorem Scanned.round (bound : fin ≤ mem.length) {s : Nat × List Token}
    (scanned : Scanned mem first fin s) (entered : s.1 < fin) :
    Scanned mem first fin (nmeaTokenizerRound mem fin s) := by
  obtain ⟨p, tokens⟩ := s
  obtain ⟨range, few, inside, before, apart, adjacent, next, texts⟩ := scanned
  dsimp only at *
  obtain ⟨q, cutAt, lower, upper, mark, fields⟩ := cut_cases bound entered
  simp only [nmeaTokenizerRound, cutAt, lower, true_and]
  rw [fields] at texts
  generalize moved : (if q < fin then q + 1 else q) = p'
  rw [moved] at texts
  have behind : q ≤ p' ∧ p' ≤ fin ∧ (p' < fin → q < fin ∧ p' = q + 1) := by
    rw [← moved]
    split_ifs <;> omega
  by_cases room : tokens.length < maxNmeaTokens
  · rw [if_pos room]
    constructor
    · exact ⟨by dsimp only; omega, behind.2.1⟩
    · rw [List.length_append]
      exact room
    · intro tok member
      rcases List.mem_append.mp member with old | new
      · exact inside tok old
      · obtain rfl := List.mem_singleton.mp new
        exact ⟨rfl, range.1, lower, upper⟩
    · intro tok member more
      rcases List.mem_append.mp member with old | new
      · have := before tok old entered
        dsimp only
        omega
      · obtain rfl := List.mem_singleton.mp new
        have := behind.2.2 more
        dsimp only
        omega
    · refine List.pairwise_append.mpr ⟨apart, List.pairwise_singleton _ _, fun tok old u new => ?_⟩
      obtain rfl := List.mem_singleton.mp new
      exact before tok old entered
    · refine List.isChain_append.mpr ⟨adjacent, .singleton _, fun last isLast u new => ?_⟩
      obtain rfl : u = ⟨mem, p, q⟩ := by simpa using new.symm
      have same := (inside last (List.mem_of_getLast? isLast)).1
      have joined := next entered room last isLast
      exact ⟨by rw [same]; exact joined.1, joined.2⟩
    · intro more _ last isLast
      obtain rfl : last = ⟨mem, p, q⟩ := by simpa using isLast.symm
      have joined := behind.2.2 more
      exact ⟨mark joined.1, joined.2⟩
    · rw [← texts, List.map_append, List.map_singleton, Token.text, List.append_assoc,
        List.singleton_append]
  · rw [if_neg room]
    refine ⟨⟨by dsimp only; omega, behind.2.1⟩, few, inside, fun tok member _ => ?_,
      apart, adjacent, fun _ more => absurd more room, ?_⟩
    · have := before tok member entered
      dsimp only
      omega
    · have full : maxNmeaTokens ≤ (tokens.map Token.text).length := by rw [List.length_map]; omega
      rw [List.take_append_of_le_length full] at texts ⊢
      exact texts

theorem nmeaTokenizerRound_advances (bound : fin ≤ mem.length) {p : Nat} (entered : p < fin)
    (tokens : List Token) :
    p < (nmeaTokenizerRound mem fin (p, tokens)).1 ∧
      (nmeaTokenizerRound mem fin (p, tokens)).1 ≤ fin := by
  obtain ⟨q, cutAt, lower, upper, -⟩ := cut_cases bound entered
  simp only [nmeaTokenizerRound, cutAt]
  split_ifs <;> omega

/-- The rounds of the model are the rounds of the loop, and they reach its end. -/
theorem nmeaTokenizerLoop_while (bound : fin ≤ mem.length) (rounds p : Nat) (tokens : List Token)
    (order : p ≤ fin) (enough : fin - p ≤ rounds) :
    While (fun s => s.1 < fin) (nmeaTokenizerRound mem fin) (p, tokens)
      (fin, nmeaTokenizerLoop mem fin rounds p tokens) := by
  induction rounds generalizing p tokens with
  | zero =>
    obtain rfl : p = fin := by omega
    exact .exit (lt_irrefl p)
  | succ rounds ih =>
    rcases order.lt_or_eq with entered | rfl
    · have moved := nmeaTokenizerRound_advances bound entered tokens
      have rest :=
        ih (nmeaTokenizerRound mem fin (p, tokens)).1 (nmeaTokenizerRound mem fin (p, tokens)).2
        moved.2 (by omega)
      rw [nmeaTokenizerLoop, if_pos entered]
      exact .round entered rest
    · rw [nmeaTokenizerLoop, if_neg (lt_irrefl p)]
      exact .exit (lt_irrefl p)

end Round

section Init

variable {mem : List Byte} {p fin : Nat}

/-- What `nmea_tokenizer_init` leaves in its table. -/
theorem nmeaTokenizerInit_scanned (order : p ≤ fin) (bound : fin ≤ mem.length) :
    Scanned mem (nmeaTokenizerTrim mem p fin).1 (nmeaTokenizerTrim mem p fin).2
      ((nmeaTokenizerTrim mem p fin).2, nmeaTokenizerInit mem p fin) := by
  obtain ⟨-, range, inside, -⟩ := nmeaTokenizerTrim_spec order bound
  have bound' : (nmeaTokenizerTrim mem p fin).2 ≤ mem.length := inside.trans bound
  have stops := nmeaTokenizerLoop_while bound' _ _ [] range le_rfl
  exact (stops.invariant (fun s scanned entered => scanned.round bound' entered) (scanned_first range)).1

theorem nmeaTokenizerInit_texts (order : p ≤ fin) (bound : fin ≤ mem.length) :
    (nmeaTokenizerInit mem p fin).map Token.text = nmeaFields (slice mem p fin) := by
  obtain ⟨-, -, -, body⟩ := nmeaTokenizerTrim_spec order bound
  have scanned := nmeaTokenizerInit_scanned order bound
  have texts := scanned.texts
  rw [slice_self, splitFields_nil, List.append_nil, body] at texts
  rw [nmeaFields, ← texts, List.take_of_length_le (by rw [List.length_map]; exact scanned.few)]

/-- On every byte string the loop stops, with the first 24 fields of the body in the table, in ranges that
follow each other with one comma between them; a look-up delivers a field or the empty text. -/
theorem nmeaTokenizerInit_splits (mem : List Byte) (p fin : Nat) (order : p ≤ fin)
    (bound : fin ≤ mem.length) :
    (∀ last, While (fun s => s.1 < (nmeaTokenizerTrim mem p fin).2)
        (nmeaTokenizerRound mem (nmeaTokenizerTrim mem p fin).2) ((nmeaTokenizerTrim mem p fin).1, []) last ↔
      last = ((nmeaTokenizerTrim mem p fin).2, nmeaTokenizerInit mem p fin)) ∧
    (nmeaTokenizerInit mem p fin).map Token.text = nmeaFields (slice mem p fin) ∧
    (∀ tok ∈ nmeaTokenizerInit mem p fin, tok.mem = mem ∧ p ≤ tok.p ∧ tok.p ≤ tok.fin ∧ tok.fin ≤ fin) ∧
    (nmeaTokenizerInit mem p fin).Pairwise (fun t u => t.fin < u.p) ∧
    (nmeaTokenizerInit mem p fin).IsChain Token.Adjacent ∧
    ∀ index, (nmeaTokenizerGet (nmeaTokenizerInit mem p fin) index).text =
      (nmeaFields (slice mem p fin)).getD index [] := by
  obtain ⟨above, range, inside, -⟩ := nmeaTokenizerTrim_spec order bound
  have scanned := nmeaTokenizerInit_scanned order bound
  have texts := nmeaTokenizerInit_texts order bound
  have stops := nmeaTokenizerLoop_while (inside.trans bound) _ _ [] range le_rfl
  refine ⟨fun last => ⟨fun other => other.unique stops, fun same => same ▸ stops⟩, texts,
    fun tok member => ?_, scanned.apart, scanned.adjacent, fun index => ?_⟩
  · obtain ⟨same, lower, middle, upper⟩ := scanned.inside tok member
    exact ⟨same, above.trans lower, middle, upper.trans inside⟩
  · rw [← texts, nmeaTokenizerGet, ← List.getD_map (f := Token.text)]
    rfl

/-- An empty field in the middle counts, one at the end does not. -/
theorem nmeaTokenizerInit_splits_short :
    (nmeaTokenizerInit (lit ['$', 'A', ',', ',', 'B', ',', '*', '0', '0', '\r', '\n']) 0 11).map Token.text =
      [lit ['A'], [], lit ['B']] := by
  obtain ⟨-, texts, -⟩ := nmeaTokenizerInit_splits
    (lit ['$', 'A', ',', ',', 'B', ',', '*', '0', '0', '\r', '\n']) 0 11 (by decide) (by decide)
  rw [texts]
  decide

end Init

end Mt6582.Gps

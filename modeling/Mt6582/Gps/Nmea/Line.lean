import Mt6582.Gps.Nmea.Assembly

/-! # Whole sentences: writing them and feeding them

`Sentence` is a sentence as a receiver writes it: comma-separated fields with an optional checksum and
either line end. Its line has exactly these fields, and feeding the line to a reader that is between
two lines is one application of the sentence's effect followed by the reports.
-/

namespace Mt6582.Gps

open List

variable {F : Type} {pf : Platform F}

section Writing

/-- The fields of a sentence and how its line ends. -/
structure Sentence where
  fields : List (List Byte)
  checksum : Option (Byte × Byte)
  crlf : Bool

/-- A field text holds none of the bytes that structure a line. -/
def PlainText (text : List Byte) : Prop := ∀ c ∈ text, c ≠ comma ∧ c ≠ star ∧ c ≠ cr ∧ c ≠ lf

instance (text : List Byte) : Decidable (PlainText text) := List.decidableBAll _ text

def Sentence.body (sentence : Sentence) : List Byte := [comma].intercalate sentence.fields

def Sentence.mark (sentence : Sentence) : List Byte :=
  match sentence.checksum with
  | none => []
  | some (high, low) => [star, high, low]

/-- The line as it is sent. -/
def Sentence.line (sentence : Sentence) : List Byte :=
  dollar :: (sentence.body ++ sentence.mark ++ if sentence.crlf then [cr, lf] else [lf])

/-- The sentence has fields, they and the checksum are plain, and its line fits the reader. -/
structure Sentence.WellFormed (sentence : Sentence) : Prop where
  nonempty : sentence.fields ≠ []
  plain : ∀ text ∈ sentence.fields, PlainText text
  checksum : ∀ high low, sentence.checksum = some (high, low) → PlainText [high, low]
  fits : sentence.line.length ≤ nmeaMaxSize

namespace Sentence.WellFormed

variable {sentence : Sentence}

theorem plain_body (wf : sentence.WellFormed) :
    ∀ c ∈ sentence.body, c ≠ star ∧ c ≠ cr ∧ c ≠ lf := by
  intro c member
  have plain := wf.plain
  rw [Sentence.body] at member
  generalize sentence.fields = fields at plain member
  induction fields with
  | nil => simp at member
  | cons text rest ih =>
    cases rest with
    | nil =>
      have inside : c ∈ text := by simpa using member
      exact (plain text (by simp) c inside).2
    | cons other rest =>
      rw [intercalate_cons_cons, mem_append, mem_append, mem_singleton] at member
      rcases member with (inside | rfl) | later
      · exact (plain text (by simp) c inside).2
      · decide
      · exact ih (fun text inside => plain text (mem_cons_of_mem _ inside)) later

theorem plain_marked (wf : sentence.WellFormed) :
    ∀ c ∈ sentence.body ++ sentence.mark, c ≠ cr ∧ c ≠ lf := by
  intro c member
  rcases mem_append.mp member with inside | inside
  · exact (wf.plain_body c inside).2
  · cases found : sentence.checksum with
    | none => simp [Sentence.mark, found] at inside
    | some pair =>
      obtain ⟨high, low⟩ := pair
      simp only [Sentence.mark, found, mem_cons, not_mem_nil, or_false] at inside
      rcases inside with rfl | inside
      · decide
      · exact (wf.checksum high low found c (by simpa using inside)).2.2

theorem isLine (wf : sentence.WellFormed) : IsLine lf sentence.line := by
  have marked : lf ∉ sentence.body ++ sentence.mark :=
    fun member => (wf.plain_marked lf member).2 rfl
  cases found : sentence.crlf with
  | true =>
    refine ⟨dollar :: (sentence.body ++ sentence.mark ++ [cr]), by simp [Sentence.line, found], ?_⟩
    rw [mem_cons, mem_append, not_or, not_or]
    exact ⟨by decide, marked, by decide⟩
  | false =>
    refine ⟨dollar :: (sentence.body ++ sentence.mark), by simp [Sentence.line, found], ?_⟩
    simp only [mem_cons, not_or]
    exact ⟨by decide, marked⟩

end Sentence.WellFormed

private theorem dropLineEnd_written (text : List Byte) (crlf : Bool) (plain : ∀ c ∈ text, c ≠ cr) :
    dropLineEnd (text ++ if crlf then [cr, lf] else [lf]) = text := by
  cases crlf with
  | true =>
    have split : text ++ [cr, lf] = text ++ [cr] ++ [lf] := by simp
    simp only [↓reduceIte, split, dropLineEnd, getLast?_concat, dropLast_concat]
  | false =>
    simp only [Bool.false_eq_true, ↓reduceIte, dropLineEnd, getLast?_concat, dropLast_concat]
    rw [if_neg]
    intro last
    exact plain cr (mem_of_getLast? last) rfl

private theorem dropChecksum_plain (text : List Byte) (plain : ∀ c ∈ text, c ≠ star) :
    dropChecksum text = text := by
  rw [dropChecksum]
  rw [if_neg]
  rintro ⟨-, found⟩
  exact plain star (mem_of_getElem? found) rfl

private theorem dropChecksum_marked (text : List Byte) (high low : Byte) :
    dropChecksum (text ++ [star, high, low]) = text := by
  have size : (text ++ [star, high, low]).length = text.length + 3 := by simp
  rw [dropChecksum]
  rw [size, Nat.add_sub_cancel, if_pos ⟨by omega, by simp⟩, take_left]

theorem nmeaBody_line {sentence : Sentence} (wf : sentence.WellFormed) :
    nmeaBody sentence.line = sentence.body := by
  have ended := dropLineEnd_written (sentence.body ++ sentence.mark) sentence.crlf
    (fun c member => (wf.plain_marked c member).1)
  rw [nmeaBody, Sentence.line, head?_cons, if_pos rfl, tail_cons, ended]
  cases found : sentence.checksum with
  | none =>
    rw [Sentence.mark, found, append_nil]
    exact dropChecksum_plain _ (fun c member => (wf.plain_body c member).1)
  | some pair =>
    obtain ⟨high, low⟩ := pair
    rw [Sentence.mark, found]
    exact dropChecksum_marked _ _ _

/-- The fields of a written line are the sentence's fields. -/
theorem field_line {sentence : Sentence} (wf : sentence.WellFormed) {index : Nat}
    (inside : index < maxNmeaTokens) :
    field sentence.line index = sentence.fields.getD index [] := by
  rw [field, if_pos inside, nmeaBody_line wf, Sentence.body,
    splitOn_intercalate comma _ wf.nonempty]
  exact fun text member found => (wf.plain text member comma found).1 rfl

end Writing

section Feeding

/-- The reader is between two lines. -/
structure NmeaReader.Idle (r : NmeaReader pf) : Prop where
  pos : r.pos = 0
  overflow : r.overflow = false

/-- The callbacks are registered at every byte. -/
def Registered (pf : Platform F) (inputs : List NmeaInput) : Prop :=
  ∀ input ∈ inputs, input.env.callbacksSize = pf.sizeofGpsCallbacksMtk

/-- Bytes without a newline that fit the buffer are stored, and nothing else changes. -/
theorem nmeaReaderFeed_body (inputs : List NmeaInput) {s : NmeaState pf} {text : List Byte}
    (inMode : s.reader.InMode (.filling text)) (fresh : lf ∉ inputs.map NmeaInput.byte)
    (fits : text.length + inputs.length < nmeaMaxSize) :
    ∃ pos inBuf tag, nmeaReaderFeed s inputs =
      ({ s with reader := { s.reader with pos := pos, inBuf := inBuf }, gpsNmeaEndTag := tag }, []) ∧
      (nmeaReaderFeed s inputs).1.reader.InMode (.filling (text ++ inputs.map NmeaInput.byte)) := by
  induction inputs generalizing s text with
  | nil => exact ⟨_, _, _, rfl, by rw [map_nil, append_nil]; exact inMode⟩
  | cons input rest ih =>
    obtain ⟨other, fresh⟩ := not_or.mp (mem_cons.not.mp fresh)
    rw [length_cons] at fits
    have room : s.reader.pos < nmeaMaxSize := by
      rw [inMode.2.1]
      omega
    have stored : nmeaReaderAddc input.env { s with gpsNmeaEndTag := input.endTag } input.byte =
        ({ s with reader := s.reader.push input.byte, gpsNmeaEndTag := input.endTag }, []) := by
      obtain ⟨skips, -⟩ | ⟨-, full, -⟩ | ⟨-, -, -, added⟩ | ⟨-, -, ended, -⟩ :=
        nmeaReaderAddc_cases input.env { s with gpsNmeaEndTag := input.endTag } input.byte
      · exact absurd skips (Bool.eq_false_iff.mp inMode.1)
      · exact absurd room (not_lt.mpr full)
      · exact added
      · exact absurd ended.symm other
    have pushed : (s.reader.push input.byte).InMode (.filling (text ++ [input.byte])) := by
      refine ⟨inMode.1, ?_, room, ?_⟩
      · rw [length_append, ← inMode.2.1]
        rfl
      · rw [NmeaReader.line_push room, inMode.2.2.2]
    obtain ⟨pos, inBuf, tag, fed, filled⟩ := ih
      (s := { s with reader := s.reader.push input.byte, gpsNmeaEndTag := input.endTag }) pushed fresh
      (by rw [length_append, length_singleton]; omega)
    simp only [nmeaReaderFeed, stored, fed, nil_append, map_cons]
    refine ⟨pos, inBuf, tag, rfl, ?_⟩
    rw [fed] at filled
    simpa using filled

/-- What the reader does with a whole line, once the line is in its buffer. -/
def lineEffect (env : ParseEnv) (loaded : NmeaState pf) : NmeaState pf × List (Call pf) :=
  if sentenceKind loaded.reader.line = .ignored then (loaded, [])
  else nmeaReaderReport env (sentenceEffect env loaded)

/-- Feeding a line that fits to an idle reader loads it into the buffer and applies its effect, with
the surroundings of the line's last byte. -/
theorem nmeaReaderFeed_line {inputs : List NmeaInput} {s : NmeaState pf} {line : List Byte}
    (registered : Registered pf inputs) (idle : s.reader.Idle) (isLine : IsLine lf line)
    (fits : line.length ≤ nmeaMaxSize) (bytes : inputs.map NmeaInput.byte = line) :
    ∃ first last pos inBuf, inputs = first ++ [last] ∧
      ({ s.reader with pos := pos, inBuf := inBuf } : NmeaReader pf).HoldsLine ∧
      ({ s.reader with pos := pos, inBuf := inBuf } : NmeaReader pf).line = line ∧
      ∃ done, done = lineEffect last.env
          { s with reader := { s.reader with pos := pos, inBuf := inBuf }, gpsNmeaEndTag := last.endTag } ∧
        nmeaReaderFeed s inputs = ({ done.1 with reader := { done.1.reader with pos := 0 } },
          .parse line :: done.2 ++ [.nmea done.1.reader.fix.timestamp line]) ∧
        ({ done.1.reader with pos := 0 } : NmeaReader pf).Idle := by
  obtain ⟨body, rfl, fresh⟩ := isLine
  obtain ⟨first, ending, rfl, bodyBytes, endBytes⟩ := map_eq_append_iff.mp bytes
  obtain ⟨last, rfl, ended⟩ := map_eq_singleton_iff.mp endBytes
  have inMode : s.reader.InMode (.filling []) :=
    ⟨idle.overflow, idle.pos, idle.pos ▸ Nat.zero_le _, by rw [NmeaReader.line, idle.pos]; rfl⟩
  have sameSize : first.length = body.length := by rw [← bodyBytes, length_map]
  rw [length_append, length_singleton] at fits
  obtain ⟨pos, inBuf, tag, fed, filled⟩ := nmeaReaderFeed_body first inMode (bodyBytes ▸ fresh)
    (by rw [length_nil, sameSize]; omega)
  rw [fed, nil_append, bodyBytes] at filled
  dsimp only at filled
  have size : pos = body.length := filled.2.1
  have text : ({ s.reader with pos := pos, inBuf := inBuf } : NmeaReader pf).line = body :=
    filled.2.2.2
  have room : pos < nmeaMaxSize := by omega
  have lastRegistered := registered last (by simp)
  obtain ⟨inside, -⟩ | ⟨-, holds, line, parsed, calls, ran, rfl, added⟩ :=
    nmeaReaderAddc_registered lastRegistered
    { s with reader := { s.reader with pos := pos, inBuf := inBuf }, gpsNmeaEndTag := last.endTag } last.byte
  · exact absurd ⟨idle.overflow, room, ended⟩ inside
  · dsimp only at line added ran
    rw [text] at line ran added
    have effect : parsed = lineEffect last.env { s with
        reader := ({ s.reader with pos := pos, inBuf := inBuf } : NmeaReader pf).push lf,
        gpsNmeaEndTag := last.endTag } := by
      rw [ran, lineEffect, line]
    refine ⟨first, last, _, _, rfl, holds, line, parsed, effect, ?_, ?_⟩
    · rw [nmeaReaderFeed_append, fed]
      simp only [nmeaReaderFeed, added, nil_append, append_nil]
    · have mode := (nmeaReaderAddc_assembler last.env (s := { s with
        reader := { s.reader with pos := pos, inBuf := inBuf }, gpsNmeaEndTag := last.endTag }) filled last.byte).1
      have short : body.length < nmeaMaxSize := by omega
      rw [added, Assembler.add, if_pos short, if_pos ended] at mode
      exact ⟨rfl, mode.1⟩

end Feeding

end Mt6582.Gps

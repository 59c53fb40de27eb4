import Mt6582.Gps.Nmea.Sentence
import Mt6582.ToMathlib.Lines
import Mathlib.Data.List.DropRight
import Mathlib.Algebra.Group.Nat.Even

/-! # Assembling lines from bytes

`nmea_reader_addc` fills `in` up to its newline, or skips a line that does not fit. The abstract
assembler below has just these two modes; every byte fed to the reader is one step of it, whatever
the parser does with a finished line. The skip starts on the byte after the 128th, and that byte is
not looked at: a line of exactly 129 bytes takes its successor with it. So the delivered lines are
those of at most 128 bytes except where an odd run of 129-byte lines precedes, and `nmea_reader_addc`
delivers every line that fits exactly when no such run precedes one.
-/

namespace Mt6582.Gps

open List

variable {F : Type} {pf : Platform F}

section Frame

/-- The assembler's part of the reader is the same. -/
structure NmeaReader.SameBuffer (r next : NmeaReader pf) : Prop where
  pos : next.pos = r.pos
  overflow : next.overflow = r.overflow
  inBuf : next.inBuf = r.inBuf

namespace NmeaReader.SameBuffer

variable {r middle next : NmeaReader pf}

theorem refl (r : NmeaReader pf) : r.SameBuffer r := ⟨rfl, rfl, rfl⟩

theorem trans (first : r.SameBuffer middle) (second : middle.SameBuffer next) : r.SameBuffer next :=
  ⟨second.pos.trans first.pos, second.overflow.trans first.overflow, second.inBuf.trans first.inBuf⟩

theorem foldl {α : Type} (items : List α) (update : NmeaReader pf → α → NmeaReader pf)
    (keeps : ∀ (r : NmeaReader pf) item, r.SameBuffer (update r item)) (r : NmeaReader pf) :
    r.SameBuffer (items.foldl update r) := by
  induction items generalizing r with
  | nil => exact refl r
  | cons item rest ih => exact (keeps r item).trans (ih (update r item))

theorem line_eq (same : r.SameBuffer next) : next.line = r.line := by
  rw [NmeaReader.line, NmeaReader.line, same.pos, same.inBuf]

end NmeaReader.SameBuffer

theorem FixStep.sameBuffer {supplied : LocationFlag → Prop} {r next : NmeaReader pf}
    (step : FixStep supplied r next) : r.SameBuffer next := by
  obtain ⟨year, mon, day, fix, rfl⟩ := step.frame
  exact ⟨rfl, rfl, rfl⟩

variable (r : NmeaReader pf) (tzer : List Token) (bds : Bool) (env : ParseEnv)

private theorem nmeaReaderUpdateNumber_sameBuffer (flag : LocationFlag) (tok : Token)
    (store : GpsLocation F → F → GpsLocation F) :
    r.SameBuffer (nmeaReaderUpdateNumber r flag tok store).1 := by
  rw [nmeaReaderUpdateNumber]
  split <;> exact ⟨rfl, rfl, rfl⟩

private theorem parseGga_sameBuffer : r.SameBuffer (parseGga env tzer r) :=
  ((nmeaReaderUpdateTime_step r env.now _).sameBuffer.trans
    (nmeaReaderUpdateLatlong_step _ _ _ _ _).sameBuffer).trans (nmeaReaderUpdateNumber_sameBuffer _ _ _ _)

private theorem parseRmc_sameBuffer : r.SameBuffer (parseRmc env tzer r) := by
  rw [parseRmc]
  split
  · exact (((nmeaReaderUpdateDate_step r env.now _ _).sameBuffer.trans
      (nmeaReaderUpdateLatlong_step _ _ _ _ _).sameBuffer).trans
      (nmeaReaderUpdateNumber_sameBuffer _ _ _ _)).trans (nmeaReaderUpdateNumber_sameBuffer _ _ _ _)
  · exact .refl r

private theorem parseAccuracy_sameBuffer : r.SameBuffer (parseAccuracy tzer r) := by
  rw [parseAccuracy]
  split
  · exact nmeaReaderUpdateNumber_sameBuffer _ _ _ _
  · exact .refl r

private theorem parseGsaGps_sameBuffer : r.SameBuffer (parseGsaGps tzer r) := by
  simp only [parseGsaGps]
  split <;> exact ⟨rfl, rfl, rfl⟩

private theorem nmeaReaderUpdateSvStatusGnss_sameBuffer (used : SvUsedInFix) (prn : Int)
    (elevation azimuth snr : Token) :
    r.SameBuffer (nmeaReaderUpdateSvStatusGnss used r prn elevation azimuth snr) := by
  simp only [nmeaReaderUpdateSvStatusGnss]
  split_ifs <;> exact ⟨rfl, rfl, rfl⟩

private theorem nmeaReaderUpdateSvStatusGps_sameBuffer (prn : Int) (elevation azimuth snr : Token) :
    r.SameBuffer (nmeaReaderUpdateSvStatusGps r prn elevation azimuth snr) := by
  simp only [nmeaReaderUpdateSvStatusGps]
  split_ifs <;> exact ⟨rfl, rfl, rfl⟩

private theorem gsvStart_sameBuffer (seq : Int) : r.SameBuffer (gsvStart seq r) := by
  rw [gsvStart]
  split <;> exact ⟨rfl, rfl, rfl⟩

private theorem parseGsv_sameBuffer (used : SvUsedInFix) :
    r.SameBuffer (parseGsv tzer bds used r) := by
  have close (num seq cnt : Int) (r : NmeaReader pf) : r.SameBuffer (gsvClose num seq cnt r) := by
    rw [gsvClose]
    split_ifs <;> exact ⟨rfl, rfl, rfl⟩
  exact ((gsvStart_sameBuffer r _).trans (.foldl _ _
    (fun r idx => nmeaReaderUpdateSvStatusGnss_sameBuffer r used _ _ _ _) _)).trans (close _ _ _ _)

private theorem parseGsvGps_sameBuffer : r.SameBuffer (parseGsvGps tzer bds r) := by
  have close (num seq cnt : Int) (r : NmeaReader pf) :
      r.SameBuffer (gsvCloseGps num seq cnt r) := by
    rw [gsvCloseGps]
    split_ifs <;> exact ⟨rfl, rfl, rfl⟩
  exact ((gsvStart_sameBuffer r _).trans (.foldl _ _
    (fun r idx => nmeaReaderUpdateSvStatusGps_sameBuffer r _ _ _ _) _)).trans (close _ _ _ _)

variable {r env} (s : NmeaState pf)

private theorem nmeaReaderDispatch_sameBuffer (tok : Token) :
    s.reader.SameBuffer (nmeaReaderDispatch env tzer tok s).reader := by
  have gsa :
      s.reader.SameBuffer (parseGsa tzer (memEq tok.mem tok.p (lit ['B', 'D'])) s).reader := by
    obtain ⟨used, changed⟩ := parseGsa_frame tzer (memEq tok.mem tok.p (lit ['B', 'D'])) s
    rw [changed]
    exact ⟨rfl, rfl, rfl⟩
  simp only [nmeaReaderDispatch]
  split_ifs
  · exact parseGga_sameBuffer _ tzer env
  · exact gsa
  · exact parseGsaGps_sameBuffer _ tzer
  · exact parseRmc_sameBuffer _ tzer env
  · exact parseGsv_sameBuffer _ tzer _ _
  · exact parseGsvGps_sameBuffer _ tzer _
  · exact parseAccuracy_sameBuffer _ tzer
  · exact .refl _

theorem nmeaReaderReport_sameBuffer : s.reader.SameBuffer (nmeaReaderReport env s).1.reader := by
  obtain ⟨flags, count, gnss, gps, used, changed, -⟩ := nmeaReaderReport_frame env s
  rw [changed]
  exact ⟨rfl, rfl, rfl⟩

/-- The parser leaves the buffer, its position and the overflow mark alone. -/
theorem nmeaReaderParse_sameBuffer (env : ParseEnv) :
    s.reader.SameBuffer (nmeaReaderParse env s).1.reader := by
  simp only [nmeaReaderParse]
  split_ifs
  · exact .refl _
  · exact .refl _
  · exact (nmeaReaderDispatch_sameBuffer _ s _).trans (nmeaReaderReport_sameBuffer _)

end Frame

section Handover

/-- A sentence leaves the assembler twice: to the parser, then to `nmea_cb`. -/
inductive Handover where
  | parse (sentence : List Byte)
  | nmea (sentence : List Byte)
deriving DecidableEq, Repr

def Call.handover : Call pf → Option Handover
  | .parse sentence => some (.parse sentence)
  | .nmea _ sentence => some (.nmea sentence)
  | _ => none

/-- The sentences among a sequence of calls, in order. -/
def handovers (calls : List (Call pf)) : List Handover := calls.filterMap Call.handover

/-- The hand-overs of whole lines. -/
def handoversOf (lines : List (List Byte)) : List Handover :=
  lines.flatMap fun line => [.parse line, .nmea line]

theorem handovers_append (first second : List (Call pf)) :
    handovers (first ++ second) = handovers first ++ handovers second :=
  filterMap_append

theorem nmeaReaderReport_handovers (env : ParseEnv) (s : NmeaState pf) :
    handovers (nmeaReaderReport env s).2 = [] := by
  obtain ⟨_, _, _, _, _, -, calls⟩ := nmeaReaderReport_frame env s
  apply filterMap_eq_nil_iff.mpr
  intro c member
  cases c with
  | parse sentence => exact (calls _ member).elim False.elim False.elim
  | nmea timestamp sentence => exact (calls _ member).elim False.elim False.elim
  | _ => rfl

/-- The parser itself hands no sentence on. -/
theorem nmeaReaderParse_handovers (env : ParseEnv) (s : NmeaState pf) :
    handovers (nmeaReaderParse env s).2 = [] := by
  simp only [nmeaReaderParse]
  split_ifs
  · rfl
  · rfl
  · exact nmeaReaderReport_handovers env _

end Handover

section Bytes

theorem NmeaReader.line_push {r : NmeaReader pf} (room : r.pos < nmeaMaxSize) (c : Byte) :
    (r.push c).line = r.line ++ [c] := by
  have present : r.pos < r.inBuf.toList.length := by
    rw [Vector.length_toList]
    omega
  have stored : (r.push c).inBuf.toList = r.inBuf.toList.set r.pos c := by
    simp only [NmeaReader.push, Vector.toList_setIfInBounds]
  rw [NmeaReader.line, stored, NmeaReader.line]
  change take (r.pos + 1) (r.inBuf.toList.set r.pos c) = _
  rw [take_add_one, take_set_of_le (le_refl r.pos), getElem?_set_self present]
  rfl

theorem NmeaReader.holdsLine_push {r : NmeaReader pf} (room : r.pos < nmeaMaxSize) :
    (r.push lf).HoldsLine := by
  refine ⟨Nat.succ_pos _, room, ?_⟩
  change byteAt (r.inBuf.setIfInBounds r.pos lf).toList r.pos = lf
  have present : r.pos < r.inBuf.toList.length := by
    rw [Vector.length_toList]
    omega
  rw [Vector.toList_setIfInBounds, byteAt, getD_eq_getElem?_getD, getElem?_set_self present]
  rfl

/-- What one byte does: it is skipped or stored, or it completes a line that goes to the parser. -/
theorem nmeaReaderAddc_cases (env : ParseEnv) (s : NmeaState pf) (c : Byte) :
    (s.reader.overflow = true ∧
      nmeaReaderAddc env s c = ({ s with reader := { s.reader with overflow := c ≠ lf } }, [])) ∨
    (s.reader.overflow = false ∧ nmeaMaxSize ≤ s.reader.pos ∧
      nmeaReaderAddc env s c = ({ s with reader := { s.reader with overflow := true, pos := 0 } }, [])) ∨
    (s.reader.overflow = false ∧ s.reader.pos < nmeaMaxSize ∧ c ≠ lf ∧
      nmeaReaderAddc env s c = ({ s with reader := s.reader.push c }, [])) ∨
    (s.reader.overflow = false ∧ s.reader.pos < nmeaMaxSize ∧ c = lf ∧ ∃ parsed calls,
      nmeaReaderParse env { s with reader := s.reader.push lf } = (parsed, calls) ∧
      nmeaReaderAddc env s c = ({ parsed with reader := { parsed.reader with pos := 0 } },
        .parse (s.reader.push lf).line :: calls ++ [.nmea parsed.reader.fix.timestamp (s.reader.push lf).line])) := by
  unfold nmeaReaderAddc
  cases skipping : s.reader.overflow with
  | true => exact .inl ⟨rfl, if_pos skipping⟩
  | false =>
    right
    dsimp only
    rw [if_neg (Bool.eq_false_iff.mp skipping)]
    rcases Nat.lt_or_ge s.reader.pos nmeaMaxSize with room | full
    · right
      rw [if_neg (not_le.mpr room)]
      by_cases ended : c = lf
      · right
        subst ended
        have same : (nmeaReaderParse env { s with reader := s.reader.push lf }).1.reader.line =
            (s.reader.push lf).line := (nmeaReaderParse_sameBuffer _ env).line_eq
        rw [if_pos rfl]
        refine ⟨rfl, room, rfl, _, _, rfl, ?_⟩
        rw [← same]
        rfl
      · exact .inl ⟨rfl, room, ended, if_neg ended⟩
    · exact .inl ⟨rfl, full, if_pos full⟩

/-- The byte ends the line in the buffer, and the line goes to the parser. -/
def NmeaReader.Completes (r : NmeaReader pf) (c : Byte) : Prop := r.overflow = false ∧ r.pos < nmeaMaxSize ∧ c = lf

/-- With registered callbacks, a byte moves the assembler alone, or ends a line: the line's effect
follows, and after it the reports unless the line is ignored. -/
theorem nmeaReaderAddc_registered {env : ParseEnv}
    (registered : env.callbacksSize = pf.sizeofGpsCallbacksMtk) (s : NmeaState pf) (c : Byte) :
    (¬ s.reader.Completes c ∧ ∃ pos overflow inBuf, nmeaReaderAddc env s c =
      ({ s with reader := { s.reader with pos := pos, overflow := overflow, inBuf := inBuf } }, [])) ∨
    (s.reader.Completes c ∧ (s.reader.push lf).HoldsLine ∧ (s.reader.push lf).line = s.reader.line ++ [lf] ∧
      ∃ parsed calls, parsed = (if sentenceKind (s.reader.line ++ [lf]) = .ignored then
          ({ s with reader := s.reader.push lf }, []) else
          nmeaReaderReport env (sentenceEffect env { s with reader := s.reader.push lf })) ∧
        calls = .parse (s.reader.line ++ [lf]) :: parsed.2 ++
          [.nmea parsed.1.reader.fix.timestamp (s.reader.line ++ [lf])] ∧
        nmeaReaderAddc env s c = ({ parsed.1 with reader := { parsed.1.reader with pos := 0 } }, calls)) := by
  obtain ⟨skips, added⟩ | ⟨fills, full, added⟩ | ⟨fills, room, inside, added⟩ |
      ⟨fills, room, rfl, parsed, calls, ran, added⟩ := nmeaReaderAddc_cases env s c
  · exact .inl ⟨fun ends => absurd skips (Bool.eq_false_iff.mp ends.1), _, _, _, added⟩
  · exact .inl ⟨fun ends => absurd full (not_le.mpr ends.2.1), _, _, _, added⟩
  · exact .inl ⟨fun ends => inside ends.2.2, _, _, _, added⟩
  · have line := NmeaReader.line_push room lf
    have holds := NmeaReader.holdsLine_push room
    have parse := nmeaReaderParse_eq (s := { s with reader := s.reader.push lf }) registered holds
    dsimp only at parse
    rw [line] at parse added
    rw [ran] at parse
    exact .inr ⟨⟨fills, room, rfl⟩, holds, line, (parsed, calls), _, parse, rfl, added⟩

end Bytes

section Stream

/-- One byte as the reader sees it: with the surroundings of its parser and the end tag of its read. -/
structure NmeaInput where
  env : ParseEnv
  endTag : Bool
  byte : Byte

/-- Feed bytes one at a time, collecting the calls. -/
def nmeaReaderFeed (s : NmeaState pf) (inputs : List NmeaInput) (mtkSize : Nat := pf.sizeofGpsCallbacksMtk) :
    NmeaState pf × List (Call pf) :=
  match inputs with
  | [] => (s, [])
  | input :: rest =>
      let added := nmeaReaderAddc input.env { s with gpsNmeaEndTag := input.endTag } input.byte mtkSize
      let fed := nmeaReaderFeed added.1 rest mtkSize
      (fed.1, added.2 ++ fed.2)

theorem nmeaReaderFeed_append {mtkSize : Nat} (s : NmeaState pf) (first second : List NmeaInput) :
    nmeaReaderFeed s (first ++ second) mtkSize =
      ((nmeaReaderFeed (nmeaReaderFeed s first mtkSize).1 second mtkSize).1,
        (nmeaReaderFeed s first mtkSize).2 ++ (nmeaReaderFeed (nmeaReaderFeed s first mtkSize).1 second mtkSize).2) := by
  induction first generalizing s with
  | nil => rfl
  | cons input rest ih => simp only [cons_append, nmeaReaderFeed, ih, append_assoc]

/-- The two modes of the assembler. -/
inductive Assembler where
  | filling (text : List Byte)
  | skipping
deriving DecidableEq, Repr

/-- One byte of the abstract assembler: the next mode and the finished line. -/
def Assembler.add : Assembler → Byte → Assembler × List (List Byte)
  | .skipping, c => (if c = lf then .filling [] else .skipping, [])
  | .filling text, c =>
      if text.length < nmeaMaxSize then
        if c = lf then (.filling [], [text ++ [c]]) else (.filling (text ++ [c]), [])
      else (.skipping, [])

def Assembler.feed : Assembler → List Byte → Assembler × List (List Byte)
  | mode, [] => (mode, [])
  | mode, c :: rest => ((feed (mode.add c).1 rest).1, (mode.add c).2 ++ (feed (mode.add c).1 rest).2)

/-- The reader is in this mode of the assembler. -/
def NmeaReader.InMode (r : NmeaReader pf) : Assembler → Prop
  | .filling text => r.overflow = false ∧ r.pos = text.length ∧ r.pos ≤ nmeaMaxSize ∧ r.line = text
  | .skipping => r.overflow = true ∧ r.pos = 0

theorem nmeaReaderInit_inMode : (nmeaReaderInit pf).InMode (.filling []) :=
  ⟨rfl, rfl, Nat.zero_le _, rfl⟩

/-- Each byte is one step of the abstract assembler, and its finished line is handed over. -/
theorem nmeaReaderAddc_assembler (env : ParseEnv) {s : NmeaState pf} {mode : Assembler}
    (inMode : s.reader.InMode mode) (c : Byte) :
    (nmeaReaderAddc env s c).1.reader.InMode (mode.add c).1 ∧
      handovers (nmeaReaderAddc env s c).2 = handoversOf (mode.add c).2 := by
  obtain ⟨skips, added⟩ | ⟨fills, full, added⟩ | ⟨fills, room, inside, added⟩ |
      ⟨fills, room, rfl, parsed, calls, ran, added⟩ := nmeaReaderAddc_cases env s c <;> rw [added]
  · cases mode with
    | filling text => exact absurd skips (Bool.eq_false_iff.mp inMode.1)
    | skipping =>
      refine ⟨?_, rfl⟩
      by_cases ended : c = lf
      · simp only [Assembler.add, ended, ne_eq, not_true_eq_false, decide_false]
        exact ⟨rfl, inMode.2, inMode.2 ▸ Nat.zero_le _, by rw [NmeaReader.line, inMode.2]; rfl⟩
      · simp only [Assembler.add, ended, ne_eq, not_false_eq_true, decide_true]
        exact ⟨rfl, inMode.2⟩
  · cases mode with
    | skipping => exact absurd inMode.1 (Bool.eq_false_iff.mp fills)
    | filling text =>
      have long : ¬ text.length < nmeaMaxSize := by rw [← inMode.2.1]; exact not_lt.mpr full
      simp only [Assembler.add, if_neg long]
      exact ⟨⟨rfl, rfl⟩, rfl⟩
  · cases mode with
    | skipping => exact absurd inMode.1 (Bool.eq_false_iff.mp fills)
    | filling text =>
      have short : text.length < nmeaMaxSize := inMode.2.1 ▸ room
      simp only [Assembler.add, if_pos short, if_neg inside]
      refine ⟨⟨fills, ?_, room, ?_⟩, rfl⟩
      · rw [length_append, ← inMode.2.1]; rfl
      · rw [NmeaReader.line_push room, inMode.2.2.2]
  · cases mode with
    | skipping => exact absurd inMode.1 (Bool.eq_false_iff.mp fills)
    | filling text =>
      have short : text.length < nmeaMaxSize := inMode.2.1 ▸ room
      have same := nmeaReaderParse_sameBuffer { s with reader := s.reader.push lf } env
      have quiet := nmeaReaderParse_handovers env { s with reader := s.reader.push lf }
      rw [ran] at same quiet
      simp only [Assembler.add, if_pos short, ↓reduceIte]
      refine ⟨⟨same.overflow.trans fills, rfl, Nat.zero_le _, rfl⟩, ?_⟩
      rw [NmeaReader.line_push room, inMode.2.2.2, ← singleton_append, handovers_append,
        handovers_append, quiet]
      rfl

/-- A whole stream, fed to reader and assembler from the same mode. -/
theorem nmeaReaderFeed_assembler (inputs : List NmeaInput) {s : NmeaState pf} {mode : Assembler}
    (inMode : s.reader.InMode mode) :
    handovers (nmeaReaderFeed s inputs).2 =
      handoversOf (mode.feed (inputs.map NmeaInput.byte)).2 := by
  induction inputs generalizing s mode with
  | nil => rfl
  | cons input rest ih =>
    obtain ⟨next, out⟩ := nmeaReaderAddc_assembler input.env
      (s := { s with gpsNmeaEndTag := input.endTag }) inMode input.byte
    simp only [nmeaReaderFeed, handovers_append, out, ih next, map_cons, Assembler.feed,
      handoversOf, flatMap_append]

end Stream

section Delivery

namespace Assembler

theorem feed_append (mode : Assembler) (first second : List Byte) :
    mode.feed (first ++ second) =
      (((mode.feed first).1.feed second).1, (mode.feed first).2 ++ ((mode.feed first).1.feed second).2) := by
  induction first generalizing mode with
  | nil => rfl
  | cons c rest ih => simp only [cons_append, feed, ih, append_assoc]

theorem feed_skipping {body : List Byte} (fresh : lf ∉ body) :
    skipping.feed body = (.skipping, []) := by
  induction body with
  | nil => rfl
  | cons c rest ih =>
    obtain ⟨other, fresh⟩ := not_or.mp (mem_cons.not.mp fresh)
    simp only [feed, add, if_neg (Ne.symm other), ih fresh, nil_append]

theorem feed_filling {text body : List Byte} (fresh : lf ∉ body)
    (fits : text.length ≤ nmeaMaxSize) :
    (filling text).feed body =
      (if text.length + body.length ≤ nmeaMaxSize then .filling (text ++ body) else .skipping, []) := by
  induction body generalizing text with
  | nil => simp only [feed, length_nil, Nat.add_zero, if_pos fits, append_nil]
  | cons c rest ih =>
    obtain ⟨other, fresh⟩ := not_or.mp (mem_cons.not.mp fresh)
    rcases Nat.lt_or_ge text.length nmeaMaxSize with room | full
    · have longer : (text ++ [c]).length ≤ nmeaMaxSize := by rwa [length_append, length_singleton]
      simp only [feed, add, if_pos room, if_neg (Ne.symm other), ih fresh longer, length_append,
        length_cons, length_nil, Nat.zero_add, Nat.add_assoc, Nat.add_comm 1, append_assoc,
        singleton_append, nil_append]
    · have tooLong :
          ¬ text.length + (c :: rest).length ≤ nmeaMaxSize := by simp only [length_cons]; omega
      simp only [feed, add, if_neg (not_lt.mpr full), feed_skipping fresh,
        if_neg tooLong, nil_append]

/-- The mode at the start of a line. -/
def atLine (skip : Bool) : Assembler := if skip then .skipping else .filling []

/-- A line of 129 bytes ends on the byte that starts the skip, which then covers the next line. -/
theorem feed_line {line : List Byte} (isLine : IsLine lf line) (skip : Bool) :
    (atLine skip).feed line =
      (atLine (!skip && line.length == nmeaMaxSize + 1),
        if skip = false ∧ line.length ≤ nmeaMaxSize then [line] else []) := by
  obtain ⟨body, rfl, fresh⟩ := isLine
  rw [feed_append]
  cases skip with
  | true => simp [atLine, feed_skipping fresh, feed, add]
  | false =>
    have filled :=
      feed_filling fresh (show ([] : List Byte).length ≤ nmeaMaxSize from Nat.zero_le _)
    rw [length_nil, Nat.zero_add, nil_append] at filled
    simp only [atLine, Bool.false_eq_true, ↓reduceIte, filled, length_append,
      length_singleton, feed, nil_append, append_nil, Bool.not_false, Bool.true_and, true_and]
    rcases Nat.lt_trichotomy body.length nmeaMaxSize with short | exact_ | long
    · have notFull : ¬ body.length + 1 = nmeaMaxSize + 1 := by omega
      simp only [if_pos short.le, add, if_pos short, ↓reduceIte, Nat.succ_le_of_lt short,
        beq_iff_eq, if_neg notFull]
    · simp [exact_, add]
    · have notFull : ¬ body.length + 1 = nmeaMaxSize + 1 := by omega
      simp only [if_neg (not_le.mpr long), add, ↓reduceIte, beq_iff_eq, if_neg notFull,
        if_neg (show ¬ body.length + 1 ≤ nmeaMaxSize by omega)]

end Assembler

/-- The lines that reach the parser; `skip` says that the first one is being skipped. -/
def linesDelivered : Bool → List (List Byte) → List (List Byte)
  | _, [] => []
  | skip, line :: rest =>
      (if skip = false ∧ line.length ≤ nmeaMaxSize then [line] else []) ++
        linesDelivered (!skip && line.length == nmeaMaxSize + 1) rest

theorem Assembler.feed_lines (lines : List (List Byte)) (each : ∀ line ∈ lines, IsLine lf line)
    (skip : Bool) {rest : List Byte} (fresh : lf ∉ rest) :
    ((atLine skip).feed (lines.flatten ++ rest)).2 = linesDelivered skip lines := by
  induction lines generalizing skip with
  | nil =>
    cases skip with
    | true => simp [atLine, feed_skipping fresh, linesDelivered]
    | false => simp [atLine, feed_filling fresh, linesDelivered]
  | cons line lines ih =>
    rw [flatten_cons, append_assoc, feed_append, feed_line (each line mem_cons_self),
      linesDelivered, ih (fun other member => each other (mem_cons_of_mem _ member))]

/-- What a fresh reader hands over, in terms of the lines of its stream. -/
theorem nmeaReaderFeed_handovers (inputs : List NmeaInput) {s : NmeaState pf}
    (fresh : s.reader = nmeaReaderInit pf) :
    handovers (nmeaReaderFeed s inputs).2 =
      handoversOf (linesDelivered false (terminated lf (inputs.map NmeaInput.byte))) := by
  have inMode : s.reader.InMode (.filling []) := fresh ▸ nmeaReaderInit_inMode
  rw [nmeaReaderFeed_assembler inputs inMode]
  have delivered := Assembler.feed_lines (terminated lf (inputs.map NmeaInput.byte))
    (fun line member => terminated_isLine member) false (unterminated_not_mem (inputs.map NmeaInput.byte))
  rw [flatten_terminated_append] at delivered
  exact congrArg handoversOf delivered

/-- The lines that fit. -/
def linesFitting (lines : List (List Byte)) : List (List Byte) := lines.filter (·.length ≤ nmeaMaxSize)

/-- The number of 129-byte lines directly before a position. -/
def overfullRun (before : List (List Byte)) : Nat := (before.rtakeWhile (·.length == nmeaMaxSize + 1)).length

/-- No line that fits comes right after an odd run of 129-byte lines. -/
def NoneSwallowed (lines : List (List Byte)) : Prop :=
  ∀ before line after, lines = before ++ line :: after → line.length ≤ nmeaMaxSize → Even (overfullRun before)

theorem linesDelivered_sublist (skip : Bool) (lines : List (List Byte)) :
    linesDelivered skip lines <+ linesFitting lines := by
  induction lines generalizing skip with
  | nil => exact Sublist.slnil
  | cons line rest ih =>
    have tail := ih (!skip && line.length == nmeaMaxSize + 1)
    simp only [linesDelivered, linesFitting, filter_cons, decide_eq_true_eq] at tail ⊢
    split_ifs with both fits fits
    · exact tail.cons_cons line
    · exact absurd both.2 fits
    · exact tail.cons line
    · exact tail

theorem overfullRun_concat (before : List (List Byte)) (line : List Byte) :
    overfullRun (before ++ [line]) =
      if line.length = nmeaMaxSize + 1 then overfullRun before + 1 else 0 := by
  rw [overfullRun, rtakeWhile_concat]
  simp only [beq_iff_eq, overfullRun]
  split <;> simp

private theorem linesDelivered_iff (before rest : List (List Byte)) :
    linesDelivered (decide (Odd (overfullRun before))) rest = linesFitting rest ↔
      ∀ more line after, rest = more ++ line :: after → line.length ≤ nmeaMaxSize →
        Even (overfullRun (before ++ more)) := by
  induction rest generalizing before with
  | nil => simp [linesDelivered, linesFitting]
  | cons line rest ih =>
    -- Extending `before` by this line moves the skip mark exactly as the assembler does.
    have carried : (!decide (Odd (overfullRun before)) && line.length == nmeaMaxSize + 1) =
        decide (Odd (overfullRun (before ++ [line]))) := by
      rw [overfullRun_concat]
      split_ifs with overfull <;> simp [overfull, Nat.odd_add_one, ← Nat.not_even_iff_odd]
    have later :
        (∀ more other after, line :: rest = more ++ other :: after → other.length ≤ nmeaMaxSize →
        Even (overfullRun (before ++ more))) ↔
        (line.length ≤ nmeaMaxSize → Even (overfullRun before)) ∧
        ∀ more other after, rest = more ++ other :: after → other.length ≤ nmeaMaxSize →
          Even (overfullRun (before ++ [line] ++ more)) := by
      constructor
      · intro all
        refine ⟨fun fits => by simpa using all [] line rest rfl fits, fun more other after split fits => ?_⟩
        simpa using all (line :: more) other after (by rw [split]; rfl) fits
      · rintro ⟨here, there⟩ more other after split fits
        cases more with
        | nil =>
          obtain ⟨rfl, -⟩ := cons.inj split
          simpa using here fits
        | cons first more =>
          obtain ⟨rfl, tail⟩ := cons.inj split
          simpa using there more other after tail fits
    rw [later, ← ih (before ++ [line]), ← carried, linesDelivered]
    by_cases fits : line.length ≤ nmeaMaxSize
    · by_cases swallowed : Odd (overfullRun before)
      · -- A swallowed line that fits leaves fewer lines than there should be.
        have short :=
          (linesDelivered_sublist (!decide (Odd (overfullRun before)) && line.length == nmeaMaxSize + 1)
          rest).length_le
        constructor
        · intro equal
          have size := congrArg length equal
          simp only [swallowed, decide_true, Bool.true_eq_false, false_and, ↓reduceIte, nil_append,
            linesFitting, filter_cons, fits, length_cons, Bool.not_true,
            Bool.false_and] at size short
          omega
        · rintro ⟨here, -⟩
          exact absurd (here fits) (Nat.not_even_iff_odd.mpr swallowed)
      · have even := Nat.not_odd_iff_even.mp swallowed
        simp [swallowed, fits, linesFitting, even]
    · simp [fits, linesFitting]

theorem linesDelivered_eq_iff (lines : List (List Byte)) :
    linesDelivered false lines = linesFitting lines ↔ NoneSwallowed lines := by
  have start := linesDelivered_iff [] lines
  simpa [overfullRun, NoneSwallowed] using start

theorem handoversOf_injective : Function.Injective handoversOf := by
  intro first second
  induction first generalizing second with
  | nil => cases second with
    | nil => exact fun _ => rfl
    | cons line rest => exact nofun
  | cons line rest ih => cases second with
    | nil => exact nofun
    | cons other others =>
      intro equal
      obtain ⟨⟨rfl⟩, -, equal⟩ :
        Handover.parse line = .parse other ∧ Handover.nmea line = .nmea other ∧
          handoversOf rest = handoversOf others := by simpa [handoversOf] using equal
      rw [ih equal]

variable (used : SvUsedInFix) (tag : Bool) (inputs : List NmeaInput)

/-- A fresh reader hands over exactly the lines that fit, each to the parser and then to `nmea_cb`, if
and only if none of them is swallowed by an overfull line before it. -/
theorem nmeaReaderFeed_delivers_iff :
    handovers (nmeaReaderFeed ⟨nmeaReaderInit pf, used, tag⟩ inputs).2 =
        handoversOf (linesFitting (terminated lf (inputs.map NmeaInput.byte))) ↔
      NoneSwallowed (terminated lf (inputs.map NmeaInput.byte)) := by
  rw [nmeaReaderFeed_handovers inputs rfl, handoversOf_injective.eq_iff, linesDelivered_eq_iff]

/-- 128 bytes and a newline, then a sentence that fits. -/
def overfullThenGsa : List Byte :=
  replicate 128 digit0 ++ [lf] ++ lit ['$', 'G', 'P', 'G', 'S', 'A', ',', 'A', ',', '1'] ++ [lf]

theorem nmeaReaderFeed_swallows_gsa :
    handovers (nmeaReaderFeed ⟨nmeaReaderInit (Platform.utc 64 (by decide)), fun _ => false, false⟩
        (overfullThenGsa.map fun c => ⟨⟨72, true, 0, []⟩, false, c⟩)).2 ≠
      handoversOf (linesFitting (terminated lf overfullThenGsa)) := by
  rw [nmeaReaderFeed_handovers _ rfl, map_map]
  decide +kernel

end Delivery

end Mt6582.Gps

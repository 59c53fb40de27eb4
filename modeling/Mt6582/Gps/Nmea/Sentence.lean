import Mt6582.Gps.Nmea.Fields
import Mt6582.Gps.Nmea.Parse

/-! # What one sentence does to the reader

The effect of `nmea_reader_parse` in terms of the sentence's fields: which branch takes it, which
flags of the fix it supplies, and which parts of the reader each branch can touch. Later proofs use
these statements and do not unfold the branches. The callbacks are those `mtk_gps_init` accepts, so
`callback_backup_mtk.base.size` is `sizeof(GpsCallbacks_mtk)`.
-/

namespace Mt6582.Gps

variable {F : Type} {pf : Platform F}

/-- The branch of `nmea_reader_parse` that a sentence takes; `ignored` returns before the reports. -/
inductive SentenceKind where
  | ignored | gga | gsa | rmc | gsv | accuracy | other
deriving DecidableEq, Repr

def sentenceKind (line : List Byte) : SentenceKind :=
  let id := field line 0
  if line.length < 9 ∨ id.length < 5 then .ignored
  else if lit ['G', 'G', 'A'] <+: id.drop 2 then .gga
  else if lit ['G', 'P', 'G', 'S', 'A'] <+: id ∨ lit ['B', 'D', 'G', 'S', 'A'] <+: id ∨
      lit ['G', 'L', 'G', 'S', 'A'] <+: id then .gsa
  else if lit ['R', 'M', 'C'] <+: id.drop 2 then .rmc
  else if lit ['G', 'S', 'V'] <+: id.drop 2 then .gsv
  else if lit ['A', 'C', 'C', 'U', 'R', 'A', 'C', 'Y'] <+: id.drop 2 then .accuracy
  else .other

/-- The talker is BeiDou. -/
def isBds (line : List Byte) : Prop := lit ['B', 'D'] <+: field line 0

instance (line : List Byte) : Decidable (isBds line) := inferInstanceAs (Decidable (_ <+: _))

/-- An RMC sentence with status A. -/
def isActiveRmc (line : List Byte) : Prop :=
  sentenceKind line = .rmc ∧ (field line 2).head? = some 'A'.toUInt8

instance (line : List Byte) : Decidable (isActiveRmc line) := inferInstanceAs (Decidable (_ ∧ _))

/-- The sentence supplies the data of a flag; `fixed` says whether the fix mode is 2 or 3. -/
def Supplies (line : List Byte) (fixed : Prop) : LocationFlag → Prop
  | .latLong =>
      (sentenceKind line = .gga ∧ 6 ≤ (field line 2).length ∧ 6 ≤ (field line 4).length) ∨
      (isActiveRmc line ∧ 6 ≤ (field line 3).length ∧ 6 ≤ (field line 5).length)
  | .altitude => sentenceKind line = .gga ∧ field line 9 ≠ []
  | .bearing => isActiveRmc line ∧ field line 8 ≠ []
  | .speed => isActiveRmc line ∧ field line 7 ≠ []
  | .accuracy => sentenceKind line = .accuracy ∧ fixed ∧ field line 1 ≠ []

/-- The buffer holds a line: `in[0..pos)` ends in a newline. -/
structure NmeaReader.HoldsLine (r : NmeaReader pf) : Prop where
  nonempty : 0 < r.pos
  bound : r.pos ≤ nmeaMaxSize
  ended : byteAt r.inBuf.toList (r.pos - 1) = lf

/-- The tokens of the line in the buffer. -/
def NmeaReader.tokens (r : NmeaReader pf) : List Token := nmeaTokenizerInit r.inBuf.toList 0 r.pos

section Tokens

variable {r : NmeaReader pf}

theorem NmeaReader.HoldsLine.inBounds (holds : r.HoldsLine) : r.pos ≤ r.inBuf.toList.length := by
  have := holds.bound
  simp only [Vector.length_toList]
  omega

theorem NmeaReader.HoldsLine.length_line (holds : r.HoldsLine) : r.line.length = r.pos := by
  have := holds.inBounds
  simp only [NmeaReader.line, List.length_take]
  omega

theorem NmeaReader.HoldsLine.good (holds : r.HoldsLine) (i : Nat) :
    (nmeaTokenizerGet r.tokens i).Good :=
  nmeaTokenizerGet_good holds.inBounds holds.nonempty holds.ended i

theorem NmeaReader.HoldsLine.text (holds : r.HoldsLine) (i : Nat) :
    (nmeaTokenizerGet r.tokens i).text = field r.line i :=
  nmeaTokenizerGet_text holds.inBounds i

theorem NmeaReader.HoldsLine.int (holds : r.HoldsLine) (i : Nat) :
    (nmeaTokenizerGet r.tokens i).int = strToInt (field r.line i) := by
  rw [(holds.good i).int_eq, holds.text]

theorem NmeaReader.HoldsLine.float (holds : r.HoldsLine) (i : Nat) :
    (nmeaTokenizerGet r.tokens i).float pf = strToFloat pf (field r.line i) := by
  rw [(holds.good i).float_eq, holds.text]

theorem NmeaReader.HoldsLine.empty_iff (holds : r.HoldsLine) (i : Nat) :
    (nmeaTokenizerGet r.tokens i).fin ≤ (nmeaTokenizerGet r.tokens i).p ↔ field r.line i = [] := by
  rw [← holds.text, ← List.length_eq_zero_iff, (holds.good i).length_eq]
  omega

theorem NmeaReader.HoldsLine.same_iff (holds : r.HoldsLine) (i : Nat) :
    (nmeaTokenizerGet r.tokens i).p = (nmeaTokenizerGet r.tokens i).fin ↔ field r.line i = [] := by
  rw [← holds.empty_iff]
  have := (holds.good i).order
  omega

theorem NmeaReader.HoldsLine.short_iff (holds : r.HoldsLine) (i n : Nat) :
    (nmeaTokenizerGet r.tokens i).fin < (nmeaTokenizerGet r.tokens i).p + n ↔
      (field r.line i).length < n := by
  rw [← holds.text, (holds.good i).length_eq]
  have := (holds.good i).order
  omega

theorem NmeaReader.HoldsLine.first_iff (holds : r.HoldsLine) (i : Nat) {c : Byte}
    (plain : c ∉ [0, comma, star, cr, lf]) :
    (nmeaTokenizerGet r.tokens i).first = c ↔ (field r.line i).head? = some c := by
  rw [(holds.good i).first_eq_iff plain, holds.text]

theorem NmeaReader.HoldsLine.memEq_iff (holds : r.HoldsLine) {skip : Nat}
    (inside : skip ≤ (field r.line 0).length) (word : List Byte)
    (plain : ∀ c ∈ word, c ∉ [0, comma, star, cr, lf]) :
    memEq (nmeaTokenizerGet r.tokens 0).mem ((nmeaTokenizerGet r.tokens 0).p + skip) word = true ↔
      word <+: (field r.line 0).drop skip := by
  rw [(holds.good 0).memEq_iff (by rwa [holds.text]) word plain, holds.text]

end Tokens

/-- The first of `left + 1` consecutive fields, and the others. -/
theorem map_field_succ (line : List Byte) (left idx : Nat) :
    ((List.range (left + 1)).map fun k => field line (idx + k + 3)) =
      field line (idx + 3) :: (List.range left).map fun k => field line (idx + 1 + k + 3) := by
  rw [List.range_succ_eq_map, List.map_cons, List.map_map]
  congr 2
  funext k
  simp only [Function.comp_apply, Nat.succ_eq_add_one]
  congr 1
  omega

section FixStep

/-- An update of the fix and the date alone, which adds exactly the flags in `supplied`. -/
structure FixStep (supplied : LocationFlag → Prop) (r next : NmeaReader pf) : Prop where
  frame : ∃ year mon day fix,
    next = { r with utcYear := year, utcMon := mon, utcDay := day, fix := fix }
  flags : ∀ i, next.fix.flags.getLsbD i = true ↔
    r.fix.flags.getLsbD i = true ∨ ∃ flag, LocationFlag.bit flag = i ∧ supplied flag

namespace FixStep

variable {r middle next : NmeaReader pf} {first second supplied : LocationFlag → Prop}

theorem trans (left : FixStep first r middle) (right : FixStep second middle next) :
    FixStep (fun flag => first flag ∨ second flag) r next := by
  obtain ⟨year, mon, day, fix, rfl⟩ := left.frame
  obtain ⟨year', mon', day', fix', rfl⟩ := right.frame
  refine ⟨⟨year', mon', day', fix', rfl⟩, fun i => ?_⟩
  rw [right.flags, left.flags, or_assoc, ← exists_or]
  simp only [and_or_left]

theorem congr (step : FixStep first r next) (same : ∀ flag, first flag ↔ second flag) :
    FixStep second r next :=
  ⟨step.frame, fun i => by simp only [step.flags, same]⟩

/-- A branch that leaves the fix alone supplies nothing. -/
theorem rfl' (none : ∀ flag, ¬ supplied flag) : FixStep supplied r r :=
  ⟨⟨_, _, _, _, rfl⟩, fun i => by simp [none]⟩

theorem of_flags_eq (year mon day : Int) (fix : GpsLocation F) (same : fix.flags = r.fix.flags)
    (none : ∀ flag, ¬ supplied flag) :
    FixStep supplied r { r with utcYear := year, utcMon := mon, utcDay := day, fix := fix } :=
  ⟨⟨_, _, _, _, rfl⟩, fun i => by simp [same, none]⟩

/-- Setting one flag bit, whatever else happens to the fix. -/
theorem of_setFlag {fix : GpsLocation F} (flag : LocationFlag)
    (same : fix.flags = r.fix.flags ||| flag.mask) (only : ∀ other, supplied other ↔ other = flag) :
    FixStep supplied r { r with fix := fix } := by
  refine ⟨⟨_, _, _, _, rfl⟩, fun i => ?_⟩
  simp only [same, BitVec.getLsbD_or, Bool.or_eq_true, LocationFlag.mask, BitVec.getLsbD_twoPow,
    Bool.and_eq_true, decide_eq_true_eq, only]
  have small : flag.bit < 16 := by cases flag <;> decide
  constructor
  · rintro (old | ⟨-, rfl⟩)
    · exact .inl old
    · exact .inr ⟨flag, rfl, rfl⟩
  · rintro (old | ⟨other, rfl, rfl⟩)
    · exact .inl old
    · exact .inr ⟨small, rfl⟩

theorem has_iff (step : FixStep supplied r next) (flag : LocationFlag) :
    next.fix.has flag = true ↔ r.fix.has flag = true ∨ supplied flag := by
  have injective : ∀ other, LocationFlag.bit other = flag.bit ↔ other = flag := by
    intro other
    cases other <;> cases flag <;> decide
  simp only [GpsLocation.has, step.flags, injective, exists_eq_left]

end FixStep

variable (r : NmeaReader pf) (now : Int)

theorem nmeaReaderUpdateTime_step (tok : Token) :
    FixStep (fun _ => False) r (nmeaReaderUpdateTime r now tok).1 := by
  rw [nmeaReaderUpdateTime]
  split
  · exact .rfl' (fun _ => id)
  · by_cases fresh : r.utcYear < 0
    · simp only [fresh, ↓reduceIte]
      exact .of_flags_eq _ _ _ _ rfl (fun _ => id)
    · simp only [fresh, ↓reduceIte]
      exact .of_flags_eq r.utcYear r.utcMon r.utcDay _ rfl (fun _ => id)

theorem nmeaReaderUpdateDate_step (date time : Token) :
    FixStep (fun _ => False) r (nmeaReaderUpdateDate r now date time).1 := by
  rw [nmeaReaderUpdateDate]
  split
  · exact .rfl' (fun _ => id)
  · dsimp only
    split
    · exact .rfl' (fun _ => id)
    · have dated : FixStep (fun _ => False) r { r with
          utcYear := str2int date.mem (date.p + 4) (date.p + 6) + 2000
          utcMon := str2int date.mem (date.p + 2) (date.p + 4)
          utcDay := str2int date.mem date.p (date.p + 2) } :=
        .of_flags_eq _ _ _ r.fix rfl (fun _ => id)
      exact (dated.trans (nmeaReaderUpdateTime_step _ now time)).congr (by simp)

theorem nmeaReaderUpdateLatlong_step (latitude latitudeHemi longitude longitudeHemi : Token) :
    FixStep (fun flag => flag = .latLong ∧ ¬ latitude.fin < latitude.p + 6 ∧ ¬ longitude.fin < longitude.p + 6)
      r (nmeaReaderUpdateLatlong r latitude latitudeHemi longitude longitudeHemi).1 := by
  rw [nmeaReaderUpdateLatlong]
  split
  · next shortLat => exact .rfl' (fun _ given => given.2.1 shortLat)
  · next shortLat =>
    dsimp only
    split
    · next shortLon => exact .rfl' (fun _ given => given.2.2 shortLon)
    · next shortLon =>
      exact .of_setFlag .latLong rfl
        (fun other => ⟨And.left, fun same => ⟨same, shortLat, shortLon⟩⟩)

theorem nmeaReaderUpdateNumber_step (flag : LocationFlag) (tok : Token)
    (store : GpsLocation F → F → GpsLocation F)
    (keeps : ∀ fix value, (store fix value).flags = fix.flags) :
    FixStep (fun other => other = flag ∧ ¬ tok.fin ≤ tok.p) r (nmeaReaderUpdateNumber r flag tok store).1 := by
  rw [nmeaReaderUpdateNumber]
  split
  · next empty => exact .rfl' (fun _ given => given.2 empty)
  · next filled =>
      exact .of_setFlag flag (keeps _ _) (fun other => ⟨And.left, fun same => ⟨same, filled⟩⟩)

variable {r}

theorem parseGga_step (env : ParseEnv) (holds : r.HoldsLine) (kind : sentenceKind r.line = .gga)
    (fixed : Prop) :
    FixStep (Supplies r.line fixed) r (parseGga env r.tokens r) := by
  have time := nmeaReaderUpdateTime_step r env.now (nmeaTokenizerGet r.tokens 1)
  have place := time.trans (nmeaReaderUpdateLatlong_step _ (nmeaTokenizerGet r.tokens 2)
    (nmeaTokenizerGet r.tokens 3) (nmeaTokenizerGet r.tokens 4) (nmeaTokenizerGet r.tokens 5))
  have height := place.trans (nmeaReaderUpdateNumber_step _ .altitude (nmeaTokenizerGet r.tokens 9)
    (fun fix value => { fix with altitude := value }) (fun _ _ => rfl))
  apply height.congr
  intro flag
  rw [holds.short_iff, holds.short_iff, holds.empty_iff]
  cases flag <;> simp [Supplies, kind, isActiveRmc]

theorem parseRmc_step (env : ParseEnv) (holds : r.HoldsLine) (kind : sentenceKind r.line = .rmc)
    (fixed : Prop) :
    FixStep (Supplies r.line fixed) r (parseRmc env r.tokens r) := by
  have status := holds.first_iff 2 (c := 'A'.toUInt8) (by decide)
  rw [parseRmc]
  by_cases active : (field r.line 2).head? = some 'A'.toUInt8
  · rw [if_pos (status.mpr active)]
    have date :=
      nmeaReaderUpdateDate_step r env.now (nmeaTokenizerGet r.tokens 9) (nmeaTokenizerGet r.tokens 1)
    have place := date.trans (nmeaReaderUpdateLatlong_step _ (nmeaTokenizerGet r.tokens 3)
      (nmeaTokenizerGet r.tokens 4) (nmeaTokenizerGet r.tokens 5) (nmeaTokenizerGet r.tokens 6))
    have bearing :=
      place.trans (nmeaReaderUpdateNumber_step _ .bearing (nmeaTokenizerGet r.tokens 8)
      (fun fix value => { fix with bearing := pf.toSingle value }) (fun _ _ => rfl))
    have speed := bearing.trans (nmeaReaderUpdateNumber_step _ .speed (nmeaTokenizerGet r.tokens 7)
      (fun fix value => { fix with
        speed := pf.toSingle (pf.div value (pf.ofRat (1942795467 / 1000000000))) }) (fun _ _ => rfl))
    apply speed.congr
    intro flag
    rw [holds.short_iff, holds.short_iff, holds.empty_iff, holds.empty_iff]
    cases flag <;> simp [Supplies, kind, isActiveRmc, active]
  · rw [if_neg (status.not.mpr active)]
    apply FixStep.rfl'
    intro flag
    cases flag <;> simp [Supplies, kind, isActiveRmc, active]

theorem parseAccuracy_step (holds : r.HoldsLine) (kind : sentenceKind r.line = .accuracy) :
    FixStep (Supplies r.line (r.locFixed = true)) r (parseAccuracy r.tokens r) := by
  have fixed : (r.fixMode = 3 ∨ r.fixMode = 2) ↔ r.locFixed = true := by
    simp only [NmeaReader.locFixed, Bool.or_eq_true, beq_iff_eq]
    exact or_comm
  rw [parseAccuracy]
  by_cases mode : r.fixMode = 3 ∨ r.fixMode = 2
  · rw [if_pos mode]
    apply (nmeaReaderUpdateNumber_step r .accuracy (nmeaTokenizerGet r.tokens 1)
      (fun fix value => { fix with accuracy := pf.toSingle value }) (fun _ _ => rfl)).congr
    intro flag
    rw [holds.empty_iff]
    cases flag <;> simp [Supplies, kind, isActiveRmc, fixed.mp mode]
  · rw [if_neg mode]
    apply FixStep.rfl'
    intro flag
    cases flag <;> simp [Supplies, kind, isActiveRmc, fixed.not.mp mode]

end FixStep

section Dispatch

/-- The state after the branch of the buffered sentence, before the reports. -/
def sentenceEffect (env : ParseEnv) (s : NmeaState pf) : NmeaState pf :=
  match sentenceKind s.reader.line with
  | .gga => { s with reader := parseGga env s.reader.tokens s.reader }
  | .gsa => parseGsa s.reader.tokens (isBds s.reader.line) s
  | .rmc => { s with reader := parseRmc env s.reader.tokens s.reader }
  | .gsv => { s with reader := parseGsv s.reader.tokens (isBds s.reader.line) s.svUsedInFix s.reader }
  | .accuracy => { s with reader := parseAccuracy s.reader.tokens s.reader }
  | .ignored => s
  | .other => s

section Identifier

variable {r : NmeaReader pf}

/-- The type of a sentence, as the parser compares it. The word is checked with `all`: deciding the quantifier over bytes
would enumerate them. -/
theorem NmeaReader.HoldsLine.type_iff (holds : r.HoldsLine) (long : 5 ≤ (field r.line 0).length)
    (word : List Byte) (plain : (word.all fun c => c ∉ [0, comma, star, cr, lf]) = true) :
    memEq (nmeaTokenizerGet r.tokens 0).mem ((nmeaTokenizerGet r.tokens 0).p + 2) word = true ↔
      word <+: (field r.line 0).drop 2 :=
  holds.memEq_iff (by omega) word (by simpa only [List.all_eq_true, decide_eq_true_eq] using plain)

theorem NmeaReader.HoldsLine.identifier_iff (holds : r.HoldsLine) (word : List Byte)
    (plain : (word.all fun c => c ∉ [0, comma, star, cr, lf]) = true) :
    memEq (nmeaTokenizerGet r.tokens 0).mem (nmeaTokenizerGet r.tokens 0).p word = true ↔
      word <+: field r.line 0 :=
  holds.memEq_iff (Nat.zero_le _) word (by simpa only [List.all_eq_true, decide_eq_true_eq] using plain)

theorem NmeaReader.HoldsLine.bds_eq (holds : r.HoldsLine) :
    memEq (nmeaTokenizerGet r.tokens 0).mem (nmeaTokenizerGet r.tokens 0).p (lit ['B', 'D']) =
      decide (isBds r.line) := by
  rw [Bool.eq_iff_iff, decide_eq_true_eq]
  exact holds.identifier_iff _ (by decide)

/-- The branch for `GpsCallbacks` needs a GSV type as well. -/
theorem gsv_of_talker {id : List Byte}
    (talker : lit ['G', 'P', 'G', 'S', 'V'] <+: id ∨ lit ['G', 'L', 'G', 'S', 'V'] <+: id) :
    lit ['G', 'S', 'V'] <+: id.drop 2 := by
  rcases talker with ⟨rest, equal⟩ | ⟨rest, equal⟩
  · exact ⟨rest, by rw [← equal]; rfl⟩
  · exact ⟨rest, by rw [← equal]; rfl⟩

end Identifier

/-- The parser's `memcmp` chain is the case distinction on the sentence's kind. -/
theorem nmeaReaderDispatch_eq {env : ParseEnv} {s : NmeaState pf}
    (registered : env.callbacksSize = pf.sizeofGpsCallbacksMtk) (holds : s.reader.HoldsLine)
    (long : ¬ (s.reader.line.length < 9 ∨ (field s.reader.line 0).length < 5)) :
    nmeaReaderDispatch env s.reader.tokens (nmeaTokenizerGet s.reader.tokens 0) s = sentenceEffect env s ∧
      sentenceKind s.reader.line ≠ .ignored := by
  have type := holds.type_iff (by omega)
  have whole := holds.identifier_iff
  have legacy : pf.sizeofGpsCallbacksMtk = pf.sizeofGpsCallbacks := rfl
  simp only [nmeaReaderDispatch, sentenceEffect, sentenceKind, if_neg long, registered,
    legacy, true_and, holds.bds_eq, type (lit ['G', 'G', 'A']) (by decide),
    type (lit ['R', 'M', 'C']) (by decide), type (lit ['G', 'S', 'V']) (by decide),
    type (lit ['A', 'C', 'C', 'U', 'R', 'A', 'C', 'Y']) (by decide),
    whole (lit ['G', 'P', 'G', 'S', 'A']) (by decide),
    whole (lit ['B', 'D', 'G', 'S', 'A']) (by decide),
    whole (lit ['G', 'L', 'G', 'S', 'A']) (by decide),
    whole (lit ['G', 'P', 'G', 'S', 'V']) (by decide),
    whole (lit ['G', 'L', 'G', 'S', 'V']) (by decide)]
  by_cases gga : lit ['G', 'G', 'A'] <+: (field s.reader.line 0).drop 2
  · simp only [if_pos gga, ne_eq, reduceCtorEq, not_false_eq_true, and_self]
  by_cases gsa : lit ['G', 'P', 'G', 'S', 'A'] <+: field s.reader.line 0 ∨
      lit ['B', 'D', 'G', 'S', 'A'] <+: field s.reader.line 0 ∨
      lit ['G', 'L', 'G', 'S', 'A'] <+: field s.reader.line 0
  · simp only [if_neg gga, if_pos gsa, ne_eq, reduceCtorEq, not_false_eq_true, and_self]
  have notGp := (not_or.mp gsa).1
  simp only [if_neg gga, if_neg gsa, if_neg notGp]
  by_cases rmc : lit ['R', 'M', 'C'] <+: (field s.reader.line 0).drop 2
  · simp only [if_pos rmc, ne_eq, reduceCtorEq, not_false_eq_true, and_self]
  by_cases gsv : lit ['G', 'S', 'V'] <+: (field s.reader.line 0).drop 2
  · simp only [if_neg rmc, if_pos gsv, ne_eq, reduceCtorEq, not_false_eq_true, and_self]
  simp only [if_neg rmc, if_neg gsv, if_neg (mt gsv_of_talker gsv)]
  by_cases accuracy :
    lit ['A', 'C', 'C', 'U', 'R', 'A', 'C', 'Y'] <+: (field s.reader.line 0).drop 2
  · simp only [if_pos accuracy, ne_eq, reduceCtorEq, not_false_eq_true, and_self]
  · simp only [if_neg accuracy, ne_eq, reduceCtorEq, not_false_eq_true, and_self]

/-- A sentence is ignored before any branch, or runs the branch of its kind and then the reports. -/
theorem nmeaReaderParse_eq {env : ParseEnv} {s : NmeaState pf}
    (registered : env.callbacksSize = pf.sizeofGpsCallbacksMtk) (holds : s.reader.HoldsLine) :
    nmeaReaderParse env s =
      if sentenceKind s.reader.line = .ignored then (s, []) else nmeaReaderReport env (sentenceEffect env s) := by
  have tooShort := holds.short_iff 0 5
  rw [NmeaReader.tokens] at tooShort
  rw [nmeaReaderParse, ← holds.length_line]
  by_cases long : s.reader.line.length < 9 ∨ (field s.reader.line 0).length < 5
  · have ignored :
        sentenceKind s.reader.line = .ignored := by simp only [sentenceKind, long, ↓reduceIte]
    rw [if_pos ignored]
    rcases long with line | id
    · rw [if_pos line]
    · split
      · rfl
      · rw [holds.length_line]
        exact if_pos (tooShort.mpr id)
  · obtain ⟨dispatch, kind⟩ := nmeaReaderDispatch_eq registered holds long
    rw [if_neg (not_or.mp long).1, if_neg kind, holds.length_line]
    dsimp only
    rw [if_neg (tooShort.not.mpr (not_or.mp long).2)]
    exact congrArg (nmeaReaderReport env ·) dispatch

end Dispatch

section Effect

/-- A GSA sentence changes the fix mode and the satellites used in the fix alone. -/
theorem parseGsa_frame (tzer : List Token) (bds : Bool) (s : NmeaState pf) :
    ∃ used, parseGsa tzer bds s =
    { s with reader := { s.reader with fixMode := (nmeaTokenizerGet tzer 2).int }, svUsedInFix := used } := by
  rw [parseGsa]
  dsimp only
  split
  · exact ⟨_, rfl⟩
  · exact ⟨s.svUsedInFix, rfl⟩

/-- A GSV sentence changes the satellite count and the satellite report alone. -/
theorem parseGsv_frame (tzer : List Token) (bds : Bool) (used : SvUsedInFix) (r : NmeaReader pf) :
    ∃ count status,
      parseGsv tzer bds used r = { r with svCount := count, svStatusGnss := status } := by
  have update (prn : Int) (elevation azimuth snr : Token) (r : NmeaReader pf) : ∃ count status,
      nmeaReaderUpdateSvStatusGnss used r prn elevation azimuth snr =
        { r with svCount := count, svStatusGnss := status } := by
    simp only [nmeaReaderUpdateSvStatusGnss]
    split_ifs <;> exact ⟨_, _, rfl⟩
  have fill (indices : List Nat) (r : NmeaReader pf) : ∃ count status,
      indices.foldl (fun r idx => nmeaReaderUpdateSvStatusGnss used r (gsvSvId tzer bds idx)
        (nmeaTokenizerGet tzer (4 * (idx + 1) + 1)) (nmeaTokenizerGet tzer (4 * (idx + 1) + 2))
        (nmeaTokenizerGet tzer (4 * (idx + 1) + 3))) r =
          { r with svCount := count, svStatusGnss := status } := by
    induction indices generalizing r with
    | nil => exact ⟨_, _, rfl⟩
    | cons idx rest ih =>
      obtain ⟨count, status, first⟩ :=
        update (gsvSvId tzer bds idx) (nmeaTokenizerGet tzer (4 * (idx + 1) + 1))
        (nmeaTokenizerGet tzer (4 * (idx + 1) + 2)) (nmeaTokenizerGet tzer (4 * (idx + 1) + 3)) r
      rw [List.foldl_cons, first]
      exact ih _
  have start (seq : Int) : ∃ count, gsvStart seq r = { r with svCount := count } := by
    rw [gsvStart]
    split <;> exact ⟨_, rfl⟩
  simp only [parseGsv]
  obtain ⟨count, begun⟩ := start (nmeaTokenizerGet tzer 2).int
  rw [begun, gsvFill]
  obtain ⟨count, status, filled⟩ := fill (List.range
    (gsvSvNum (nmeaTokenizerGet tzer 2).int (nmeaTokenizerGet tzer 3).int).toNat) { r with svCount := count }
  rw [filled, gsvClose]
  split_ifs <;> exact ⟨_, _, rfl⟩

/-- The fix mode after a sentence: the mode field of a GSA sentence, else as before. -/
def fixModeAfter (r : NmeaReader pf) (line : List Byte) : Int :=
  if sentenceKind line = .gsa then strToInt (field line 2) else r.fixMode

variable {env : ParseEnv} {s : NmeaState pf}

private theorem fixStep_keeps {supplied : LocationFlag → Prop} {r next : NmeaReader pf}
    (step : FixStep supplied r next) : next.fixMode = r.fixMode := by
  obtain ⟨year, mon, day, fix, rfl⟩ := step.frame
  rfl

private theorem supplies_none (line : List Byte) (fixed : Prop) (kind : sentenceKind line ≠ .gga ∧
    sentenceKind line ≠ .rmc ∧ sentenceKind line ≠ .accuracy) (flag : LocationFlag) :
    ¬ Supplies line fixed flag := by
  cases flag <;> simp [Supplies, isActiveRmc, kind]

/-- What a sentence does to fix mode and flags, whatever its kind. -/
theorem sentenceEffect_fix (env : ParseEnv) (holds : s.reader.HoldsLine) :
    (sentenceEffect env s).reader.fixMode = fixModeAfter s.reader s.reader.line ∧
      ∀ i, (sentenceEffect env s).reader.fix.flags.getLsbD i = true ↔
      s.reader.fix.flags.getLsbD i = true ∨
        ∃ flag, LocationFlag.bit flag = i ∧
          Supplies s.reader.line (s.reader.locFixed = true) flag := by
  cases kind : sentenceKind s.reader.line with
  | gga =>
    have step := parseGga_step env holds kind (s.reader.locFixed = true)
    simp only [sentenceEffect, kind, fixModeAfter, reduceCtorEq, ↓reduceIte]
    exact ⟨fixStep_keeps step, step.flags⟩
  | rmc =>
    have step := parseRmc_step env holds kind (s.reader.locFixed = true)
    simp only [sentenceEffect, kind, fixModeAfter, reduceCtorEq, ↓reduceIte]
    exact ⟨fixStep_keeps step, step.flags⟩
  | accuracy =>
    have step := parseAccuracy_step holds kind
    simp only [sentenceEffect, kind, fixModeAfter, reduceCtorEq, ↓reduceIte]
    exact ⟨fixStep_keeps step, step.flags⟩
  | gsa =>
    have none := supplies_none s.reader.line (s.reader.locFixed = true) (by simp [kind])
    obtain ⟨used, changed⟩ := parseGsa_frame s.reader.tokens (isBds s.reader.line) s
    simp only [sentenceEffect, kind, changed, fixModeAfter, ↓reduceIte, holds.int, none, and_false,
      exists_false, or_false, implies_true, and_self]
  | gsv =>
    have none := supplies_none s.reader.line (s.reader.locFixed = true) (by simp [kind])
    obtain ⟨count, status, changed⟩ :=
      parseGsv_frame s.reader.tokens (isBds s.reader.line) s.svUsedInFix s.reader
    simp only [sentenceEffect, kind, fixModeAfter, reduceCtorEq, ↓reduceIte, changed, none,
      and_false, exists_false, or_false, implies_true, and_self]
  | ignored =>
    have none := supplies_none s.reader.line (s.reader.locFixed = true) (by simp [kind])
    simp only [sentenceEffect, kind, fixModeAfter, reduceCtorEq, ↓reduceIte, none, and_false,
      exists_false, or_false, implies_true, and_self]
  | other =>
    have none := supplies_none s.reader.line (s.reader.locFixed = true) (by simp [kind])
    simp only [sentenceEffect, kind, fixModeAfter, reduceCtorEq, ↓reduceIte, none, and_false,
      exists_false, or_false, implies_true, and_self]

/-- Only GSV sentences touch the satellite count and report. -/
theorem sentenceEffect_sv (env : ParseEnv) (holds : s.reader.HoldsLine)
    (kind : sentenceKind s.reader.line ≠ .gsv) :
    (sentenceEffect env s).reader.svCount = s.reader.svCount ∧
      (sentenceEffect env s).reader.svStatusGnss = s.reader.svStatusGnss := by
  have ofStep {supplied : LocationFlag → Prop} {next : NmeaReader pf} (step : FixStep supplied s.reader next) :
      next.svCount = s.reader.svCount ∧ next.svStatusGnss = s.reader.svStatusGnss := by
    obtain ⟨year, mon, day, fix, rfl⟩ := step.frame
    exact ⟨rfl, rfl⟩
  cases found : sentenceKind s.reader.line with
  | gga => simpa only [sentenceEffect, found] using ofStep (parseGga_step env holds found True)
  | rmc => simpa only [sentenceEffect, found] using ofStep (parseRmc_step env holds found True)
  | accuracy => simpa only [sentenceEffect, found] using ofStep (parseAccuracy_step holds found)
  | gsa =>
    obtain ⟨used, changed⟩ := parseGsa_frame s.reader.tokens (isBds s.reader.line) s
    simp only [sentenceEffect, found, changed, and_self]
  | gsv => exact absurd found kind
  | ignored => simp only [sentenceEffect, found, and_self]
  | other => simp only [sentenceEffect, found, and_self]

/-- The branches never touch the end tag. -/
theorem sentenceEffect_endTag : (sentenceEffect env s).gpsNmeaEndTag = s.gpsNmeaEndTag := by
  cases kind : sentenceKind s.reader.line with
  | gsa =>
    obtain ⟨used, changed⟩ := parseGsa_frame s.reader.tokens (isBds s.reader.line) s
    simp only [sentenceEffect, kind, changed]
  | _ => simp only [sentenceEffect, kind]

end Effect

section Reports

/-- The calls around a location. -/
def Call.OfFix : Call pf → Prop
  | .logPosition _ _ => True
  | .location _ => True
  | .updateLocation _ => True
  | _ => False

def Call.OfSatellites : Call pf → Prop
  | .gnssSvStatus _ => True
  | .svStatus _ => True
  | _ => False

/-- The report of the fix changes the flags alone. -/
theorem nmeaReaderReportFix_frame (env : ParseEnv) (s : NmeaState pf) : ∃ flags,
    (nmeaReaderReportFix env s).1 = { s with reader := { s.reader with fix := { s.reader.fix with flags := flags } } } ∧
      ∀ c ∈ (nmeaReaderReportFix env s).2, c.OfFix := by
  simp only [nmeaReaderReportFix]
  split_ifs
  · exact ⟨s.reader.fix.flags, rfl, by simp⟩
  · exact ⟨0, rfl, by simp [Call.OfFix]⟩
  · exact ⟨0, rfl, by simp [Call.OfFix]⟩
  · exact ⟨s.reader.fix.flags, rfl, by simp⟩

/-- The satellite report changes the satellites' part of the state alone. -/
theorem nmeaReaderReportSv_frame (env : ParseEnv) (s : NmeaState pf) : ∃ count gnss gps used,
    (nmeaReaderReportSv env s).1 =
        { s with
          reader := { s.reader with svCount := count, svStatusGnss := gnss, svStatusGps := gps }, svUsedInFix := used } ∧
      ∀ c ∈ (nmeaReaderReportSv env s).2, c.OfSatellites := by
  simp only [nmeaReaderReportSv]
  split_ifs
  · exact ⟨_, _, _, _, rfl, by simp [Call.OfSatellites]⟩
  · exact ⟨_, _, _, _, rfl, by simp⟩
  · exact ⟨_, _, _, _, rfl, by simp [Call.OfSatellites]⟩
  · exact ⟨_, _, _, _, rfl, by simp⟩

/-- Both reports together. -/
theorem nmeaReaderReport_frame (env : ParseEnv) (s : NmeaState pf) : ∃ flags count gnss gps used,
    (nmeaReaderReport env s).1 = { s with
        reader := { s.reader with
          fix := { s.reader.fix with flags := flags }, svCount := count, svStatusGnss := gnss, svStatusGps := gps }
        svUsedInFix := used } ∧
      ∀ c ∈ (nmeaReaderReport env s).2, c.OfFix ∨ c.OfSatellites := by
  obtain ⟨flags, fix, fixCalls⟩ := nmeaReaderReportFix_frame env s
  obtain ⟨count, gnss, gps, used, sv, svCalls⟩ :=
    nmeaReaderReportSv_frame env (nmeaReaderReportFix env s).1
  refine ⟨flags, count, gnss, gps, used, ?_, ?_⟩
  · change (nmeaReaderReportSv env (nmeaReaderReportFix env s).1).1 = _
    rw [sv, fix]
  · intro c member
    exact (List.mem_append.mp member).imp (fixCalls c) (svCalls c)

end Reports

end Mt6582.Gps

import Mt6582.Ygps.SkyView

/-! # Satellites used in the fix

A `GSA` sentence names the satellites used in the fix, in its fields 3 to 14. The loop over them starts at
field 2, the mode, which is then taken for a satellite.
-/

namespace Mt6582.Ygps

open Machine

structure GsaSentence where
  /-- `M` or `A`. -/
  manual : Bool
  /-- Mode 3, else mode 2. -/
  threeD : Bool
  ids : List (Option Numeral)
  twelve : ids.length = 12
  positive : ∀ numeral, some numeral ∈ ids → numeral.value ≠ 0
  pdop : JavaString
  hdop : JavaString
  vdop : JavaString
  dops : ∀ dop ∈ [pdop, hdop, vdop], ∀ c ∈ dop, IsDecimal c ∨ c = 46
  checksum : Checksum

namespace GsaSentence

def idText : Option Numeral → JavaString
  | none => []
  | some numeral => numeral.text

def mode (sentence : GsaSentence) : Int := if sentence.threeD then 3 else 2

def modeText (sentence : GsaSentence) : JavaString := if sentence.threeD then [51] else [50]

def fields (sentence : GsaSentence) : List JavaString :=
  [if sentence.manual then 77 else 65] :: sentence.modeText ::
    (sentence.ids.map idText ++ [sentence.pdop, sentence.hdop, sentence.vdop])

def record (sentence : GsaSentence) (talker : Talker) : JavaString :=
  Ygps.record talker gsa sentence.fields sentence.checksum

/-- The identifiers in the fields 3 to 14, in order. -/
def usedValues (sentence : GsaSentence) : List Int :=
  sentence.ids.filterMap fun id => id.map fun numeral => (numeral.value : Int)

variable {F : Type} [Zero F]

/-- The used identifiers are those of the sentence, and the satellites of a `GSV` sentence that follows and
starts a group are marked accordingly. -/
def ListsUsed (sentence : GsaSentence) (floatOf : JavaString → Option F) (talker : Talker) (parser : NmeaParser F) : Prop :=
  (parser.parse floatOf (sentence.record talker)).mUsedFixIdMapList (some talker) = some sentence.usedValues ∧
    ∀ next : GsvSentence, next.num.value ≠ 0 → next.num.value < 2 ^ 31 → next.seq.value = 1 →
      ∀ info ∈ ((parser.parse floatOf (sentence.record talker)).parse floatOf (next.record talker)).mSatelInfoList talker,
        info.mUsedInFix = true ↔ info.mPrn ∈ sentence.usedValues

end GsaSentence

/-! ## The fields of the sentence -/

section Fields

theorem closeLast_concat (checksum : Checksum) (front : List JavaString) (last : JavaString) :
    closeLast checksum (front ++ [last]) = front ++ [last ++ checksum.text] := by
  induction front with
  | nil => rfl
  | cons field front ih =>
    cases front with
    | nil => rfl
    | cons next front => exact congrArg (field :: ·) ih

namespace GsaSentence

variable (sentence : GsaSentence)

theorem fields_fieldChar : ∀ field ∈ sentence.fields, ∀ c ∈ field, FieldChar c := by
  have selection : ∀ c ∈ [if sentence.manual then (77 : UInt16) else 65], FieldChar c := by
    cases sentence.manual <;> exact forall_of_all (by decide)
  have mode : ∀ c ∈ sentence.modeText, FieldChar c := by
    rw [modeText]
    cases sentence.threeD <;> exact forall_of_all (by decide)
  refine List.forall_mem_cons.mpr ⟨selection, List.forall_mem_cons.mpr ⟨mode, List.forall_mem_append.mpr ⟨?_, ?_⟩⟩⟩
  · intro field member c inside
    obtain ⟨id, -, rfl⟩ := List.mem_map.mp member
    cases id with
    | none => cases inside
    | some numeral => exact numeral_fieldChar numeral c inside
  · intro dop member c inside
    rcases sentence.dops dop member c inside with decimal | rfl
    · exact fieldChar_decimal decimal
    · decide

/-- The values that `parseGSA` splits the sentence into. -/
theorem split_record (talker : Talker) :
    split 44 (sentence.record talker) =
      header talker gsa :: [if sentence.manual then 77 else 65] :: sentence.modeText ::
      (sentence.ids.map idText ++ [sentence.pdop, sentence.hdop, sentence.vdop ++ sentence.checksum.text]) := by
  have bare : 44 ∉ header talker gsa := by cases talker <;> decide
  have grouped :
      header talker gsa :: sentence.fields =
      (header talker gsa :: [if sentence.manual then 77 else 65] ::
      sentence.modeText :: (sentence.ids.map idText ++ [sentence.pdop, sentence.hdop])) ++ [sentence.vdop] := by
    simp [fields]
  rw [record, Ygps.split_record bare sentence.fields_fieldChar, grouped, closeLast_concat]
  simp

end GsaSentence

end Fields

/-! ## The loop over the fields -/

section Loop

variable {F : Type}

/-- The identifiers of a list of fields that fit an `int`. -/
def fitting (ids : List (Option Numeral)) : List Int :=
  (ids.filterMap fun id => id.map fun numeral => (numeral.value : Int)).filter (· < 2 ^ 31)

theorem fitting_some (numeral : Numeral) (ids : List (Option Numeral)) :
    fitting (some numeral :: ids) =
      (if numeral.value < 2 ^ 31 then [(numeral.value : Int)] else []) ++ fitting ids := by
  have same : decide ((numeral.value : Int) < 2 ^ 31) = true ↔ numeral.value < 2 ^ 31 := by
    rw [decide_eq_true_eq]
    omega
  simp only [fitting, List.filterMap_cons, Option.map_some, List.filter_cons, same]
  split_ifs <;> rfl

theorem addUsedFixId_known {parser : NmeaParser F} {used : List Int}
    (known : parser.mUsedFixIdMapList parser.mCurrentTalker = some used) (prn : Int) :
    (parser.addUsedFixId prn).mUsedFixIdMapList parser.mCurrentTalker = some (used ++ [prn]) := by
  simp only [NmeaParser.addUsedFixId, known, Option.getD_some, Function.update_self]

/-- The loop adds the numbers it can read, in order. -/
theorem addUsedFixIds_spec {ids : List (Option Numeral)}
    (positive : ∀ numeral, some numeral ∈ ids → numeral.value ≠ 0) {parser : NmeaParser F}
    {used : List Int} (known : parser.mUsedFixIdMapList parser.mCurrentTalker = some used) :
    ∃ next, parser.addUsedFixIds (ids.map GsaSentence.idText) = (next, .ok ()) ∧
      next.mUsedFixIdMapList parser.mCurrentTalker = some (used ++ fitting ids) := by
  induction ids generalizing parser used with
  | nil =>
    exact ⟨parser,
      rfl, by rw [known, fitting, List.filterMap_nil, List.filter_nil, List.append_nil]⟩
  | cons id ids ih =>
    have rest (numeral : Numeral) (member : some numeral ∈ ids) : numeral.value ≠ 0 :=
      positive numeral (List.mem_cons_of_mem id member)
    cases id with
    | none => exact ih rest known
    | some numeral =>
      have nonzero := positive numeral List.mem_cons_self
      rw [List.map_cons, NmeaParser.addUsedFixIds, GsaSentence.idText, parseInt_numeral,
        if_neg nonzero, fitting_some, ← List.append_assoc]
      rcases Decidable.em (numeral.value < 2 ^ 31) with small | large
      · simp only [if_pos small]
        rw [if_pos (by omega)]
        exact ih rest (addUsedFixId_known known numeral.value)
      · simp only [if_neg large, List.append_nil]
        exact ih rest known

end Loop

/-! ## The whole sentence -/

section Sentence

variable {F : Type} [Zero F]

/-- The mode as the loop reads it. -/
def GsaSentence.modeNumeral (sentence : GsaSentence) : Numeral where
  text := sentence.modeText
  nonempty := by rw [modeText]; cases sentence.threeD <;> decide
  decimal := by rw [modeText]; cases sentence.threeD <;> exact forall_of_all (by decide)

theorem GsaSentence.modeNumeral_value (sentence : GsaSentence) :
    (sentence.modeNumeral.value : Int) = sentence.mode := by
  obtain ⟨manual, threeD⟩ := sentence
  cases threeD <;> rfl

theorem GsaSentence.mode_range (sentence : GsaSentence) :
    0 < sentence.mode ∧ sentence.mode < 2 ^ 31 := by
  rw [mode]
  split_ifs <;> decide

/-- The mode is not 1, which stands for no fix. -/
theorem GsaSentence.modeText_ne_noFix (sentence : GsaSentence) : sentence.modeText ≠ [49] := by
  rw [modeText]
  split_ifs <;> decide

omit [Zero F] in
theorem setDops_used (parser : NmeaParser F) (talker : Talker) (values : List JavaString) :
    (parser.setDops talker values).1.mUsedFixIdMapList = parser.mUsedFixIdMapList := by
  rw [NmeaParser.setDops]
  cases valueAt values 17 <;> rfl

omit [Zero F] in
/-- With a fix and enough values the identifiers are those of the loop over `values[2]` to `values[14]`. -/
theorem parseGSA_used {record : JavaString} {talker : Talker} {ids : List (Option Numeral)}
    (enough : 17 ≤ (split 44 record).length) (fix : (split 44 record).getD 2 [] ≠ [49])
    (read : ((split 44 record).drop 2).take 13 = ids.map GsaSentence.idText)
    (positive : ∀ numeral, some numeral ∈ ids → numeral.value ≠ 0) (parser : NmeaParser F) :
    ({ parser with mCurrentTalker := some talker }.parseGSA record).1.mUsedFixIdMapList (some talker) =
      some (fitting ids) := by
  have finish (start : NmeaParser F) (current : start.mCurrentTalker = some talker)
      (cleared : start.mUsedFixIdMapList (some talker) = some []) :
      (NmeaParser.andThen (start.addUsedFixIds (ids.map GsaSentence.idText)) fun parser =>
        parser.setDops talker (split 44 record)).1.mUsedFixIdMapList (some talker) =
          some (fitting ids) := by
    rw [← current] at cleared ⊢
    obtain ⟨next, looped, used⟩ := addUsedFixIds_spec positive cleared
    rw [looped, NmeaParser.andThen, setDops_used, used, List.nil_append]
  simp only [NmeaParser.parseGSA, NmeaParser.clearUsedFixList, ge_iff_le, enough, if_true, fix,
    if_false, read]
  exact finish _ rfl (Function.update_self ..)

/-- The mode stands before the identifiers. -/
theorem parse_gsaSentence (floatOf : JavaString → Option F) (sentence : GsaSentence)
    (talker : Talker) (parser : NmeaParser F) :
    (parser.parse floatOf (sentence.record talker)).mUsedFixIdMapList (some talker) =
      some (sentence.mode :: fitting sentence.ids) := by
  have each := sentence.fields_fieldChar
  have nonempty : sentence.fields ≠ [] := List.cons_ne_nil _ _
  have values : split 44 (Ygps.record talker gsa sentence.fields sentence.checksum) = _ :=
    sentence.split_record talker
  have length :
      (sentence.ids.map GsaSentence.idText).length = 12 := by rw [List.length_map, sentence.twelve]
  have value := sentence.modeNumeral_value
  have range := sentence.mode_range
  have first :
      fitting (some sentence.modeNumeral :: sentence.ids) =
      sentence.mode :: fitting sentence.ids := by
    rw [fitting_some, if_pos (by omega), value]
    rfl
  rw [GsaSentence.record, parse_gsa floatOf parser nonempty each, ← first]
  apply parseGSA_used
  · rw [values]
    simp only [List.length_cons, List.length_append, length]
    omega
  · rw [values]
    exact sentence.modeText_ne_noFix
  · rw [values]
    have loop : (sentence.modeText :: sentence.ids.map GsaSentence.idText).length = 13 :=
      congrArg (· + 1) length
    exact List.take_left' loop
  · intro numeral member
    rcases List.mem_cons.mp member with same | inside
    · cases same
      omega
    · exact sentence.positive numeral inside

/-- No two lists differ by a first element that fits and the elements that do not. -/
theorem cons_fitting_ne {ids : List (Option Numeral)} {mode : Int} (small : mode < 2 ^ 31) :
    mode :: fitting ids ≠ ids.filterMap fun id => id.map fun numeral => (numeral.value : Int) := by
  intro same
  have fits : ∀ value ∈ mode :: fitting ids, value < 2 ^ 31 := by
    rw [List.forall_mem_cons]
    exact ⟨small, fun value member => of_decide_eq_true (List.mem_filter.mp member).2⟩
  rw [same] at fits
  have whole : fitting ids = ids.filterMap fun id => id.map fun numeral => (numeral.value : Int) :=
    List.filter_eq_self.mpr fun value member => decide_eq_true (fits value member)
  rw [whole] at same
  exact absurd (congrArg List.length same) (by rw [List.length_cons]; omega)

/-- No sentence leaves the identifiers it lists: its mode is among them. -/
theorem GsaSentence.not_listsUsed (floatOf : JavaString → Option F) (sentence : GsaSentence) (talker : Talker)
    (parser : NmeaParser F) :
    (parser.parse floatOf (sentence.record talker)).mUsedFixIdMapList (some talker) =
        some (sentence.mode :: sentence.usedValues.filter (· < 2 ^ 31)) ∧
      ¬ sentence.ListsUsed floatOf talker parser := by
  have used := parse_gsaSentence floatOf sentence talker parser
  refine ⟨used, ?_⟩
  rintro ⟨listed, -⟩
  exact cons_fitting_ne sentence.mode_range.2 (Option.some.inj (used.symm.trans listed))

/-- A `GSV` sentence that follows marks the satellites listed and the one numbered like the mode. -/
theorem GsaSentence.marked_iff {floatOf : JavaString → Option F} (ignores : IgnoresZeros floatOf)
    (sentence : GsaSentence) (talker : Talker) (parser : NmeaParser F) {next : GsvSentence}
    (numPositive : next.num.value ≠ 0) (counted : next.num.value < 2 ^ 31)
    (first : next.seq.value = 1) :
    ∀ info ∈ ((parser.parse floatOf (sentence.record talker)).parse floatOf (next.record talker)).mSatelInfoList talker,
      info.mUsedInFix = true ↔ info.mPrn = sentence.mode ∨ info.mPrn ∈ sentence.usedValues := by
  have list :=
    (parse_sentence ignores next talker (parser.parse floatOf (sentence.record talker)) numPositive
    (by omega)).1
  rw [list, Function.update_self, GsvSentence.base, if_pos ⟨counted, first⟩, List.nil_append,
    parse_gsaSentence floatOf sentence talker parser, Option.getD_some, List.forall_mem_map]
  intro satellite shown
  have small : (satellite.id.value : Int) < 2 ^ 31 := by
    have := of_decide_eq_true (List.mem_filter.mp shown).2
    omega
  have fits : (satellite.id.value : Int) ∈ fitting sentence.ids ↔
      (satellite.id.value : Int) ∈ sentence.usedValues :=
    List.mem_filter.trans (and_iff_left (decide_eq_true small))
  simp only [GsvSatellite.info, decide_eq_true_eq, List.mem_cons, fits]

end Sentence

/-- `$GPGSA,A,3,,,,,,16,18,,22,24,,,3.6,2.1,2.2*3C`. -/
def documentedGsa : GsaSentence where
  manual := false
  threeD := true
  ids := [none, none, none, none, none, some (Numeral.lit ['1', '6'] (by decide) (by decide)),
    some (Numeral.lit ['1', '8'] (by decide) (by decide)), none, some (Numeral.lit ['2', '2'] (by decide) (by decide)),
    some (Numeral.lit ['2', '4'] (by decide) (by decide)), none, none]
  twelve := rfl
  positive := by
    intro numeral member
    simp only [List.mem_cons, reduceCtorEq, Option.some.injEq, List.not_mem_nil, false_or, or_false] at member
    rcases member with rfl | rfl | rfl | rfl <;> decide
  pdop := javaLit ['3', '.', '6']
  hdop := javaLit ['2', '.', '1']
  vdop := javaLit ['2', '.', '2']
  dops := by
    simp only [List.forall_mem_cons, List.not_mem_nil, false_imp_iff, implies_true, and_true]
    exact ⟨forall_of_all (by decide), forall_of_all (by decide), forall_of_all (by decide)⟩
  checksum := ⟨51, 67, by decide, by decide⟩

example : documentedGsa.record .gp = javaLit "$GPGSA,A,3,,,,,,16,18,,22,24,,,3.6,2.1,2.2*3C".toList := by decide

/-- The example of the documentation marks a satellite 3 that it does not list. -/
theorem GsaSentence.documented_mode_used : ¬ documentedGsa.ListsUsed wholeNumber .gp (NmeaParser.new WholeFloat) := by
  rintro ⟨listed, -⟩
  have used := parse_gsaSentence wholeNumber documentedGsa .gp (NmeaParser.new WholeFloat)
  rw [listed] at used
  exact absurd used (by decide)

end Mt6582.Ygps

import Mathlib.Data.List.TakeWhile
import Mt6582.Ygps.NmeaRecord

/-! # Satellites in view

A `GSV` sentence lists up to four satellites of a talker. A field made of zeros ends the sentence: the
satellites from there on are lost, and so is the report.
-/

namespace Mt6582.Ygps

open Machine

structure GsvSatellite where
  id : Numeral
  /-- The sign of the elevation. -/
  negative : Bool
  elevation : Numeral
  azimuth : Numeral
  snr : Option Numeral

namespace GsvSatellite

def elevationText (satellite : GsvSatellite) : JavaString :=
  if satellite.negative then 45 :: satellite.elevation.text else satellite.elevation.text

def snrText (satellite : GsvSatellite) : JavaString :=
  match satellite.snr with
  | none => []
  | some snr => snr.text

def fields (satellite : GsvSatellite) : List JavaString :=
  [satellite.id.text, satellite.elevationText, satellite.azimuth.text, satellite.snrText]

/-- One of the fields is made of zeros only. -/
def ZeroField (satellite : GsvSatellite) : Prop :=
  satellite.id.value = 0 ∨ (satellite.negative = false ∧ satellite.elevation.value = 0) ∨
    satellite.azimuth.value = 0 ∨ ∃ snr ∈ satellite.snr, snr.value = 0

instance (satellite : GsvSatellite) : Decidable satellite.ZeroField := inferInstanceAs (Decidable (_ ∨ _ ∨ _ ∨ _))

/-- The satellites that the loop adds: those before the first field of zeros whose numbers fit. -/
def shown (satellites : List GsvSatellite) : List GsvSatellite :=
  (satellites.takeWhile fun satellite => ¬ satellite.ZeroField).filter fun satellite => satellite.id.value < 2 ^ 31

variable {F : Type} [Zero F] (floatOf : JavaString → Option F)

/-- The numbers in the fields. -/
def values (satellite : GsvSatellite) : Int × F × F × F :=
  (satellite.id.value, fieldValue floatOf satellite.elevationText, fieldValue floatOf satellite.azimuth.text,
    fieldValue floatOf satellite.snrText)

/-- What the loop adds for it. -/
def info (talker : Talker) (usedIds : List Int) (satellite : GsvSatellite) : SatelliteInfo F where
  mPrn := satellite.id.value
  mSnr := fieldValue floatOf satellite.snrText
  mElevation := fieldValue floatOf satellite.elevationText
  mAzimuth := fieldValue floatOf satellite.azimuth.text
  mUsedInFix := decide ((satellite.id.value : Int) ∈ usedIds)
  mColor := checkTalkerColor talker

end GsvSatellite

structure GsvSentence where
  num : Numeral
  seq : Numeral
  total : Numeral
  satellites : List GsvSatellite
  atMostFour : satellites.length ≤ 4
  checksum : Checksum

namespace GsvSentence

def fields (sentence : GsvSentence) : List JavaString :=
  sentence.num.text :: sentence.seq.text :: sentence.total.text :: sentence.satellites.flatMap GsvSatellite.fields

def record (sentence : GsvSentence) (talker : Talker) : JavaString :=
  Ygps.record talker gsv sentence.fields sentence.checksum

end GsvSentence

/-! ## Texts of the fields -/

section Texts

theorem numeral_fieldChar (numeral : Numeral) : ∀ c ∈ numeral.text, FieldChar c :=
  fun c member => fieldChar_decimal (numeral.decimal c member)

theorem GsvSatellite.snrText_decimal (satellite : GsvSatellite) :
    ∀ c ∈ satellite.snrText, IsDecimal c := by
  rw [snrText]
  cases satellite.snr with
  | none => exact fun _ absent => absurd absent List.not_mem_nil
  | some snr => exact snr.decimal

theorem GsvSatellite.fields_fieldChar (satellite : GsvSatellite) :
    ∀ field ∈ satellite.fields, ∀ c ∈ field, FieldChar c := by
  have elevation : ∀ c ∈ satellite.elevationText, FieldChar c := by
    rw [elevationText]
    split_ifs
    · exact List.forall_mem_cons.mpr ⟨by decide, numeral_fieldChar _⟩
    · exact numeral_fieldChar _
  have snr : ∀ c ∈ satellite.snrText, FieldChar c :=
    fun c member => fieldChar_decimal (satellite.snrText_decimal c member)
  simp only [fields, List.forall_mem_cons]
  exact ⟨numeral_fieldChar _, elevation, numeral_fieldChar _, snr,
    fun _ absent => absurd absent List.not_mem_nil⟩

theorem GsvSentence.fields_fieldChar (sentence : GsvSentence) :
    ∀ field ∈ sentence.fields, ∀ c ∈ field, FieldChar c := by
  simp only [fields, List.forall_mem_cons]
  refine ⟨numeral_fieldChar _, numeral_fieldChar _, numeral_fieldChar _, fun field member => ?_⟩
  obtain ⟨satellite, -, inside⟩ := List.mem_flatMap.mp member
  exact satellite.fields_fieldChar field inside

end Texts

/-! ## One satellite -/

section Satellite

variable {F : Type} [Zero F] {floatOf : JavaString → Option F}

theorem not_mem_of_decimal {text : JavaString} (decimal : ∀ c ∈ text, IsDecimal c) : 42 ∉ text :=
  fun member => absurd (decimal 42 member) (by decide)

/-- The checksum behind the last field is cut off before it is read. -/
theorem parseSnr_eq (checksum : Checksum) {text : JavaString} (decimal : ∀ c ∈ text, IsDecimal c) :
    parseSnr floatOf text = parseFloat floatOf text ∧
      parseSnr floatOf (text ++ checksum.text) = parseFloat floatOf text := by
  have bare := not_mem_of_decimal decimal
  have close : (42 : UInt16) ∉ [checksum.high, checksum.low] := by
    simp only [List.mem_cons, List.not_mem_nil, or_false, not_or]
    exact ⟨fun equal => absurd (equal ▸ checksum.highDigit : IsHexDigit 42) (by decide),
      fun equal => absurd (equal ▸ checksum.lowDigit : IsHexDigit 42) (by decide)⟩
  constructor
  · have absent : contains text [42] = false := by
      simp only [contains, decide_eq_false_iff_not]
      exact not_infix_of_not_mem bare
    rw [parseSnr, absent]
    rfl
  · have present : contains (text ++ checksum.text) [42] = true := by
      simp only [contains, decide_eq_true_eq]
      exact ⟨text, [checksum.high, checksum.low], by simp [Checksum.text]⟩
    have pieces : split 42 (text ++ checksum.text) = [text, [checksum.high, checksum.low]] := by
      have joined :
          text ++ checksum.text = [42].intercalate [text, [checksum.high, checksum.low]] := by
        simp [Checksum.text, List.intercalate_cons_cons]
      rw [joined]
      apply split_intercalate (List.cons_ne_nil _ _)
      · simp only [List.forall_mem_cons]
        exact ⟨bare, close, fun _ absent => absurd absent List.not_mem_nil⟩
      · exact List.cons_ne_nil _ _
    rw [parseSnr, present, if_pos rfl, pieces]

theorem GsvSatellite.parseFloat_elevationText (ignores : IgnoresZeros floatOf)
    (satellite : GsvSatellite) :
    parseFloat floatOf satellite.elevationText =
      if satellite.negative = false ∧ satellite.elevation.value = 0 then .error .indexOutOfBounds
      else .ok (fieldValue floatOf satellite.elevationText) := by
  rw [elevationText]
  cases satellite.negative with
  | true => exact parseFloat_negative _
  | false =>
    rw [if_neg Bool.false_ne_true, parseFloat_numeral ignores]
    exact if_congr (by simp) rfl rfl

theorem GsvSatellite.parseFloat_snrText (ignores : IgnoresZeros floatOf)
    (satellite : GsvSatellite) :
    parseFloat floatOf satellite.snrText =
      if ∃ snr ∈ satellite.snr, snr.value = 0 then .error .indexOutOfBounds
      else .ok (fieldValue floatOf satellite.snrText) := by
  rw [snrText]
  cases satellite.snr with
  | none =>
    rw [if_neg (by rintro ⟨snr, absent, -⟩; cases absent)]
    rfl
  | some snr =>
    rw [parseFloat_numeral ignores]
    exact if_congr (by simp) rfl rfl

/-- A satellite is read as it is unless one of its fields is made of zeros. -/
theorem readSatellite_eq (ignores : IgnoresZeros floatOf) (checksum : Checksum)
    (satellite : GsvSatellite) {snrField : JavaString}
    (last : snrField = satellite.snrText ∨ snrField = satellite.snrText ++ checksum.text) :
    NmeaParser.readSatellite floatOf satellite.id.text satellite.elevationText satellite.azimuth.text snrField =
      if satellite.ZeroField then .error .indexOutOfBounds
      else .ok (if satellite.id.value < 2 ^ 31 then satellite.id.value else 0, (satellite.values floatOf).2) := by
  have snr : parseSnr floatOf snrField = parseFloat floatOf satellite.snrText := by
    rcases last with rfl | rfl
    · exact (parseSnr_eq checksum satellite.snrText_decimal).1
    · exact (parseSnr_eq checksum satellite.snrText_decimal).2
  rw [NmeaParser.readSatellite, parseInt_numeral, satellite.parseFloat_elevationText ignores,
    parseFloat_numeral ignores, snr, satellite.parseFloat_snrText ignores, GsvSatellite.values]
  rcases Decidable.em (satellite.id.value = 0) with zero | id
  · have zeros : satellite.ZeroField := .inl zero
    rw [if_pos zero, if_pos zeros]
    rfl
  rcases Decidable.em (satellite.negative = false ∧ satellite.elevation.value = 0) with zero | elevation
  · have zeros : satellite.ZeroField := .inr (.inl zero)
    rw [if_neg id, if_pos zero, if_pos zeros]
    rfl
  rcases Decidable.em (satellite.azimuth.value = 0) with zero | azimuth
  · have zeros : satellite.ZeroField := .inr (.inr (.inl zero))
    rw [if_neg id, if_neg elevation, if_pos zero, if_pos zeros]
    rfl
  rcases Decidable.em (∃ snr ∈ satellite.snr, snr.value = 0) with zero | snr
  · have zeros : satellite.ZeroField := .inr (.inr (.inr zero))
    rw [if_neg id, if_neg elevation, if_neg azimuth, if_pos zero, if_pos zeros]
    rfl
  · have complete : ¬ satellite.ZeroField := by
      rintro (zero | zero | zero | zero) <;> contradiction
    rw [if_neg id, if_neg elevation, if_neg azimuth, if_neg snr, if_neg complete]
    rfl

end Satellite

/-! ## The loop -/

section Loop

variable {F : Type} {talker : Talker} {parser next : NmeaParser F}

/-- The identifiers that `isUsedInFix` looks through. -/
def NmeaParser.usedIds (parser : NmeaParser F) : List Int :=
  (parser.mUsedFixIdMapList parser.mCurrentTalker).getD []

/-- `next` has `added` behind the talker's satellites, and answers and has reported as `parser`. -/
structure Extends (talker : Talker) (added : List (SatelliteInfo F)) (parser next : NmeaParser F) : Prop where
  list : next.mSatelInfoList = Function.update parser.mSatelInfoList talker (parser.mSatelInfoList talker ++ added)
  used : next.usedIds = parser.usedIds
  messages : next.svUpdates = parser.svUpdates

theorem Extends.refl : Extends talker [] parser parser where
  list := by rw [List.append_nil, Function.update_eq_self]
  used := rfl
  messages := rfl

theorem Extends.trans {last : NmeaParser F} {first second : List (SatelliteInfo F)}
    (before : Extends talker first parser next) (after : Extends talker second next last) :
    Extends talker (first ++ second) parser last where
  list := by
    rw [after.list, before.list, Function.update_self, Function.update_idem, List.append_assoc]
  used := after.used.trans before.used
  messages := after.messages.trans before.messages

theorem isUsedInFix_spec (parser : NmeaParser F) (prn : Int) :
    (parser.isUsedInFix prn).1 = decide (prn ∈ parser.usedIds) ∧
      Extends talker [] parser (parser.isUsedInFix prn).2 := by
  rw [NmeaParser.isUsedInFix, NmeaParser.usedIds]
  cases stored : parser.mUsedFixIdMapList parser.mCurrentTalker with
  | none =>
    refine ⟨rfl, ?_, ?_, rfl⟩
    · rw [List.append_nil, Function.update_eq_self]
    · simp only [NmeaParser.usedIds, Function.update_self, stored]
      rfl
  | some usedFixIdList => exact ⟨rfl, Extends.refl⟩

theorem addSatellite_extends (parser : NmeaParser F) (talker : Talker) (prn : Int)
    (elevation azimuth snr : F) :
    Extends talker [⟨prn, snr, elevation, azimuth, decide (prn ∈ parser.usedIds), checkTalkerColor talker⟩] parser
      (parser.addSatellite talker prn elevation azimuth snr) := by
  obtain ⟨marked, same⟩ := @isUsedInFix_spec _ talker parser prn
  have added :
      Extends talker [⟨prn, snr, elevation, azimuth, (parser.isUsedInFix prn).1, checkTalkerColor talker⟩]
      (parser.isUsedInFix prn).2 (parser.addSatellite talker prn elevation azimuth snr) :=
    ⟨rfl, rfl, rfl⟩
  rw [marked] at added
  exact same.trans added

theorem closeLast_fields (checksum : Checksum) (satellite : GsvSatellite) (rest : List JavaString) :
    ∃ snrField, (snrField = satellite.snrText ∨ snrField = satellite.snrText ++ checksum.text) ∧
      closeLast checksum (satellite.fields ++ rest) =
      satellite.id.text :: satellite.elevationText ::
        satellite.azimuth.text :: snrField :: closeLast checksum rest := by
  cases rest with
  | nil => exact ⟨_, .inr rfl, rfl⟩
  | cons field rest => exact ⟨_, .inl rfl, rfl⟩

variable [Zero F] {floatOf : JavaString → Option F}

theorem GsvSatellite.shown_cons {satellite : GsvSatellite} {satellites : List GsvSatellite}
    (complete : ¬ satellite.ZeroField) :
    shown (satellite :: satellites) =
      (if satellite.id.value < 2 ^ 31 then [satellite] else []) ++ shown satellites := by
  rw [shown, shown, List.takeWhile_cons_of_pos (by simpa using complete), List.filter_cons]
  simp only [decide_eq_true_eq]
  split_ifs <;> rfl

/-- One turn of the loop. -/
theorem addShown_extends (floatOf : JavaString → Option F) (talker : Talker)
    {satellite : GsvSatellite} (complete : ¬ satellite.ZeroField) (parser : NmeaParser F)
    {number : Int}
    (read : number = if satellite.id.value < 2 ^ 31 then (satellite.id.value : Int) else 0) :
    Extends talker ((if satellite.id.value < 2 ^ 31 then [satellite] else []).map
      (GsvSatellite.info floatOf talker parser.usedIds)) parser
      (if number > 0 then parser.addSatellite talker number (satellite.values floatOf).2.1
        (satellite.values floatOf).2.2.1 (satellite.values floatOf).2.2.2 else parser) := by
  rcases Decidable.em (satellite.id.value < 2 ^ 31) with small | large
  · have positive : satellite.id.value ≠ 0 := fun zero => complete (.inl zero)
    rw [if_pos small] at read
    rw [if_pos small, if_pos (by omega), read]
    exact addSatellite_extends ..
  · rw [if_neg large] at read
    rw [if_neg large, if_neg (by omega)]
    exact Extends.refl

/-- The loop adds the satellites it shows and throws at a field of zeros. -/
theorem parseGSVLoop_spec (ignores : IgnoresZeros floatOf) (checksum : Checksum)
    (satellites : List GsvSatellite) (parser : NmeaParser F) :
    Extends talker ((GsvSatellite.shown satellites).map (GsvSatellite.info floatOf talker parser.usedIds)) parser
      (parser.parseGSVLoop floatOf talker (closeLast checksum (satellites.flatMap GsvSatellite.fields))).1 ∧
    ((parser.parseGSVLoop floatOf talker (closeLast checksum (satellites.flatMap GsvSatellite.fields))).2 = .ok () ↔
      ∀ satellite ∈ satellites, ¬ satellite.ZeroField) := by
  induction satellites generalizing parser with
  | nil =>
    refine ⟨Extends.refl, iff_of_true rfl ?_⟩
    exact fun _ absent => absurd absent List.not_mem_nil
  | cons satellite satellites ih =>
    obtain ⟨snrField, last, values⟩ :=
      closeLast_fields checksum satellite (satellites.flatMap GsvSatellite.fields)
    rw [List.flatMap_cons, values, NmeaParser.parseGSVLoop,
      readSatellite_eq ignores checksum satellite last]
    rcases Decidable.em satellite.ZeroField with zeros | complete
    · rw [if_pos zeros, GsvSatellite.shown, List.takeWhile_cons_of_neg (by simpa using zeros)]
      refine ⟨Extends.refl, iff_of_false nofun fun all => ?_⟩
      exact all satellite List.mem_cons_self zeros
    · have added := addShown_extends floatOf talker complete parser rfl
      obtain ⟨later, returned⟩ := ih _
      rw [added.used] at later
      rw [if_neg complete]
      rw [GsvSatellite.shown_cons complete, List.map_append, List.forall_mem_cons]
      exact ⟨added.trans later, returned.trans (and_iff_right complete).symm⟩

end Loop

/-! ## One sentence -/

section Sentence

variable {F : Type} [Zero F] {floatOf : JavaString → Option F}

/-- Nothing ends the sentence early and its two numbers are written alike. -/
def GsvSentence.Reports (sentence : GsvSentence) : Prop :=
  (∀ satellite ∈ sentence.satellites, ¬ satellite.ZeroField) ∧ sentence.num.text = sentence.seq.text

instance (sentence : GsvSentence) : Decidable sentence.Reports := inferInstanceAs (Decidable (_ ∧ _))

theorem drop_closeLast (checksum : Checksum) (field : JavaString) (fields : List JavaString) :
    (closeLast checksum (field :: fields)).drop 1 = closeLast checksum fields := by
  cases fields with
  | nil => rfl
  | cons next fields => rfl

theorem readHeader_eq {values : List JavaString} {num seq : Numeral}
    (first : values[1]? = some num.text) (second : values[2]? = some seq.text)
    (numPositive : num.value ≠ 0) (seqPositive : seq.value ≠ 0) :
    NmeaParser.readHeader values =
      .ok (if num.value < 2 ^ 31 then (num.value : Int) else 0, if seq.value < 2 ^ 31 then (seq.value : Int) else 0) := by
  simp only [NmeaParser.readHeader, valueAt, first, second, bind, Except.bind, pure, Except.pure,
    parseInt_numeral, numPositive, seqPositive, if_false]

omit [Zero F] in
theorem sendUpdate_spec (values : List JavaString) {complete : Prop} [Decidable complete]
    {result : NmeaParser F × Except JavaException Unit} (returned : result.2 = .ok () ↔ complete) :
    (NmeaParser.andThen result fun parser => (parser.sendUpdate values, .ok ())).1.mSatelInfoList =
        result.1.mSatelInfoList ∧
      (NmeaParser.andThen result fun parser => (parser.sendUpdate values, .ok ())).1.svUpdates =
        result.1.svUpdates + if complete ∧ values.getD 1 [] = values.getD 2 [] then 1 else 0 := by
  obtain ⟨parser, outcome⟩ := result
  cases outcome with
  | error fault =>
    have broken : ¬ complete := fun whole => nomatch returned.mpr whole
    rw [if_neg (broken ∘ And.left)]
    exact ⟨rfl, rfl⟩
  | ok _ =>
    have whole := returned.mp rfl
    simp only [NmeaParser.andThen, NmeaParser.sendUpdate]
    split_ifs with same both both
    · exact ⟨rfl, rfl⟩
    · exact absurd ⟨whole, same⟩ both
    · exact absurd both.2 same
    · exact ⟨rfl, rfl⟩

/-- The talker's satellites when the loop starts. -/
def GsvSentence.base (sentence : GsvSentence) (svlist : List (SatelliteInfo F)) : List (SatelliteInfo F) :=
  if sentence.num.value < 2 ^ 31 ∧ sentence.seq.value = 1 then [] else svlist

omit [Zero F] in
theorem setSatelliteList_base (sentence : GsvSentence) (talker : Talker) (parser : NmeaParser F)
    (numPositive : sentence.num.value ≠ 0) :
    (if (if sentence.num.value < 2 ^ 31 then (sentence.num.value : Int) else 0) > 0 ∧
        (if sentence.seq.value < 2 ^ 31 then (sentence.seq.value : Int) else 0) = 1
      then parser.setSatelliteList talker [] else parser) =
      parser.setSatelliteList talker (sentence.base (parser.mSatelInfoList talker)) := by
  have same : (if sentence.num.value < 2 ^ 31 then (sentence.num.value : Int) else 0) > 0 ∧
      (if sentence.seq.value < 2 ^ 31 then (sentence.seq.value : Int) else 0) = 1 ↔
        sentence.num.value < 2 ^ 31 ∧ sentence.seq.value = 1 := by
    split_ifs <;> omega
  rw [GsvSentence.base]
  rcases Decidable.em (sentence.num.value < 2 ^ 31 ∧ sentence.seq.value = 1) with clears | keeps
  · rw [if_pos clears, if_pos (same.mpr clears)]
  · rw [if_neg keeps, if_neg (keeps ∘ same.mp), NmeaParser.setSatelliteList,
      Function.update_eq_self]

/-- What a sentence leaves behind. -/
theorem parse_sentence (ignores : IgnoresZeros floatOf) (sentence : GsvSentence) (talker : Talker)
    (parser : NmeaParser F) (numPositive : sentence.num.value ≠ 0)
    (seqPositive : sentence.seq.value ≠ 0) :
    (parser.parse floatOf (sentence.record talker)).mSatelInfoList =
        Function.update parser.mSatelInfoList talker (sentence.base (parser.mSatelInfoList talker) ++
          (GsvSatellite.shown sentence.satellites).map
            (GsvSatellite.info floatOf talker ((parser.mUsedFixIdMapList (some talker)).getD []))) ∧
      (parser.parse floatOf (sentence.record talker)).svUpdates =
        parser.svUpdates + if sentence.Reports then 1 else 0 := by
  have each := sentence.fields_fieldChar
  have bare : 44 ∉ header talker gsv := by cases talker <;> decide
  have values := @split_record sentence.checksum talker gsv sentence.fields bare each
  have nonempty : sentence.fields ≠ [] := List.cons_ne_nil _ _
  rw [GsvSentence.record, parse_gsv floatOf parser nonempty each, NmeaParser.parseGSV, values]
  have head := @readHeader_eq (closeLast sentence.checksum (header talker gsv :: sentence.fields))
    sentence.num sentence.seq rfl rfl numPositive seqPositive
  have rest : (closeLast sentence.checksum (header talker gsv :: sentence.fields)).drop 4 =
      closeLast sentence.checksum (sentence.satellites.flatMap GsvSatellite.fields) :=
    drop_closeLast ..
  simp only [head, rest, setSatelliteList_base sentence talker _ numPositive]
  obtain ⟨looped, returned⟩ :=
    @parseGSVLoop_spec F talker _ floatOf ignores sentence.checksum sentence.satellites
    ({ parser with mCurrentTalker := some talker }.setSatelliteList talker (sentence.base (parser.mSatelInfoList talker)))
  obtain ⟨list, messages⟩ :=
    sendUpdate_spec (closeLast sentence.checksum (header talker gsv :: sentence.fields)) returned
  refine ⟨list.trans (looped.list.trans ?_), messages.trans ?_⟩
  · simp only [NmeaParser.setSatelliteList, Function.update_self, Function.update_idem]
    rfl
  · rw [looped.messages]
    rfl

end Sentence

end Mt6582.Ygps

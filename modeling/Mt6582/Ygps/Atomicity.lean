import Mathlib.Data.List.Infix
import Mt6582.Ygps.Location
import Mt6582.Ygps.SkyView

/-! # What a sentence that throws leaves behind

`parse` catches what its sub-parsers throw. `parseRMC` and `parseGGA` have not set anything by then.
`parseGSA` has cleared the used identifiers and the marks, and `parseGSV` has listed the satellites in
front of the one that it cannot read.
-/

namespace Mt6582.Ygps

open Machine

variable {D F L : Type}

/-- A numeral of zeros: `removeFirstZero` runs off its end. -/
def AllZeros (value : JavaString) : Prop := value ≠ [] ∧ ∀ c ∈ value, c = 48

instance (value : JavaString) : Decidable (AllZeros value) := inferInstanceAs (Decidable (_ ∧ _))

/-! ## When a sentence throws -/

/-- The values that the loop of `parseGSA` reads. -/
def idFields (values : List JavaString) : List JavaString := (values.drop 2).take 13

def GsaThrows (values : List JavaString) : Prop :=
  17 ≤ values.length ∧ values.getD 2 [] ≠ [49] ∧ ((∃ value ∈ idFields values, AllZeros value) ∨ values.length = 17)

/-- The number in a field that `parseInt` reads. -/
def idValue (value : JavaString) : Int :=
  match parseInt value with
  | .ok prn => prn
  | .error _ => 0

/-- The identifiers in the fields in front of the first of zeros. -/
def idsBefore (fields : List JavaString) : List Int :=
  ((fields.takeWhile fun value => ¬ AllZeros value).map idValue).filter (· > 0)

/-- The talker has what `parseGSA` stores before it throws. -/
structure StoresGsa (values : List JavaString) (talker : Talker) (parser : NmeaParser F) : Prop where
  used : parser.mUsedFixIdMapList (some talker) = some (idsBefore (idFields values))
  marks : ∀ info ∈ parser.mSatelInfoList talker, info.mUsedInFix = false
  fixtype : (parser.mExtraInfoList talker).mfixtype = values.getD 2 []
  dops : (∀ value ∈ idFields values, ¬ AllZeros value) →
    (parser.mExtraInfoList talker).mPdop = values.getD 15 [] ∧ (parser.mExtraInfoList talker).mHdop = values.getD 16 []

section Satellites

variable [Zero F] (floatOf : JavaString → Option F)

/-- The satellites that the loop reads, up to the first that cannot be read. -/
def readSatellites : List JavaString → List (Int × F × F × F)
  | id :: elevation :: azimuth :: snr :: values =>
      match NmeaParser.readSatellite floatOf id elevation azimuth snr with
      | .error _ => []
      | .ok satellite => satellite :: readSatellites values
  | _ => []

/-- Some satellite cannot be read. -/
def unreadable : List JavaString → Bool
  | id :: elevation :: azimuth :: snr :: values =>
      match NmeaParser.readSatellite floatOf id elevation azimuth snr with
      | .error _ => true
      | .ok _ => unreadable values
  | _ => false

/-- The entries of the satellites with a positive number. -/
def entries (talker : Talker) (usedIds : List Int) (satellites : List (Int × F × F × F)) : List (SatelliteInfo F) :=
  (satellites.filter (·.1 > 0)).map fun satellite =>
    ⟨satellite.1, satellite.2.2.2, satellite.2.1, satellite.2.2.1, decide (satellite.1 ∈ usedIds), checkTalkerColor talker⟩

/-- The talker has what `parseGSV` lists before it throws, if it throws behind its header. -/
def StoresGsv (values : List JavaString) (talker : Talker) (parser : NmeaParser F) : Prop :=
  ∀ mTotalNum mMsgInd, NmeaParser.readHeader values = .ok (mTotalNum, mMsgInd) → unreadable floatOf (values.drop 4) →
    let listed := entries talker ((parser.mUsedFixIdMapList (some talker)).getD []) (readSatellites floatOf (values.drop 4))
    (if mTotalNum > 0 ∧ mMsgInd = 1 then parser.mSatelInfoList talker = listed else listed = []) ∧
      (listed = [] ∨ parser.mUsedFixIdMapList (some talker) ≠ none)

/-- The sentence does not throw, or stores only what is there. -/
def StoresOnly (parser : LocatingParser L F) (record : JavaString) : Prop :=
  match checkKind record, checkTalker record with
  | some .gsa, some talker => GsaThrows (split 44 record) → StoresGsa (split 44 record) talker parser.toNmeaParser
  | some .gsv, some talker => StoresGsv floatOf (split 44 record) talker parser.toNmeaParser
  | _, _ => True

/-- If the sub-parser throws then the records are as before. -/
def Atomic (platform : ParserPlatform D F L) (parser : LocatingParser L F) (record : JavaString) : Prop :=
  ∀ fault, (parser.tryParse platform floatOf record).2 = .error fault →
    SameRecords parser (parser.parse platform floatOf record)

end Satellites

/-! ## `parseGSA` -/

theorem parseInt_eq (value : JavaString) :
    parseInt value = if AllZeros value then .error .indexOutOfBounds else .ok (idValue value) := by
  have zeros : value.dropWhile (· = 48) = [] ↔ ∀ c ∈ value, c = 48 := by
    simp only [List.dropWhile_eq_nil_iff, decide_eq_true_eq]
  rcases Decidable.em (value = []) with rfl | nonempty
  · rfl
  rcases Decidable.em (∀ c ∈ value, c = 48) with all | other
  · rw [if_pos ⟨nonempty, all⟩, parseInt, if_neg nonempty, removeFirstZero_eq,
      if_pos (zeros.mpr all)]
    rfl
  · rw [if_neg fun both => other both.2, idValue, parseInt, if_neg nonempty, removeFirstZero_eq,
      if_neg fun empty => other (zeros.mp empty)]
    simp only [bind, Except.bind]
    cases Machine.parseInt 10 (some (value.dropWhile (· = 48))) <;> rfl

theorem idsBefore_cons_of_zeros {value : JavaString} (zeros : AllZeros value)
    (values : List JavaString) :
    idsBefore (value :: values) = [] := by
  rw [idsBefore, List.takeWhile_cons_of_neg (by simpa using zeros), List.map_nil, List.filter_nil]

theorem idsBefore_cons {value : JavaString} (readable : ¬ AllZeros value)
    (values : List JavaString) :
    idsBefore (value :: values) =
      (if idValue value > 0 then [idValue value] else []) ++ idsBefore values := by
  rw [idsBefore, List.takeWhile_cons_of_pos (by simpa using readable), List.map_cons,
    List.filter_cons]
  simp only [decide_eq_true_eq]
  split_ifs <;> rfl

/-- The current talker's used identifiers are `ids`. -/
def NmeaParser.setUsed (parser : NmeaParser F) (ids : List Int) : NmeaParser F :=
  { parser with mUsedFixIdMapList := Function.update parser.mUsedFixIdMapList parser.mCurrentTalker (some ids) }

theorem addUsedFixId_setUsed (parser : NmeaParser F) (ids : List Int) (prn : Int) :
    (parser.setUsed ids).addUsedFixId prn = parser.setUsed (ids ++ [prn]) := by
  simp only [NmeaParser.addUsedFixId, NmeaParser.setUsed, Function.update_self, Option.getD_some,
    Function.update_idem]

/-- The loop throws at the first field of zeros. -/
theorem addUsedFixIds_eq (parser : NmeaParser F) (fields : List JavaString) (ids : List Int) :
    (parser.setUsed ids).addUsedFixIds fields = (parser.setUsed (ids ++ idsBefore fields),
      if ∃ value ∈ fields, AllZeros value then .error .indexOutOfBounds else .ok ()) := by
  induction fields generalizing ids with
  | nil =>
    rw [if_neg (by rintro ⟨value, absent, -⟩; cases absent), idsBefore, List.takeWhile_nil,
      List.map_nil, List.filter_nil, List.append_nil]
    rfl
  | cons value values ih =>
    rw [NmeaParser.addUsedFixIds, parseInt_eq]
    rcases Decidable.em (AllZeros value) with zeros | readable
    · rw [if_pos zeros, if_pos ⟨value, List.mem_cons_self, zeros⟩, idsBefore_cons_of_zeros zeros,
        List.append_nil]
    · have later : (∃ other ∈ value :: values, AllZeros other) ↔
          ∃ other ∈ values, AllZeros other := by
        simp only [List.exists_mem_cons_iff, readable, false_or]
      rw [if_neg readable, idsBefore_cons readable, ← List.append_assoc, if_congr later rfl rfl]
      split_ifs with positive
      · simp only [if_pos positive, addUsedFixId_setUsed]
        rw [ih, if_pos (by assumption)]
      · simp only [if_pos positive, addUsedFixId_setUsed]
        rw [ih, if_neg (by assumption)]
      · simp only [if_neg positive, List.append_nil]
        rw [ih, if_pos (by assumption)]
      · simp only [if_neg positive, List.append_nil]
        rw [ih, if_neg (by assumption)]

/-- The records as `parseGSA` leaves them when it throws. -/
def afterGsaFault (values : List JavaString) (talker : Talker) (parser : NmeaParser F) : NmeaParser F :=
  let marked := (parser.setExtra talker fun mInfo => { mInfo with mfixtype := values.getD 2 [] }).clearSatelliteList talker
  let looped := { marked with
    mUsedFixIdMapList :=
      Function.update parser.mUsedFixIdMapList (some talker) (some (idsBefore (idFields values))) }
  if ∃ value ∈ idFields values, AllZeros value then looped
  else looped.setExtra talker fun mInfo => { mInfo with mPdop := values.getD 15 [], mHdop := values.getD 16 [] }

theorem setDops_eq (parser : NmeaParser F) (talker : Talker) {values : List JavaString}
    (enough : 17 ≤ values.length) :
    (values.length = 17 → parser.setDops talker values = (parser.setExtra talker fun mInfo =>
      { mInfo with mPdop := values.getD 15 [], mHdop := values.getD 16 [] },
      .error .indexOutOfBounds)) ∧
    (values.length ≠ 17 → (parser.setDops talker values).2 = .ok ()) := by
  constructor
  · intro short
    rw [NmeaParser.setDops, valueAt, List.getElem?_eq_none (by omega)]
    rfl
  · intro long
    rw [NmeaParser.setDops, valueAt, List.getElem?_eq_getElem (by omega)]
    rfl

theorem parseGSA_fault {parser : NmeaParser F} {talker : Talker}
    (current : parser.mCurrentTalker = some talker) (record : JavaString) :
    (GsaThrows (split 44 record) →
      parser.parseGSA record = (afterGsaFault (split 44 record) talker parser, .error .indexOutOfBounds)) ∧
    (¬ GsaThrows (split 44 record) → (parser.parseGSA record).2 = .ok ()) := by
  rcases Decidable.em (17 ≤ (split 44 record).length) with enough | short
  rcases Decidable.em ((split 44 record).getD 2 [] = [49]) with noFix | fix
  · refine ⟨fun throws => absurd noFix throws.2.1, fun _ => ?_⟩
    simp only [NmeaParser.parseGSA, NmeaParser.clearUsedFixList, current, ge_iff_le, enough,
      if_true, noFix]
  · have looped := addUsedFixIds_eq ((parser.setExtra talker fun mInfo =>
      { mInfo with mfixtype := (split 44 record).getD 2 [] }).clearSatelliteList talker) (idFields (split 44 record)) []
    have start : ((parser.clearUsedFixList.setExtra talker fun mInfo =>
        { mInfo with mfixtype := (split 44 record).getD 2 [] }).clearSatelliteList talker) =
        ((parser.setExtra talker fun mInfo =>
          { mInfo with mfixtype := (split 44 record).getD 2 [] }).clearSatelliteList talker).setUsed [] := rfl
    have steps :
        parser.parseGSA record =
        NmeaParser.andThen (((parser.clearUsedFixList.setExtra talker fun mInfo =>
        { mInfo with mfixtype := (split 44 record).getD 2 [] }).clearSatelliteList talker).addUsedFixIds
          (idFields (split 44 record))) fun parser => parser.setDops talker (split 44 record) := by
      simp only [NmeaParser.parseGSA, NmeaParser.clearUsedFixList, current, ge_iff_le, enough,
        if_true, fix, if_false, idFields]
    rw [steps, start, looped, List.nil_append]
    rcases Decidable.em (∃ value ∈ idFields (split 44 record), AllZeros value) with zeros | readable
    · refine ⟨fun _ => ?_, fun never => absurd ⟨enough, fix, .inl zeros⟩ never⟩
      rw [if_pos zeros, afterGsaFault, if_pos zeros, ← current]
      rfl
    · rw [if_neg readable, NmeaParser.andThen]
      rcases Decidable.em ((split 44 record).length = 17) with exact17 | longer
      · refine ⟨fun _ => ?_, fun never => absurd ⟨enough, fix, .inr exact17⟩ never⟩
        rw [(setDops_eq _ talker enough).1 exact17, afterGsaFault, if_neg readable, ← current]
        rfl
      · refine ⟨fun throws => ?_, fun _ => (setDops_eq _ talker enough).2 longer⟩
        rcases throws.2.2 with zeros | exact17
        · exact absurd zeros readable
        · exact absurd exact17 longer
  · refine ⟨fun throws => absurd throws.1 short, fun _ => ?_⟩
    simp only [NmeaParser.parseGSA, NmeaParser.clearUsedFixList, current, ge_iff_le,
      short, if_false]

theorem map_unmark_eq_iff (svlist : List (SatelliteInfo F)) :
    (svlist.map fun sv => { sv with mUsedInFix := false }) = svlist ↔
      ∀ info ∈ svlist, info.mUsedInFix = false := by
  induction svlist with
  | nil => exact iff_of_true rfl fun _ absent => absurd absent List.not_mem_nil
  | cons info svlist ih =>
    rw [List.map_cons, List.cons.injEq, ih, List.forall_mem_cons]
    refine and_congr_left' ?_
    constructor
    · intro same
      rw [← same]
    · obtain ⟨prn, snr, elevation, azimuth, used, color⟩ := info
      rintro rfl
      rfl

/-- The extra information that `parseGSA` leaves when it throws. -/
theorem afterGsaFault_extra (values : List JavaString) (talker : Talker) (parser : NmeaParser F) :
    (afterGsaFault values talker parser).mExtraInfoList =
      Function.update parser.mExtraInfoList talker
      (if ∃ value ∈ idFields values, AllZeros value then
        { parser.mExtraInfoList talker with mfixtype := values.getD 2 [] }
      else { parser.mExtraInfoList talker with
        mfixtype := values.getD 2 [], mPdop := values.getD 15 [], mHdop := values.getD 16 [] }) := by
  rw [afterGsaFault]
  split_ifs
  · rfl
  · simp only [NmeaParser.setExtra, NmeaParser.clearSatelliteList, NmeaParser.setSatelliteList,
      Function.update_self, Function.update_idem]

theorem afterGsaFault_lists (values : List JavaString) (talker : Talker) (parser : NmeaParser F) :
    (afterGsaFault values talker parser).mSatelInfoList =
      Function.update parser.mSatelInfoList talker
        ((parser.mSatelInfoList talker).map fun sv => { sv with mUsedInFix := false }) ∧
      (afterGsaFault values talker parser).mUsedFixIdMapList =
        Function.update parser.mUsedFixIdMapList (some talker) (some (idsBefore (idFields values))) := by
  rw [afterGsaFault]
  split_ifs <;> exact ⟨rfl, rfl⟩

theorem afterGsaFault_same_iff (values : List JavaString) (talker : Talker)
    (parser : NmeaParser F) :
    ((afterGsaFault values talker parser).mSatelInfoList = parser.mSatelInfoList ∧
      (afterGsaFault values talker parser).mUsedFixIdMapList = parser.mUsedFixIdMapList ∧
      (afterGsaFault values talker parser).mExtraInfoList = parser.mExtraInfoList) ↔
        StoresGsa values talker parser := by
  obtain ⟨satellites, used⟩ := afterGsaFault_lists values talker parser
  rw [satellites, used, afterGsaFault_extra, Function.update_eq_self_iff,
    Function.update_eq_self_iff, Function.update_eq_self_iff, map_unmark_eq_iff]
  constructor
  · rintro ⟨marks, ids, extra⟩
    refine ⟨ids.symm, marks, ?_, fun readable => ?_⟩
    · rw [← extra]
      split_ifs <;> rfl
    · rw [if_neg (by rintro ⟨value, member, zeros⟩; exact readable value member zeros)] at extra
      rw [← extra]
      exact ⟨rfl, rfl⟩
  · rintro ⟨ids, marks, fixtype, dops⟩
    refine ⟨marks, ids.symm, ?_⟩
    rw [← fixtype]
    split_ifs with zeros
    · rfl
    · have readable (value : JavaString) (member : value ∈ idFields values) : ¬ AllZeros value :=
        fun allZeros => zeros ⟨value, member, allZeros⟩
      rw [← (dops readable).1, ← (dops readable).2]

/-! ## `parseGSV` -/

section Gsv

/-- `next` has `added` behind the talker's satellites, with the used identifiers put down if there are any. -/
structure Adds (talker : Talker) (added : List (SatelliteInfo F)) (parser next : NmeaParser F) : Prop where
  current : next.mCurrentTalker = parser.mCurrentTalker
  list : next.mSatelInfoList = Function.update parser.mSatelInfoList talker (parser.mSatelInfoList talker ++ added)
  used : next.mUsedFixIdMapList = if added = [] then parser.mUsedFixIdMapList
    else Function.update parser.mUsedFixIdMapList parser.mCurrentTalker (some parser.usedIds)
  extra : next.mExtraInfoList = parser.mExtraInfoList

variable {talker : Talker} {parser next : NmeaParser F}

theorem Adds.refl : Adds talker [] parser parser where
  current := rfl
  list := by rw [List.append_nil, Function.update_eq_self]
  used := (if_pos rfl).symm
  extra := rfl

theorem Adds.usedIds {added : List (SatelliteInfo F)} (adds : Adds talker added parser next) :
    next.usedIds = parser.usedIds := by
  rw [NmeaParser.usedIds, adds.current, adds.used]
  split_ifs
  · rfl
  · rw [Function.update_self]
    rfl

theorem Adds.trans {last : NmeaParser F} {first second : List (SatelliteInfo F)}
    (before : Adds talker first parser next) (after : Adds talker second next last) :
    Adds talker (first ++ second) parser last where
  current := after.current.trans before.current
  list := by
    rw [after.list, before.list, Function.update_self, Function.update_idem, List.append_assoc]
  used := by
    rw [after.used, before.usedIds, before.current, before.used]
    rcases first with _ | ⟨info, first⟩
    · rw [List.nil_append]
      rfl
    · rw [if_neg (List.cons_ne_nil _ _),
        if_neg (List.append_ne_nil_of_left_ne_nil (List.cons_ne_nil _ _) _),
        Function.update_idem, ite_self]
  extra := after.extra.trans before.extra

theorem addSatellite_adds (parser : NmeaParser F) (talker : Talker) (prn : Int)
    (elevation azimuth snr : F) :
    Adds talker [⟨prn, snr, elevation, azimuth, decide (prn ∈ parser.usedIds), checkTalkerColor talker⟩] parser
      (parser.addSatellite talker prn elevation azimuth snr) := by
  cases stored : parser.mUsedFixIdMapList parser.mCurrentTalker with
  | none =>
    rw [NmeaParser.addSatellite, NmeaParser.isUsedInFix, NmeaParser.usedIds, stored]
    exact ⟨rfl, rfl, by rw [if_neg (List.cons_ne_nil _ _), NmeaParser.usedIds, stored]; rfl, rfl⟩
  | some usedFixIdList =>
    have same :
        Function.update parser.mUsedFixIdMapList parser.mCurrentTalker (some usedFixIdList) =
        parser.mUsedFixIdMapList := by rw [← stored, Function.update_eq_self]
    rw [NmeaParser.addSatellite, NmeaParser.isUsedInFix, NmeaParser.usedIds, stored]
    refine ⟨rfl, rfl, ?_, rfl⟩
    rw [if_neg (List.cons_ne_nil _ _), NmeaParser.usedIds, stored, Option.getD_some, same]
    rfl

theorem entries_cons (talker : Talker) (usedIds : List Int) (satellite : Int × F × F × F)
    (satellites : List (Int × F × F × F)) :
    entries talker usedIds (satellite :: satellites) =
      entries talker usedIds [satellite] ++ entries talker usedIds satellites := by
  rw [entries, entries, entries, ← List.map_append, ← List.filter_append]
  rfl

theorem addEntry_adds (parser : NmeaParser F) (talker : Talker) (satellite : Int × F × F × F) :
    Adds talker (entries talker parser.usedIds [satellite]) parser
      (if satellite.1 > 0 then parser.addSatellite talker satellite.1 satellite.2.1 satellite.2.2.1 satellite.2.2.2
        else parser) := by
  rw [entries, List.filter_cons, List.filter_nil]
  simp only [decide_eq_true_eq]
  split_ifs
  · exact addSatellite_adds ..
  · exact Adds.refl

/-- The old list may have been cleared first. -/
theorem Adds.same_iff {clears : Prop} [Decidable clears] {listed : List (SatelliteInfo F)}
    (current : parser.mCurrentTalker = some talker)
    (adds : Adds talker listed (if clears then parser.setSatelliteList talker [] else parser) next) :
    (next.mSatelInfoList = parser.mSatelInfoList ∧ next.mUsedFixIdMapList = parser.mUsedFixIdMapList ∧
        next.mExtraInfoList = parser.mExtraInfoList) ↔
      (if clears then parser.mSatelInfoList talker = listed else listed = []) ∧
        (listed = [] ∨ parser.mUsedFixIdMapList (some talker) ≠ none) := by
  obtain ⟨-, list, used, extra⟩ := adds
  have lists : next.mSatelInfoList = parser.mSatelInfoList ↔
      if clears then parser.mSatelInfoList talker = listed else listed = [] := by
    rw [list]
    split_ifs
    · simp only [NmeaParser.setSatelliteList, Function.update_self, Function.update_idem,
        Function.update_eq_self_iff, List.nil_append]
      exact eq_comm
    · rw [Function.update_eq_self_iff, List.append_right_eq_self]
  have known : next.mUsedFixIdMapList = parser.mUsedFixIdMapList ↔
      listed = [] ∨ parser.mUsedFixIdMapList (some talker) ≠ none := by
    have same : (if clears then parser.setSatelliteList talker [] else parser).mUsedFixIdMapList =
          parser.mUsedFixIdMapList ∧
        (if clears then parser.setSatelliteList talker [] else parser).mCurrentTalker = some talker := by
      split_ifs <;> exact ⟨rfl, current⟩
    rw [used, NmeaParser.usedIds, same.1, same.2]
    cases stored : parser.mUsedFixIdMapList (some talker) with
    | none =>
      rcases listed with _ | ⟨info, listed⟩
      · exact iff_of_true (if_pos rfl) (.inl rfl)
      · rw [if_neg (List.cons_ne_nil _ _), Function.update_eq_self_iff, stored]
        exact iff_of_false (Option.some_ne_none _) fun either =>
          either.elim (List.cons_ne_nil _ _) fun absent => absent rfl
    | some ids =>
      refine iff_of_true ?_ (.inr (Option.some_ne_none ids))
      split_ifs
      · rfl
      · rw [Function.update_eq_self_iff, stored]
        rfl
  have extras : next.mExtraInfoList = parser.mExtraInfoList := by
    rw [extra]
    split_ifs <;> rfl
  rw [lists, known]
  exact and_congr_right' (and_iff_left extras)

variable [Zero F] (floatOf : JavaString → Option F)

/-- The loop adds what it reads and throws at the first satellite that cannot be read. -/
theorem parseGSVLoop_adds (parser : NmeaParser F) (values : List JavaString) :
    Adds talker (entries talker parser.usedIds (readSatellites floatOf values)) parser
        (parser.parseGSVLoop floatOf talker values).1 ∧
      if unreadable floatOf values then ∃ fault,
        (parser.parseGSVLoop floatOf talker values).2 = .error fault
      else (parser.parseGSVLoop floatOf talker values).2 = .ok () := by
  induction values using readSatellites.induct floatOf generalizing parser with
  | case1 id elevation azimuth snr values fault unread =>
    rw [readSatellites, unreadable, NmeaParser.parseGSVLoop, unread]
    exact ⟨Adds.refl, fault, rfl⟩
  | case2 id elevation azimuth snr values satellite read ih =>
    obtain ⟨number, elevation', azimuth', snr'⟩ := satellite
    rw [readSatellites, unreadable, NmeaParser.parseGSVLoop, read, entries_cons]
    have added := addEntry_adds parser talker (number, elevation', azimuth', snr')
    obtain ⟨adds, outcome⟩ :=
      ih (if number > 0 then parser.addSatellite talker number elevation' azimuth' snr' else parser)
    rw [added.usedIds] at adds
    exact ⟨added.trans adds, outcome⟩
  | case3 values short =>
    have none : readSatellites floatOf values = [] := by
      rw [readSatellites]
      exact short
    have readable : unreadable floatOf values = false := by
      rw [unreadable]
      exact short
    have left : parser.parseGSVLoop floatOf talker values = (parser, .ok ()) := by
      rw [NmeaParser.parseGSVLoop]
      exact short
    rw [none, readable, left]
    exact ⟨Adds.refl, rfl⟩

variable {floatOf}

omit [Zero F] in
theorem andThen_of_ok {result : NmeaParser F × Except JavaException Unit}
    {next : NmeaParser F → NmeaParser F × Except JavaException Unit} (ok : result.2 = .ok ()) :
    NmeaParser.andThen result next = next result.1 := by
  obtain ⟨parser, outcome⟩ := result
  cases ok
  rfl

omit [Zero F] in
theorem andThen_of_error {result : NmeaParser F × Except JavaException Unit} {fault : JavaException}
    {next : NmeaParser F → NmeaParser F × Except JavaException Unit}
    (error : result.2 = .error fault) :
    NmeaParser.andThen result next = result := by
  obtain ⟨parser, outcome⟩ := result
  cases error
  rfl

theorem parseGSV_same_iff (current : parser.mCurrentTalker = some talker) (record : JavaString) :
    (∀ fault, (parser.parseGSV floatOf record).2 = .error fault →
      (parser.parseGSV floatOf record).1.mSatelInfoList = parser.mSatelInfoList ∧
        (parser.parseGSV floatOf record).1.mUsedFixIdMapList = parser.mUsedFixIdMapList ∧
        (parser.parseGSV floatOf record).1.mExtraInfoList = parser.mExtraInfoList) ↔
    StoresGsv floatOf (split 44 record) talker parser := by
  rw [NmeaParser.parseGSV, current]
  cases header : NmeaParser.readHeader (split 44 record) with
  | error fault =>
    refine iff_of_true (fun _ _ => ⟨rfl, rfl, rfl⟩) fun mTotalNum mMsgInd read => ?_
    rw [header] at read
    cases read
  | ok numbers =>
    obtain ⟨mTotalNum, mMsgInd⟩ := numbers
    obtain ⟨adds, outcome⟩ := @parseGSVLoop_adds F talker _ floatOf
      (if mTotalNum > 0 ∧ mMsgInd = 1 then parser.setSatelliteList talker [] else parser) ((split 44 record).drop 4)
    cases torn : unreadable floatOf ((split 44 record).drop 4) with
    | false =>
      rw [torn] at outcome
      refine iff_of_true (fun fault thrown => ?_) fun _ _ _ read => ?_
      · simp only [andThen_of_ok outcome] at thrown
        cases thrown
      · rw [torn] at read
        cases read
    | true =>
      rw [torn] at outcome
      obtain ⟨fault, thrown⟩ := outcome
      have base :
          (if mTotalNum > 0 ∧ mMsgInd = 1 then parser.setSatelliteList talker [] else parser).usedIds =
          (parser.mUsedFixIdMapList (some talker)).getD [] := by
        rw [← current]
        split_ifs <;> rfl
      rw [base] at adds
      have same := adds.same_iff current
      simp only [andThen_of_error thrown]
      constructor
      · intro kept _ _ numbers _
        rw [header] at numbers
        cases numbers
        exact same.mp (kept fault thrown)
      · intro stores _ _
        exact same.mpr (stores mTotalNum mMsgInd header torn)

end Gsv

/-! ## The four kinds together -/

section Parse

variable (platform : ParserPlatform D F L) {parser : LocatingParser L F} {record : JavaString}

/-- What is thrown is thrown before the first value is set. -/
theorem parseRMC_fault {fault : JavaException}
    (thrown : (parser.parseRMC platform record).2 = .error fault) :
    (parser.parseRMC platform record).1 = parser := by
  rw [LocatingParser.parseRMC] at thrown ⊢
  cases read : readRMC platform.toDoubles (split 44 record) with
  | error _ => rfl
  | ok values =>
    rw [read] at thrown
    dsimp only at thrown ⊢
    cases current : parser.mCurrentTalker with
    | none => rfl
    | some talker =>
      rw [current] at thrown
      dsimp only at thrown
      split_ifs at thrown

theorem parseGGA_fault {fault : JavaException}
    (thrown : (parser.parseGGA platform record).2 = .error fault) :
    (parser.parseGGA platform record).1 = parser := by
  rw [LocatingParser.parseGGA] at thrown ⊢
  cases read : readGGA platform.toDoubles (split 44 record) with
  | error _ => rfl
  | ok values =>
    rw [read] at thrown
    dsimp only at thrown ⊢
    cases current : parser.mCurrentTalker with
    | none => rfl
    | some talker =>
      rw [current] at thrown
      cases thrown

theorem parseGSA_same_iff {satellites : NmeaParser F} {talker : Talker}
    (current : satellites.mCurrentTalker = some talker) (record : JavaString) :
    (∀ fault, (satellites.parseGSA record).2 = .error fault →
      (satellites.parseGSA record).1.mSatelInfoList = satellites.mSatelInfoList ∧
        (satellites.parseGSA record).1.mUsedFixIdMapList = satellites.mUsedFixIdMapList ∧
        (satellites.parseGSA record).1.mExtraInfoList = satellites.mExtraInfoList) ↔
    (GsaThrows (split 44 record) → StoresGsa (split 44 record) talker satellites) := by
  obtain ⟨throws, returns⟩ := parseGSA_fault current record
  constructor
  · intro kept thrown
    rw [throws thrown] at kept
    exact (afterGsaFault_same_iff _ talker satellites).mp (kept _ rfl)
  · intro stores fault error
    rcases Classical.em (GsaThrows (split 44 record)) with thrown | complete
    · rw [throws thrown]
      exact (afterGsaFault_same_iff _ talker satellites).mpr (stores thrown)
    · rw [returns complete] at error
      cases error

theorem onSatellites_same_iff (current : Option Talker)
    (step : NmeaParser F → NmeaParser F × Except JavaException Unit) :
    (∀ fault, ({ parser with mCurrentTalker := current }.onSatellites step).2 = .error fault →
      SameRecords parser ({ parser with mCurrentTalker := current }.onSatellites step).1) ↔
    ∀ fault, (step { parser.toNmeaParser with mCurrentTalker := current }).2 = .error fault →
      (step { parser.toNmeaParser with mCurrentTalker := current }).1.mSatelInfoList = parser.mSatelInfoList ∧
        (step { parser.toNmeaParser with mCurrentTalker := current }).1.mUsedFixIdMapList = parser.mUsedFixIdMapList ∧
        (step { parser.toNmeaParser with mCurrentTalker := current }).1.mExtraInfoList =
          parser.mExtraInfoList := by
  refine forall_congr' fun fault => imp_congr_right fun _ => ⟨fun same => ?_, fun same => ?_⟩
  · exact ⟨same.satellites, same.used, same.extra⟩
  · exact ⟨same.1, same.2.1, same.2.2, rfl⟩

/-- It does not matter whose sentence it was. -/
theorem storesGsa_current {values : List JavaString} {talker : Talker} {satellites : NmeaParser F}
    (current : Option Talker) :
    StoresGsa values talker { satellites with mCurrentTalker := current } ↔
      StoresGsa values talker satellites :=
  ⟨fun stores => ⟨stores.used, stores.marks, stores.fixtype, stores.dops⟩,
    fun stores => ⟨stores.used, stores.marks, stores.fixtype, stores.dops⟩⟩

/-- Without a talker the sentence is not used. -/
theorem parseGSA_noTalker {satellites : NmeaParser F} (current : satellites.mCurrentTalker = none)
    (record : JavaString) :
    (satellites.parseGSA record).2 = .ok () := by
  simp only [NmeaParser.parseGSA, NmeaParser.clearUsedFixList, current]

variable [Zero F] (floatOf : JavaString → Option F)

theorem parse_atomic_iff (parser : LocatingParser L F) (record : JavaString) :
    Atomic floatOf platform parser record ↔ StoresOnly floatOf parser record := by
  rw [Atomic, StoresOnly, LocatingParser.parse, LocatingParser.tryParse]
  cases checkKind record with
  | none =>
    refine iff_of_true (fun fault thrown => ?_) trivial
    cases thrown
  | some kind =>
    cases kind with
    | rmc =>
      refine iff_of_true (fun fault thrown => ?_) trivial
      dsimp only [LocatingParser.subParser] at thrown ⊢
      rw [parseRMC_fault platform thrown]
      exact ⟨rfl, rfl, rfl, rfl⟩
    | gga =>
      refine iff_of_true (fun fault thrown => ?_) trivial
      dsimp only [LocatingParser.subParser] at thrown ⊢
      rw [parseGGA_fault platform thrown]
      exact ⟨rfl, rfl, rfl, rfl⟩
    | gsa =>
      cases current : checkTalker record with
      | none =>
        refine iff_of_true (fun fault thrown => ?_) trivial
        cases thrown.symm.trans (parseGSA_noTalker rfl record)
      | some talker =>
        refine (onSatellites_same_iff (some talker) fun satellites => satellites.parseGSA record).trans ?_
        refine (@parseGSA_same_iff F { parser.toNmeaParser with mCurrentTalker := some talker } talker rfl record).trans ?_
        exact imp_congr_right fun _ => storesGsa_current (some talker)
    | gsv =>
      cases current : checkTalker record with
      | none =>
        refine iff_of_true (fun fault thrown => ?_) trivial
        cases thrown
      | some talker =>
        refine (onSatellites_same_iff (some talker) fun satellites => satellites.parseGSV floatOf record).trans ?_
        exact @parseGSV_same_iff F talker { parser.toNmeaParser with mCurrentTalker := some talker } _ floatOf rfl record

end Parse

/-- Two satellites, the second at the horizon. -/
def tornSentence : JavaString := javaLit "$GPGSV,1,1,02,05,45,090,30,07,00,120,25*76".toList

/-- The first satellite is listed and the second throws. -/
theorem tornSentence_not_atomic : ¬ Atomic wholeNumber wholePlatform (LocatingParser.new wholePlatform) tornSentence := by
  intro atomic
  have thrown :
      (LocatingParser.tryParse wholePlatform wholeNumber (LocatingParser.new wholePlatform) tornSentence).2 =
    .error .indexOutOfBounds := by decide
  have same := (atomic .indexOutOfBounds thrown).satellites
  exact absurd (congrArg (fun lists => (lists Talker.gp).length) same) (by decide)

end Mt6582.Ygps

import Mt6582.Ygps.Location
import Mt6582.Ygps.NmeaRecord

/-! # Which talker and which sub-parser a sentence goes to

`parse` looks for the names of the talkers and of the kinds anywhere in the sentence. A step of a
sub-parser changes the records of the current talker only.
-/

namespace Mt6582.Ygps

open Machine

variable {D F L : Type}

/-- `next` differs from `parser` in the records of one talker at most. -/
structure OnlyUnder (talker : Talker) (parser next : LocatingParser L F) : Prop where
  satellites : ∀ other, other ≠ talker → next.mSatelInfoList other = parser.mSatelInfoList other
  used : ∀ other, other ≠ some talker → next.mUsedFixIdMapList other = parser.mUsedFixIdMapList other
  extra : ∀ other, other ≠ talker → next.mExtraInfoList other = parser.mExtraInfoList other
  locations : ∀ other, other ≠ talker → next.mLocRecord other = parser.mLocRecord other

/-! ## The steps of the sub-parsers -/

section Steps

/-- The satellites, used identifiers and extra information of the other talkers stay. -/
structure Within (talker : Talker) (parser next : NmeaParser F) : Prop where
  current : next.mCurrentTalker = some talker
  satellites : ∀ other, other ≠ talker → next.mSatelInfoList other = parser.mSatelInfoList other
  used : ∀ other, other ≠ some talker → next.mUsedFixIdMapList other = parser.mUsedFixIdMapList other
  extra : ∀ other, other ≠ talker → next.mExtraInfoList other = parser.mExtraInfoList other

variable {talker : Talker} {parser next last : NmeaParser F}

theorem Within.refl (current : parser.mCurrentTalker = some talker) :
    Within talker parser parser where
  current := current
  satellites _ _ := rfl
  used _ _ := rfl
  extra _ _ := rfl

theorem Within.trans (before : Within talker parser next) (after : Within talker next last) :
    Within talker parser last where
  current := after.current
  satellites other different :=
    (after.satellites other different).trans (before.satellites other different)
  used other different := (after.used other different).trans (before.used other different)
  extra other different := (after.extra other different).trans (before.extra other different)

variable (current : parser.mCurrentTalker = some talker)

include current

theorem setUsedFixIds_within (ids : Option (List Int)) :
    Within talker parser { parser with
      mUsedFixIdMapList := Function.update parser.mUsedFixIdMapList parser.mCurrentTalker ids } where
  current := current
  satellites _ _ := rfl
  used other different := by
    rw [current]
    exact Function.update_of_ne different _ _
  extra _ _ := rfl

theorem setSatelliteList_within (svlist : List (SatelliteInfo F)) :
    Within talker parser (parser.setSatelliteList talker svlist) where
  current := current
  satellites _ different := Function.update_of_ne different _ _
  used _ _ := rfl
  extra _ _ := rfl

theorem setExtra_within (change : SVExtraInfro → SVExtraInfro) :
    Within talker parser (parser.setExtra talker change) where
  current := current
  satellites _ _ := rfl
  used _ _ := rfl
  extra _ different := Function.update_of_ne different _ _

theorem addUsedFixIds_within (values : List JavaString) :
    Within talker parser (parser.addUsedFixIds values).1 := by
  induction values generalizing parser with
  | nil => exact Within.refl current
  | cons value values ih =>
    rw [NmeaParser.addUsedFixIds]
    cases parseInt value with
    | error fault => exact Within.refl current
    | ok prn =>
      dsimp only
      split_ifs
      · have added := setUsedFixIds_within current
          (some ((parser.mUsedFixIdMapList parser.mCurrentTalker).getD [] ++ [prn]))
        exact added.trans (ih added.current)
      · exact ih current

theorem setDops_within (values : List JavaString) :
    Within talker parser (parser.setDops talker values).1 := by
  have first := setExtra_within current fun mInfo =>
    { mInfo with mPdop := values.getD 15 [], mHdop := values.getD 16 [] }
  rw [NmeaParser.setDops]
  cases valueAt values 17 with
  | error fault => exact first
  | ok vdop =>
    exact first.trans (setExtra_within first.current fun mInfo => { mInfo with mVdop := vdop })

omit current in
theorem andThen_within {result : NmeaParser F × Except JavaException Unit}
    {rest : NmeaParser F → NmeaParser F × Except JavaException Unit}
    (before : Within talker parser result.1)
    (after : ∀ next : NmeaParser F, next.mCurrentTalker = some talker → Within talker next (rest next).1) :
    Within talker parser (NmeaParser.andThen result rest).1 := by
  obtain ⟨next, outcome⟩ := result
  cases outcome with
  | error fault => exact before
  | ok _ => exact before.trans (after next before.current)

theorem parseGSA_within (record : JavaString) :
    Within talker parser (parser.parseGSA record).1 := by
  have cleared : Within talker parser parser.clearUsedFixList :=
    setUsedFixIds_within current (some [])
  have unmarked (next : NmeaParser F) (same : next.mCurrentTalker = some talker) :
      Within talker next (next.clearSatelliteList talker) := setSatelliteList_within same _
  rw [NmeaParser.parseGSA]
  simp only [cleared.current]
  split_ifs
  · exact cleared.trans (unmarked _ cleared.current)
  · have typed := cleared.trans (setExtra_within cleared.current fun mInfo =>
      { mInfo with mfixtype := (split 44 record).getD 2 [] })
    have ready := typed.trans (unmarked _ typed.current)
    exact andThen_within (ready.trans (addUsedFixIds_within ready.current _)) fun next same =>
      setDops_within same _
  · exact cleared.trans (unmarked _ cleared.current)

theorem addSatellite_within (prn : Int) (elevation azimuth snr : F) :
    Within talker parser (parser.addSatellite talker prn elevation azimuth snr) := by
  have looked : Within talker parser (parser.isUsedInFix prn).2 := by
    rw [NmeaParser.isUsedInFix]
    cases parser.mUsedFixIdMapList parser.mCurrentTalker with
    | none => exact setUsedFixIds_within current (some [])
    | some usedFixIdList => exact Within.refl current
  exact looked.trans (setSatelliteList_within looked.current _)

variable [Zero F] (floatOf : JavaString → Option F)

theorem parseGSVLoop_within (values : List JavaString) :
    Within talker parser (parser.parseGSVLoop floatOf talker values).1 := by
  fun_induction NmeaParser.parseGSVLoop floatOf talker parser values with
  | case1 parser id elevation azimuth snr values fault unread => exact Within.refl current
  | case2 parser id elevation azimuth snr values number elevation' azimuth' snr' read ih =>
    have added : Within talker parser
        (if number > 0 then parser.addSatellite talker number elevation' azimuth' snr' else parser) := by
      split_ifs
      · exact addSatellite_within current number elevation' azimuth' snr'
      · exact Within.refl current
    exact added.trans (ih added.current)
  | case3 parser values short => exact Within.refl current

theorem parseGSV_within (record : JavaString) :
    Within talker parser (parser.parseGSV floatOf record).1 := by
  rw [NmeaParser.parseGSV]
  simp only [current]
  cases NmeaParser.readHeader (split 44 record) with
  | error fault => exact Within.refl current
  | ok numbers =>
    have start : Within talker parser
        (if numbers.1 > 0 ∧ numbers.2 = 1 then parser.setSatelliteList talker [] else parser) := by
      split_ifs
      · exact setSatelliteList_within current []
      · exact Within.refl current
    refine andThen_within (start.trans (parseGSVLoop_within start.current floatOf _)) fun next same => ?_
    rw [NmeaParser.sendUpdate]
    split_ifs
    · exact ⟨same, fun _ _ => rfl, fun _ _ => rfl, fun _ _ => rfl⟩
    · exact Within.refl same

end Steps

/-! ## The searches -/

section Searches

/-- A sentence with whatever stands behind its first comma. -/
def sentence (talker : Talker) (kind : Kind) (fields : JavaString) : JavaString :=
  header talker kind.text ++ 44 :: fields

variable {talker : Talker} {kind : Kind} {fields : JavaString} (noG : 71 ∉ fields) (noR : 82 ∉ fields)

theorem contains_sentence {c : UInt16} {pattern : JavaString} (bare : 44 ∉ c :: pattern)
    (absent : c ∉ fields) :
    contains (sentence talker kind fields) (c :: pattern) =
      contains (header talker kind.text) (c :: pattern) := by
  rw [contains, contains, decide_eq_decide]
  exact infix_append_comma_iff bare absent

include noG noR in
theorem checkKind_sentence : checkKind (sentence talker kind fields) = some kind := by
  have same : checkKind (sentence talker kind fields) = checkKind (header talker kind.text) := by
    refine congrArg (List.find? · kinds) (funext fun other => ?_)
    cases other with
    | rmc => exact contains_sentence (by decide) noR
    | gsa => exact contains_sentence (by decide) noG
    | gga => exact contains_sentence (by decide) noG
    | gsv => exact contains_sentence (by decide) noG
  rw [same]
  cases talker <;> cases kind <;> decide

/-- The talker that a sentence is taken for: the end of `BD` and the start of `GGA` have `GA` between them. -/
def takenFor (talker : Talker) (kind : Kind) : Talker := if talker = .bd ∧ kind = .gga then .ga else talker

include noG in
theorem checkTalker_sentence :
    checkTalker (sentence talker kind fields) = some (takenFor talker kind) := by
  have early (other : Talker) (notLast : other ≠ .bd) :
      contains (sentence talker kind fields) other.text =
        contains (header talker kind.text) other.text := by
    cases other with
    | bd => exact absurd rfl notLast
    | gp => exact contains_sentence (by decide) noG
    | gl => exact contains_sentence (by decide) noG
    | ga => exact contains_sentence (by decide) noG
  have last : contains (sentence .bd kind fields) (Talker.text .bd) = true := by
    apply decide_eq_true
    exact ⟨[36], kind.text ++ 44 :: fields, by simp [sentence, header]⟩
  rw [checkTalker, mTalker, List.find?_cons, List.find?_cons, List.find?_cons, List.find?_cons,
    early .gp (by decide), early .gl (by decide), early .ga (by decide)]
  cases talker with
  | bd =>
    rw [last]
    cases kind <;> rfl
  | gp => cases kind <;> rfl
  | gl => cases kind <;> rfl
  | ga => cases kind <;> rfl

end Searches

/-! ## The whole sentence -/

section Dispatch

theorem SameRecords.refl (parser : LocatingParser L F) : SameRecords parser parser :=
  ⟨rfl, rfl, rfl, rfl⟩

theorem OnlyUnder.refl (talker : Talker) (parser : LocatingParser L F) :
    OnlyUnder talker parser parser where
  satellites _ _ := rfl
  used _ _ := rfl
  extra _ _ := rfl
  locations _ _ := rfl

theorem setLocation_onlyUnder (parser : LocatingParser L F) (talker : Talker)
    (change : L → L) :
    OnlyUnder talker parser (parser.setLocation talker change) where
  satellites _ _ := rfl
  used _ _ := rfl
  extra _ _ := rfl
  locations _ different := parser.setLocation_of_ne different change

theorem onSatellites_onlyUnder {talker : Talker} {parser : LocatingParser L F}
    {step : NmeaParser F → NmeaParser F × Except JavaException Unit}
    (within : Within talker parser.toNmeaParser (step parser.toNmeaParser).1) :
    OnlyUnder talker parser (parser.onSatellites step).1 where
  satellites := within.satellites
  used := within.used
  extra := within.extra
  locations _ _ := rfl

variable (platform : ParserPlatform D F L) {talker : Talker} {parser : LocatingParser L F}

theorem parseRMC_onlyUnder (current : parser.mCurrentTalker = some talker) (record : JavaString) :
    OnlyUnder talker parser (parser.parseRMC platform record).1 := by
  rw [LocatingParser.parseRMC, current]
  cases readRMC platform.toDoubles (split 44 record) with
  | error fault => exact OnlyUnder.refl talker parser
  | ok values =>
    dsimp only
    split_ifs
    · exact setLocation_onlyUnder parser talker _
    · exact OnlyUnder.refl talker parser

theorem parseGGA_onlyUnder (current : parser.mCurrentTalker = some talker) (record : JavaString) :
    OnlyUnder talker parser (parser.parseGGA platform record).1 := by
  rw [LocatingParser.parseGGA, current]
  cases readGGA platform.toDoubles (split 44 record) with
  | error fault => exact OnlyUnder.refl talker parser
  | ok values => exact setLocation_onlyUnder parser talker (values.apply platform)

variable [Zero F] (floatOf : JavaString → Option F)

theorem subParser_onlyUnder (current : parser.mCurrentTalker = some talker) (kind : Kind)
    (record : JavaString) :
    OnlyUnder talker parser (LocatingParser.subParser platform floatOf kind parser record).1 := by
  cases kind with
  | rmc => exact parseRMC_onlyUnder platform current record
  | gsa => exact onSatellites_onlyUnder (parseGSA_within current record)
  | gga => exact parseGGA_onlyUnder platform current record
  | gsv => exact onSatellites_onlyUnder (parseGSV_within current floatOf record)

/-- Only the talker's records change, and they become what the kind's sub-parser makes of them. -/
structure Dispatched (talker : Talker) (kind : Kind) (fields : JavaString) (parser : LocatingParser L F) : Prop where
  frame : OnlyUnder talker parser (parser.parse platform floatOf (sentence talker kind fields))
  records : SameRecords
    ({ parser with mCurrentTalker := some talker }.subParser platform floatOf kind (sentence talker kind fields)).1
    (parser.parse platform floatOf (sentence talker kind fields))

/-- The position in the sentence, if there is one, is already that of the talker. -/
def KnowsPosition (fields : JavaString) (parser : LocatingParser L F) (known : Talker) : Prop :=
  ∀ values, readGGA platform.toDoubles (split 44 (sentence .bd .gga fields)) = .ok values →
    values.apply platform (parser.mLocRecord known) = parser.mLocRecord known

theorem parse_sentence_eq (kind : Kind) {fields : JavaString} (noG : 71 ∉ fields)
    (noR : 82 ∉ fields) (parser : LocatingParser L F) :
    parser.parse platform floatOf (sentence talker kind fields) =
      ({ parser with mCurrentTalker := some (takenFor talker kind) }.subParser platform floatOf kind
        (sentence talker kind fields)).1 := by
  rw [LocatingParser.parse, LocatingParser.tryParse, checkTalker_sentence noG,
    checkKind_sentence noG noR]

theorem parseGGA_bd_dispatched_iff {fields : JavaString} (noG : 71 ∉ fields) (noR : 82 ∉ fields)
    (parser : LocatingParser L F) :
    Dispatched platform floatOf .bd .gga fields parser ↔
      KnowsPosition platform fields parser .ga ∧ KnowsPosition platform fields parser .bd := by
  have parsed := @parse_sentence_eq D F L platform .bd _ floatOf .gga fields noG noR parser
  have under (current : Talker) (values : GgaValues D)
      (read : readGGA platform.toDoubles (split 44 (sentence .bd .gga fields)) = .ok values) :
      ({ parser with mCurrentTalker := some current }.subParser platform floatOf .gga (sentence .bd .gga fields)).1 =
        { parser with mCurrentTalker := some current }.setLocation current (values.apply platform) := by
    rw [LocatingParser.subParser, LocatingParser.parseGGA, read]
  rw [show takenFor .bd .gga = .ga from rfl] at parsed
  constructor
  · rintro ⟨frame, records⟩
    refine ⟨fun values read => ?_, fun values read => ?_⟩
    · have kept := frame.locations .ga (by decide)
      rw [parsed, under .ga values read, LocatingParser.setLocation_self] at kept
      exact kept
    · have kept := congrFun records.locations .bd
      have different : Talker.bd ≠ .ga := by decide
      rw [parsed, under .ga values read, under .bd values read, LocatingParser.setLocation_self,
        LocatingParser.setLocation_of_ne _ different] at kept
      exact kept.symm
  · rintro ⟨ga, bd⟩
    cases read : readGGA platform.toDoubles (split 44 (sentence .bd .gga fields)) with
    | error fault =>
      have torn (current : Talker) :
          ({ parser with mCurrentTalker := some current }.subParser platform floatOf .gga (sentence .bd .gga fields)).1 =
            { parser with mCurrentTalker := some current } := by
        rw [LocatingParser.subParser, LocatingParser.parseGGA, read]
      refine ⟨?_, ?_⟩
      · rw [parsed, torn]
        exact ⟨fun _ _ => rfl, fun _ _ => rfl, fun _ _ => rfl, fun _ _ => rfl⟩
      · rw [parsed, torn, torn]
        exact ⟨rfl, rfl, rfl, rfl⟩
    | ok values =>
      have stays (current : Talker) (known : values.apply platform (parser.mLocRecord current) = parser.mLocRecord current) :
          ({ parser with mCurrentTalker := some current }.subParser platform floatOf .gga
            (sentence .bd .gga fields)).1 = { parser with mCurrentTalker := some current } := by
        have same :
            Function.update parser.mLocRecord current (values.apply platform (parser.mLocRecord current)) =
            parser.mLocRecord := by rw [known, Function.update_eq_self]
        rw [under current values read, LocatingParser.setLocation, same]
      refine ⟨?_, ?_⟩
      · rw [parsed, stays .ga (ga values read)]
        exact ⟨fun _ _ => rfl, fun _ _ => rfl, fun _ _ => rfl, fun _ _ => rfl⟩
      · rw [parsed, stays .ga (ga values read), stays .bd (bd values read)]
        exact ⟨rfl, rfl, rfl, rfl⟩

/-- Every sentence goes to its talker and kind, but for the positions of `BD`. -/
theorem dispatched_iff (talker : Talker) (kind : Kind) {fields : JavaString} (noG : 71 ∉ fields) (noR : 82 ∉ fields)
    (parser : LocatingParser L F) :
    Dispatched platform floatOf talker kind fields parser ↔
      (talker = .bd → kind = .gga →
        KnowsPosition platform fields parser .ga ∧ KnowsPosition platform fields parser .bd) := by
  rcases Decidable.em (talker = .bd ∧ kind = .gga) with ⟨rfl, rfl⟩ | other
  · rw [parseGGA_bd_dispatched_iff platform floatOf noG noR]
    exact ⟨fun known _ _ => known, fun known => known rfl rfl⟩
  · have parsed := @parse_sentence_eq D F L platform talker _ floatOf kind fields noG noR parser
    rw [takenFor, if_neg other] at parsed
    refine iff_of_true ⟨?_, ?_⟩ fun bd gga => absurd ⟨bd, gga⟩ other
    · rw [parsed]
      obtain ⟨satellites, used, extra, locations⟩ := @subParser_onlyUnder D F L platform talker
        { parser with mCurrentTalker := some talker } _ floatOf rfl kind (sentence talker kind fields)
      exact ⟨satellites, used, extra, locations⟩
    · rw [parsed]
      exact SameRecords.refl _

end Dispatch

theorem glonass_dispatched : Dispatched wholePlatform wholeNumber .gl .gsv
    (javaLit "1,1,02,65,45,090,30,72,10,120,25*6F".toList) (LocatingParser.new wholePlatform) :=
  (dispatched_iff wholePlatform wholeNumber .gl .gsv (by decide) (by decide) (LocatingParser.new wholePlatform)).mpr nofun

/-- `$BDGGA,123519,4807,N,1131,E,1,8,9,545,M,47,M,,*4F` without its header. -/
def beidouPosition : JavaString := javaLit "123519,4807,N,1131,E,1,8,9,545,M,47,M,,*4F".toList

/-- The position of `BD` is stored for `GA`. -/
theorem beidouPosition_misplaced :
    ¬ Dispatched wholePlatform wholeNumber .bd .gga beidouPosition (LocatingParser.new wholePlatform) := by
  intro dispatched
  have kept := dispatched.frame.locations .ga nofun
  exact absurd (congrArg WholeLocation.time kept) (by decide)

end Mt6582.Ygps

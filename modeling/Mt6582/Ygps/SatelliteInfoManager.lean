import Mathlib.Data.Fintype.Basic
import Mt6582.Ygps.Atomicity

/-! # The satellites behind the views

The manager holds the satellites of all talkers in one list and answers by the bare number, with the
first satellite that has it. A satellite is drawn with its own status as long as satellites of one number
carry one mark.
-/

namespace Mt6582.Ygps

open Machine

variable {F : Type}

/-- The satellite of the views. -/
structure ViewSatellite (F : Type) where
  prn : Int
  snr : F
  elevation : F
  azimuth : F
  usedInFix : Bool
  color : UInt32
deriving DecidableEq

/-- `toSatelliteInfo` of the `NMEA` adapter. -/
def SatelliteInfo.toViewSatellite (nmeaSatel : SatelliteInfo F) : ViewSatellite F where
  prn := nmeaSatel.mPrn
  snr := nmeaSatel.mSnr
  elevation := nmeaSatel.mElevation
  azimuth := nmeaSatel.mAzimuth
  usedInFix := nmeaSatel.mUsedInFix
  color := nmeaSatel.mColor

/-- The lists of the talkers behind each other, in the order in which the map gives its values. -/
def NmeaParser.getSatelliteList (order : List Talker) (parser : NmeaParser F) : List (SatelliteInfo F) :=
  order.flatMap parser.mSatelInfoList

structure SatelliteInfoManager (F : Type) where
  mSatelInfoList : List (ViewSatellite F)

namespace SatelliteInfoManager

def PRN_ANY : Int := -1

def PRN_ALL : Int := -2

/-- What was listed before is dropped. -/
def updateSatelliteInfo (_ : SatelliteInfoManager F) (adapter : List (SatelliteInfo F)) : SatelliteInfoManager F :=
  ⟨adapter.map SatelliteInfo.toViewSatellite⟩

/-- The loop of `isUsedInFix`. -/
def usedLoop (prn : Int) : Bool → List (ViewSatellite F) → Bool
  | result, [] => result
  | result, si :: rest =>
      if prn = PRN_ALL then if !si.usedInFix then false else usedLoop prn result rest
      else if prn = PRN_ANY then if si.usedInFix then true else usedLoop prn result rest
      else if prn = si.prn then si.usedInFix
      else usedLoop prn result rest

def isUsedInFix (manager : SatelliteInfoManager F) (prn : Int) : Bool :=
  usedLoop prn (prn = PRN_ALL ∧ manager.mSatelInfoList.length > 0) manager.mSatelInfoList

inductive Style where
  | stroke | fill
deriving DecidableEq, Repr

inductive BarColor where
  | barUsed | barUnused
deriving DecidableEq, Repr

/-- The paint of a satellite's bar. -/
def getSigBarPaint (info : ViewSatellite F) (manager : SatelliteInfoManager F) : BarColor × Style :=
  if !manager.isUsedInFix PRN_ANY then (.barUsed, .stroke)
  else if manager.isUsedInFix info.prn then (.barUsed, .fill)
  else (.barUnused, .fill)

/-- The paint that the satellite's own status calls for. -/
def ownPaint (info : ViewSatellite F) (manager : SatelliteInfoManager F) : BarColor × Style :=
  if !manager.isUsedInFix PRN_ANY then (.barUsed, .stroke)
  else if info.usedInFix then (.barUsed, .fill)
  else (.barUnused, .fill)

end SatelliteInfoManager

section Marks

variable [Zero F] (floatOf : JavaString → Option F)

/-- The parser after a sequence of sentences. -/
def NmeaParser.parseAll (parser : NmeaParser F) (records : List JavaString) : NmeaParser F :=
  records.foldl (NmeaParser.parse floatOf) parser

/-- The manager answers for each of its satellites with that satellite's own status, and so is its bar drawn. -/
def SatelliteInfoManager.OwnStatus (manager : SatelliteInfoManager F) : Prop :=
  ∀ si ∈ manager.mSatelInfoList,
    manager.isUsedInFix si.prn = si.usedInFix ∧ getSigBarPaint si manager = ownPaint si manager

def ShowsOwnStatus (order : List Talker) (parser : NmeaParser F) : Prop :=
  ∀ manager : SatelliteInfoManager F, (manager.updateSatelliteInfo (parser.getSatelliteList order)).OwnStatus

/-- No satellite gets another mark than the satellites of its number have: `GSA` does not take a mark away
whose number another talker's marked satellite has, and `GSV` does not list a number that is listed with the
other mark. -/
def KeepsMarks (record : JavaString) (parser : NmeaParser F) : Prop :=
  match checkKind record, checkTalker record with
  | some .gsa, some talker =>
      ∀ info ∈ parser.mSatelInfoList talker, ∀ other, other ≠ talker →
        ∀ same ∈ parser.mSatelInfoList other, same.mPrn = info.mPrn → same.mUsedInFix = false
  | some .gsv, some talker =>
      ∀ mTotalNum mMsgInd, NmeaParser.readHeader (split 44 record) = .ok (mTotalNum, mMsgInd) →
        ∀ added ∈ entries talker ((parser.mUsedFixIdMapList (some talker)).getD [])
            (readSatellites floatOf ((split 44 record).drop 4)),
          ∀ other, (other = talker → ¬ (mTotalNum > 0 ∧ mMsgInd = 1)) →
            ∀ same ∈ parser.mSatelInfoList other, same.mPrn = added.mPrn → same.mUsedInFix = added.mUsedInFix
  | _, _ => True

instance : Fintype Talker := ⟨mTalker.toFinset, fun talker => by cases talker <;> decide⟩

instance (record : JavaString) (parser : NmeaParser F) : Decidable (KeepsMarks floatOf record parser) := by
  unfold KeepsMarks
  split
  · infer_instance
  · next talker _ _ =>
    refine decidable_of_iff (∀ header ∈ (NmeaParser.readHeader (split 44 record)).toOption,
      ∀ added ∈ entries talker ((parser.mUsedFixIdMapList (some talker)).getD [])
          (readSatellites floatOf ((split 44 record).drop 4)),
        ∀ other, (other = talker → ¬ (header.1 > 0 ∧ header.2 = 1)) →
          ∀ same ∈ parser.mSatelInfoList other, same.mPrn = added.mPrn → same.mUsedInFix = added.mUsedInFix) ?_
    cases NmeaParser.readHeader (split 44 record) with
    | error fault => exact iff_of_true nofun nofun
    | ok header =>
      constructor
      · rintro all _ _ ⟨⟩
        exact all _ rfl
      · rintro all _ ⟨⟩
        exact all _ _ rfl
  · infer_instance

end Marks

/-! ## The look-up by number -/

section Lookup

namespace SatelliteInfoManager

variable {satellites : List (ViewSatellite F)} {prn : Int}

/-- A number above 0 is looked up, the first satellite that has it answers. -/
theorem usedLoop_eq (positive : prn > 0) (result : Bool) (satellites : List (ViewSatellite F)) :
    usedLoop prn result satellites = match satellites.find? (prn = ·.prn) with
      | none => result
      | some si => si.usedInFix := by
  have notAll : prn ≠ PRN_ALL := by rw [PRN_ALL]; omega
  have notAny : prn ≠ PRN_ANY := by rw [PRN_ANY]; omega
  induction satellites with
  | nil => rfl
  | cons si rest ih =>
    rw [usedLoop, if_neg notAll, if_neg notAny, List.find?_cons]
    rcases Decidable.em (prn = si.prn) with same | other
    · rw [if_pos same, decide_eq_true same]
    · rw [if_neg other, decide_eq_false other]
      exact ih

theorem ownStatus_iff (positive : ∀ si ∈ satellites, si.prn > 0) :
    OwnStatus ⟨satellites⟩ ↔
      ∀ si ∈ satellites, ∀ same ∈ satellites, same.prn = si.prn →
      same.usedInFix = si.usedInFix := by
  constructor
  · intro own si member same among equal
    rw [← (own si member).1, ← (own same among).1, equal]
  · intro agree si member
    suffices answers : isUsedInFix ⟨satellites⟩ si.prn = si.usedInFix by
      exact ⟨answers, by rw [getSigBarPaint, answers, ownPaint]⟩
    rw [isUsedInFix, usedLoop_eq (positive si member)]
    cases found : satellites.find? (si.prn = ·.prn) with
    | none =>
      have absent := List.find?_eq_none.mp found si member
      exact absurd (decide_eq_true rfl) absent
    | some first =>
      have number := List.find?_some found
      exact agree si member first (List.mem_of_find?_eq_some found) (of_decide_eq_true number).symm

end SatelliteInfoManager

/-- Satellites of one number carry one mark. -/
def MarksAgree (parser : NmeaParser F) : Prop :=
  ∀ talker, ∀ info ∈ parser.mSatelInfoList talker, ∀ other, ∀ same ∈ parser.mSatelInfoList other,
    same.mPrn = info.mPrn → same.mUsedInFix = info.mUsedInFix

def NumbersPositive (parser : NmeaParser F) : Prop :=
  ∀ talker, ∀ info ∈ parser.mSatelInfoList talker, info.mPrn > 0

theorem showsOwnStatus_iff {order : List Talker} (perm : order.Perm mTalker) {parser : NmeaParser F}
    (positive : NumbersPositive parser) : ShowsOwnStatus order parser ↔ MarksAgree parser := by
  have listed (info : SatelliteInfo F) :
      info ∈ parser.getSatelliteList order ↔ ∃ talker, info ∈ parser.mSatelInfoList talker := by
    have all (talker : Talker) : talker ∈ order := perm.mem_iff.mpr (by cases talker <;> decide)
    simp only [NmeaParser.getSatelliteList, List.mem_flatMap, all, true_and]
  have own := @SatelliteInfoManager.ownStatus_iff F
    ((parser.getSatelliteList order).map SatelliteInfo.toViewSatellite) (by
      rw [List.forall_mem_map]
      intro info member
      obtain ⟨talker, among⟩ := (listed info).mp member
      exact positive talker info among)
  constructor
  · intro shows talker info member other same among
    have agree := own.mp (shows ⟨[]⟩)
    simp only [List.forall_mem_map] at agree
    exact agree info ((listed info).mpr ⟨talker, member⟩) same ((listed same).mpr ⟨other, among⟩)
  · intro agree _
    apply own.mpr
    simp only [List.forall_mem_map]
    intro info member same among
    obtain ⟨talker, inside⟩ := (listed info).mp member
    obtain ⟨other, within⟩ := (listed same).mp among
    exact agree talker info inside other same within

end Lookup

/-! ## What a sentence does to the lists -/

section Lists

variable {talker : Talker} {parser : NmeaParser F}

theorem addUsedFixIds_lists (parser : NmeaParser F) (values : List JavaString) :
    (parser.addUsedFixIds values).1.mSatelInfoList = parser.mSatelInfoList := by
  induction values generalizing parser with
  | nil => rfl
  | cons value values ih =>
    rw [NmeaParser.addUsedFixIds]
    cases parseInt value with
    | error fault => rfl
    | ok prn =>
      dsimp only
      rw [ih]
      split_ifs <;> rfl

theorem setDops_lists (parser : NmeaParser F) (talker : Talker) (values : List JavaString) :
    (parser.setDops talker values).1.mSatelInfoList = parser.mSatelInfoList := by
  rw [NmeaParser.setDops]
  cases valueAt values 17 <;> rfl

theorem andThen_lists {result : NmeaParser F × Except JavaException Unit}
    {rest : NmeaParser F → NmeaParser F × Except JavaException Unit}
    (stays : ∀ next : NmeaParser F, (rest next).1.mSatelInfoList = next.mSatelInfoList) :
    (NmeaParser.andThen result rest).1.mSatelInfoList = result.1.mSatelInfoList := by
  obtain ⟨next, outcome⟩ := result
  cases outcome with
  | error fault => rfl
  | ok _ => exact stays next

/-- Every way through `parseGSA` takes the talker's marks away. -/
theorem parseGSA_lists (current : parser.mCurrentTalker = some talker) (record : JavaString) :
    (parser.parseGSA record).1.mSatelInfoList = Function.update parser.mSatelInfoList talker
      ((parser.mSatelInfoList talker).map fun sv => { sv with mUsedInFix := false }) := by
  simp only [NmeaParser.parseGSA, NmeaParser.clearUsedFixList, current]
  split_ifs
  · rfl
  · rw [andThen_lists fun next => setDops_lists next talker _, addUsedFixIds_lists]
    rfl
  · rfl

theorem parseGSA_lists_noTalker (current : parser.mCurrentTalker = none) (record : JavaString) :
    (parser.parseGSA record).1.mSatelInfoList = parser.mSatelInfoList := by
  simp only [NmeaParser.parseGSA, NmeaParser.clearUsedFixList, current]

theorem sendUpdate_lists (parser : NmeaParser F) (values : List JavaString) :
    (parser.sendUpdate values).mSatelInfoList = parser.mSatelInfoList := by
  rw [NmeaParser.sendUpdate]
  split_ifs <;> rfl

variable [Zero F] (floatOf : JavaString → Option F)

/-- Behind its header `parseGSV` appends the satellites that it reads. -/
theorem parseGSV_lists (current : parser.mCurrentTalker = some talker) {record : JavaString}
    {mTotalNum mMsgInd : Int}
    (header : NmeaParser.readHeader (split 44 record) = .ok (mTotalNum, mMsgInd)) :
    (parser.parseGSV floatOf record).1.mSatelInfoList = Function.update parser.mSatelInfoList talker
      ((if mTotalNum > 0 ∧ mMsgInd = 1 then [] else parser.mSatelInfoList talker) ++
        entries talker ((parser.mUsedFixIdMapList (some talker)).getD [])
          (readSatellites floatOf ((split 44 record).drop 4))) := by
  obtain ⟨adds, -⟩ := @parseGSVLoop_adds F talker _ floatOf
    (if mTotalNum > 0 ∧ mMsgInd = 1 then parser.setSatelliteList talker [] else parser) ((split 44 record).drop 4)
  rw [NmeaParser.parseGSV, current, header]
  dsimp only
  rw [andThen_lists fun next => sendUpdate_lists next _, adds.list, NmeaParser.usedIds]
  split_ifs
  · simp only [NmeaParser.setSatelliteList, current, Function.update_self, Function.update_idem]
  · rw [current]

theorem parseGSV_lists_noHeader (current : parser.mCurrentTalker = some talker)
    {record : JavaString} {fault : JavaException}
    (header : NmeaParser.readHeader (split 44 record) = .error fault) :
    (parser.parseGSV floatOf record).1.mSatelInfoList = parser.mSatelInfoList := by
  rw [NmeaParser.parseGSV, current, header]

end Lists

/-! ## One sentence and a whole run -/

section Run

theorem mem_update {lists : Talker → List (SatelliteInfo F)} {talker other : Talker}
    {svlist : List (SatelliteInfo F)} {info : SatelliteInfo F} :
    info ∈ Function.update lists talker svlist other ↔
      if other = talker then info ∈ svlist else info ∈ lists other := by
  rw [Function.update_apply]
  split_ifs <;> exact Iff.rfl

theorem unmark_agree_iff {parser next : NmeaParser F} {talker : Talker} (agree : MarksAgree parser)
    (lists : next.mSatelInfoList = Function.update parser.mSatelInfoList talker
      ((parser.mSatelInfoList talker).map fun sv => { sv with mUsedInFix := false })) :
    MarksAgree next ↔ ∀ info ∈ parser.mSatelInfoList talker, ∀ other, other ≠ talker →
      ∀ same ∈ parser.mSatelInfoList other, same.mPrn = info.mPrn → same.mUsedInFix = false := by
  simp only [MarksAgree, lists, mem_update]
  constructor
  · intro after info member other different same among equal
    have unmarked := after talker { info with mUsedInFix := false } (by
      rw [if_pos rfl]
      exact List.mem_map.mpr ⟨info, member, rfl⟩) other same (by rwa [if_neg different])
    exact unmarked equal
  · intro condition first info member second same among equal
    split_ifs at member among with one two two
    · obtain ⟨_, -, rfl⟩ := List.mem_map.mp member
      obtain ⟨_, -, rfl⟩ := List.mem_map.mp among
      rfl
    · obtain ⟨old, inside, rfl⟩ := List.mem_map.mp member
      exact condition old inside second two same among equal
    · obtain ⟨old, inside, rfl⟩ := List.mem_map.mp among
      exact (condition old inside first one info member equal.symm).symm
    · exact agree first info member second same among equal

theorem entries_agree {talker : Talker} {usedIds : List Int} {satellites : List (Int × F × F × F)}
    {first second : SatelliteInfo F} (one : first ∈ entries talker usedIds satellites)
    (two : second ∈ entries talker usedIds satellites) (equal : second.mPrn = first.mPrn) :
    second.mUsedInFix = first.mUsedInFix := by
  obtain ⟨_, -, rfl⟩ := List.mem_map.mp one
  obtain ⟨_, -, rfl⟩ := List.mem_map.mp two
  exact congrArg (fun prn => decide (prn ∈ usedIds)) equal

theorem append_agree_iff {parser next : NmeaParser F} {talker : Talker}
    {clears : Prop} [Decidable clears]
    {usedIds : List Int} {satellites : List (Int × F × F × F)} (agree : MarksAgree parser)
    (lists : next.mSatelInfoList = Function.update parser.mSatelInfoList talker
      ((if clears then [] else parser.mSatelInfoList talker) ++ entries talker usedIds satellites)) :
    MarksAgree next ↔ ∀ added ∈ entries talker usedIds satellites, ∀ other,
      (other = talker → ¬ clears) →
      ∀ same ∈ parser.mSatelInfoList other, same.mPrn = added.mPrn →
        same.mUsedInFix = added.mUsedInFix := by
  have listed (other : Talker) (info : SatelliteInfo F) : info ∈ next.mSatelInfoList other ↔
      ((other = talker → ¬ clears) ∧ info ∈ parser.mSatelInfoList other) ∨
        (other = talker ∧ info ∈ entries talker usedIds satellites) := by
    rw [lists, mem_update]
    split_ifs with here cleared
    · simp [here, cleared]
    · simp [here, cleared]
    · simp [here]
  simp only [MarksAgree, listed]
  constructor
  · intro after added member other kept same among equal
    exact after talker added (.inr ⟨rfl, member⟩) other same (.inl ⟨kept, among⟩) equal
  · rintro condition first info (⟨kept, member⟩ | ⟨rfl, member⟩) second same (⟨kept', among⟩ | ⟨rfl, among⟩) equal
    · exact agree first info member second same among equal
    · exact (condition same among first kept info member equal.symm).symm
    · exact condition info member second kept' same among equal
    · exact entries_agree member among equal

variable [Zero F] (floatOf : JavaString → Option F)

/-- The kinds and talkers that `parse` looks for, with what they lead to. -/
theorem parse_eq (parser : NmeaParser F) (record : JavaString) :
    parser.parse floatOf record = match checkKind record with
      | some .gsa => ({ parser with mCurrentTalker := checkTalker record }.parseGSA record).1
      | some .gsv =>
        ({ parser with mCurrentTalker := checkTalker record }.parseGSV floatOf record).1
      | _ => { parser with mCurrentTalker := checkTalker record } := by
  rw [NmeaParser.parse, checkKind_eq]
  split_ifs <;> rfl

/-- A sentence leaves the lists, takes a talker's marks away or appends to a talker's list. -/
theorem parse_lists (parser : NmeaParser F) (record : JavaString) :
    ((parser.parse floatOf record).mSatelInfoList = parser.mSatelInfoList ∧ KeepsMarks floatOf record parser) ∨
    (∃ talker, (parser.parse floatOf record).mSatelInfoList = Function.update parser.mSatelInfoList talker
        ((parser.mSatelInfoList talker).map fun sv => { sv with mUsedInFix := false }) ∧
      (KeepsMarks floatOf record parser ↔ ∀ info ∈ parser.mSatelInfoList talker, ∀ other, other ≠ talker →
        ∀ same ∈ parser.mSatelInfoList other, same.mPrn = info.mPrn → same.mUsedInFix = false)) ∨
    ∃ (talker : Talker) (mTotalNum mMsgInd : Int) (usedIds : List Int)
      (satellites : List (Int × F × F × F)),
      (parser.parse floatOf record).mSatelInfoList = Function.update parser.mSatelInfoList talker
        ((if mTotalNum > 0 ∧ mMsgInd = 1 then [] else parser.mSatelInfoList talker) ++
          entries talker usedIds satellites) ∧
      (KeepsMarks floatOf record parser ↔ ∀ added ∈ entries talker usedIds satellites,
        ∀ other, (other = talker → ¬ (mTotalNum > 0 ∧ mMsgInd = 1)) →
        ∀ same ∈ parser.mSatelInfoList other,
          same.mPrn = added.mPrn → same.mUsedInFix = added.mUsedInFix) := by
  rw [parse_eq, KeepsMarks]
  cases checkKind record with
  | none => exact .inl ⟨rfl, trivial⟩
  | some kind =>
    cases kind with
    | rmc => exact .inl ⟨rfl, trivial⟩
    | gga => exact .inl ⟨rfl, trivial⟩
    | gsa =>
      cases checkTalker record with
      | none => exact .inl ⟨parseGSA_lists_noTalker rfl record, trivial⟩
      | some talker => exact .inr (.inl ⟨talker, parseGSA_lists rfl record, Iff.rfl⟩)
    | gsv =>
      cases checkTalker record with
      | none => exact .inl ⟨rfl, trivial⟩
      | some talker =>
        dsimp only
        cases header : NmeaParser.readHeader (split 44 record) with
        | error fault => exact .inl ⟨parseGSV_lists_noHeader floatOf rfl header, nofun⟩
        | ok numbers =>
          obtain ⟨mTotalNum, mMsgInd⟩ := numbers
          refine .inr
            (.inr ⟨talker, mTotalNum, mMsgInd, _, _, parseGSV_lists floatOf rfl header, ?_, ?_⟩)
          · exact fun condition => condition mTotalNum mMsgInd rfl
          · rintro condition _ _ ⟨⟩
            exact condition

theorem parse_agree_iff {parser : NmeaParser F} (agree : MarksAgree parser) (record : JavaString) :
    MarksAgree (parser.parse floatOf record) ↔ KeepsMarks floatOf record parser := by
  rcases parse_lists floatOf parser record with ⟨lists, keeps⟩ | ⟨talker, lists, keeps⟩ |
    ⟨talker, mTotalNum, mMsgInd, usedIds, satellites, lists, keeps⟩
  · refine iff_of_true ?_ keeps
    rw [MarksAgree, lists]
    exact agree
  · exact (unmark_agree_iff agree lists).trans keeps.symm
  · exact (append_agree_iff agree lists).trans keeps.symm

theorem parse_positive {parser : NmeaParser F} (positive : NumbersPositive parser)
    (record : JavaString) :
    NumbersPositive (parser.parse floatOf record) := by
  rw [NumbersPositive]
  intro other info member
  rcases parse_lists floatOf parser record with ⟨lists, -⟩ | ⟨talker, lists, -⟩ |
    ⟨talker, mTotalNum, mMsgInd, usedIds, satellites, lists, -⟩
  · rw [lists] at member
    exact positive other info member
  · rw [lists, mem_update] at member
    split_ifs at member
    · obtain ⟨old, inside, rfl⟩ := List.mem_map.mp member
      exact positive talker old inside
    · exact positive other info member
  · rw [lists, mem_update] at member
    split_ifs at member with here clears
    · obtain ⟨satellite, inside, rfl⟩ := List.mem_map.mp member
      exact of_decide_eq_true (List.mem_filter.mp inside).2
    · rcases List.mem_append.mp member with kept | added
      · exact positive talker info kept
      · obtain ⟨satellite, inside, rfl⟩ := List.mem_map.mp added
        exact of_decide_eq_true (List.mem_filter.mp inside).2
    · exact positive other info member

theorem parseAll_concat (parser : NmeaParser F) (front : List JavaString) (record : JavaString) :
    parser.parseAll floatOf (front ++ [record]) =
      (parser.parseAll floatOf front).parse floatOf record := by
  rw [NmeaParser.parseAll, List.foldl_append]
  rfl

theorem parseAll_positive (records : List JavaString) :
    NumbersPositive ((NmeaParser.new F).parseAll floatOf records) := by
  induction records using List.reverseRecOn with
  | nil => exact fun _ _ absent => absurd absent List.not_mem_nil
  | append_singleton front record ih =>
    rw [parseAll_concat]
    exact parse_positive floatOf ih record

theorem parseAll_agree {front : List JavaString}
    (keeps : ∀ before record, before ++ [record] <+: front →
      KeepsMarks floatOf record ((NmeaParser.new F).parseAll floatOf before)) :
    MarksAgree ((NmeaParser.new F).parseAll floatOf front) := by
  induction front using List.reverseRecOn with
  | nil => exact fun _ _ absent => absurd absent List.not_mem_nil
  | append_singleton front record ih =>
    rw [parseAll_concat]
    apply (parse_agree_iff floatOf (ih fun before record started => keeps before record ?_) record).mpr
    · exact keeps front record (List.prefix_refl _)
    · exact started.trans (List.prefix_append front _)

/-- As long as the marks agree, and exactly then, the views show every satellite with its own status. -/
theorem parseAll_showsOwnStatus_iff {order : List Talker} (perm : order.Perm mTalker) (records : List JavaString) :
    (∀ front, front <+: records → ShowsOwnStatus order ((NmeaParser.new F).parseAll floatOf front)) ↔
      ∀ front record, front ++ [record] <+: records →
        KeepsMarks floatOf record ((NmeaParser.new F).parseAll floatOf front) := by
  have shown (front : List JavaString) := showsOwnStatus_iff perm (parseAll_positive floatOf front)
  constructor
  · intro shows front record started
    have before :=
      (shown front).mp (shows front ((List.prefix_append front [record]).trans started))
    have after := (shown (front ++ [record])).mp (shows _ started)
    rw [parseAll_concat] at after
    exact (parse_agree_iff floatOf before record).mp after
  · intro keeps front started
    apply (shown front).mpr
    exact parseAll_agree floatOf fun before record inside =>
      keeps before record (inside.trans started)

end Run

/-- Satellites 5 and 7 of `GP` come into view and are used in the fix, and then satellite 12 of `BD`. -/
def ownNumbers : List JavaString :=
  [javaLit "$GPGSV,1,1,02,05,45,090,30,07,10,200,25*75".toList, javaLit "$GPGSA,A,3,05,07,,,,,,,,,,,1.5,1.2,0.9*3E".toList,
    javaLit "$GPGSV,1,1,02,05,45,090,30,07,10,200,25*75".toList, javaLit "$BDGSA,A,3,12,,,,,,,,,,,,1.5,1.2,0.9*2B".toList,
    javaLit "$BDGSV,1,1,01,12,30,120,20*58".toList]

theorem ownNumbers_showsOwnStatus : mTalker.Perm mTalker ∧
    ∀ front, front <+: ownNumbers → ShowsOwnStatus mTalker ((NmeaParser.new WholeFloat).parseAll wholeNumber front) := by
  have keeps : ∀ front ∈ ownNumbers.inits, ∀ record ∈ front.getLast?,
      KeepsMarks wholeNumber record ((NmeaParser.new WholeFloat).parseAll wholeNumber front.dropLast) := by
    decide +kernel
  refine ⟨List.Perm.refl mTalker, (parseAll_showsOwnStatus_iff wholeNumber (List.Perm.refl mTalker) _).mpr ?_⟩
  intro front record started
  have here := keeps (front ++ [record]) ((List.mem_inits _ _).mpr started) record List.getLast?_concat
  rwa [List.dropLast_concat] at here

/-- Satellite 5 of `GP` is used in the fix, satellite 5 of `BD` is only in view. -/
def sharedNumber : List JavaString :=
  [javaLit "$GPGSA,A,3,05,07,09,,,,,,,,,,1.5,1.2,0.9*37".toList, javaLit "$GPGSV,1,1,01,05,45,090,30*46".toList,
    javaLit "$BDGSV,1,1,01,05,30,120,20*5E".toList]

/-- The satellite of `BD` is drawn as used. -/
theorem sharedNumber_not_showsOwnStatus :
    ¬ ShowsOwnStatus mTalker ((NmeaParser.new WholeFloat).parseAll wholeNumber sharedNumber) := by
  intro shows
  have own := (shows ⟨[]⟩ ⟨5, ⟨20⟩, ⟨30⟩, ⟨120⟩, false, 0xff0000ff⟩ (by decide)).1
  exact absurd own (by decide)

end Mt6582.Ygps

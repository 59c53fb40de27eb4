import Mt6582.Ril.HexString
import Mt6582.Ril.Operators

/-! # The answer to a network scan

`responseOperatorInfos` turns five strings for each network into an `OperatorInfo`. The names may be
decoded, looked up and given a suffix on the way; the first two are skipped for null names, the
suffix is not.
-/

namespace Mt6582.Ril

open Machine

/-- What the scan asks of the platform. -/
structure ScanPlatform (State : Type) where
  /-- `new String(bytes, "UTF-16")`. -/
  utf16 : List UInt8 → JavaString
  /-- `SystemProperties.getInt`. -/
  getInt : JavaString → Int → Int
  /-- The state that the constructor of `OperatorInfo` makes of its last argument. -/
  rilStateToState : Option JavaString → Except JavaException State
  spnFile : SpnFile
  mInstanceId : Option Int32

structure OperatorInfo (State : Type) where
  operatorAlphaLong : Option JavaString
  operatorAlphaShort : Option JavaString
  operatorNumeric : Option JavaString
  state : State
deriving DecidableEq

/-- `strings[i]` to `strings[i + 4]`. -/
structure ScanRow where
  long : Option JavaString
  short : Option JavaString
  numeric : Option JavaString
  state : Option JavaString
  act : Option JavaString
deriving DecidableEq, Repr

def rowAt (strings : List (Option JavaString)) (k : Nat) : ScanRow where
  long := strings.getD (5 * k) none
  short := strings.getD (5 * k + 1) none
  numeric := strings.getD (5 * k + 2) none
  state := strings.getD (5 * k + 3) none
  act := strings.getD (5 * k + 4) none

def scanRows (strings : List (Option JavaString)) : List ScanRow :=
  (List.range (strings.length / 5)).map (rowAt strings)

/-- `"uCs2"`. -/
def uCs2 : JavaString := javaLit "uCs2".toList

def simId (mInstanceId : Option Int32) : Int32 :=
  match mInstanceId with
  | none => 0
  | some id => if id = 0 then 0 else id

def capabilityProperty (mSimId : Int32) : JavaString :=
  let propertyName := javaLit "gsm.baseband.capability".toList
  if mSimId > 0 then propertyName ++ javaLit (toString (mSimId + 1).toInt).toList else propertyName

/-- `lacStr.substring(lacIndex, lacIndex + 4)`. -/
def lacAt (lacStr : JavaString) (lacIndex : Nat) : Except JavaException JavaString :=
  if lacIndex + 4 ≤ lacStr.length then return (lacStr.drop lacIndex).take 4 else throw .indexOutOfBounds

/-- A row with a name uses up four characters; the value is only compared with 0xfffe for the log. -/
def nextLacIndex (lacStr : JavaString) (lacValid : Bool) (lacIndex : Nat) (long : Option JavaString) :
    Except JavaException Nat :=
  if lacValid ∧ long ≠ none then do
    let lac ← lacAt lacStr lacIndex
    let _ ← parseInt 16 (some lac)
    return lacIndex + 4
  else return lacIndex

/-- `name.concat(" " + act)`. -/
def withAct (name act : Option JavaString) : Except JavaException JavaString :=
  match name with
  | none => throw .nullPointer
  | some name => return name ++ (javaLit [' '] ++ act.getD (javaLit "null".toList))

variable {State : Type} (platform : ScanPlatform State)

namespace ScanPlatform

def basebandCapability : Int := platform.getInt (capabilityProperty (simId platform.mInstanceId)) 3

def decodeName (long : Option JavaString) : Except JavaException (Option JavaString) :=
  match long with
  | none => return none
  | some name =>
      if uCs2 <+: name then do
        let bytes ← hexStringToBytes (some (name.drop 4))
        return bytes.map platform.utf16
      else return some name

/-- The names after the lookup. -/
def lookupNames (long : Option JavaString) (row : ScanRow) : Option JavaString × Option JavaString :=
  if long ≠ none ∧ (long = some [] ∨ long = row.numeric) then
    let temp := (unOptimizedOperatorReplace platform.spnFile none row.numeric).1
    (temp, temp)
  else (long, row.short)

/-- The names after the test of the capability. -/
def suffixNames (names : Option JavaString × Option JavaString) (act : Option JavaString) :
    Except JavaException (Option JavaString × Option JavaString) :=
  if 3 < platform.basebandCapability then do
    let long ← withAct names.1 act
    let short ← withAct names.2 act
    return (some long, some short)
  else return names

/-- One turn of the loop; returns the next `lacIndex` as well. -/
def operatorInfo (lacStr : JavaString) (lacValid : Bool) (lacIndex : Nat) (row : ScanRow) :
    Except JavaException (OperatorInfo State × Nat) := do
  let long ← platform.decodeName row.long
  let lacIndex ← nextLacIndex lacStr lacValid lacIndex long
  let (long, short) ← platform.suffixNames (platform.lookupNames long row) row.act
  let state ← platform.rilStateToState row.state
  return (⟨long, short, row.numeric, state⟩, lacIndex)

def operatorInfosLoop (lacStr : JavaString) (lacValid : Bool) :
    Nat → List ScanRow → Except JavaException (List (OperatorInfo State))
  | _, [] => return []
  | lacIndex, row :: rows => do
      let (info, lacIndex) ← platform.operatorInfo lacStr lacValid lacIndex row
      let ret ← operatorInfosLoop lacStr lacValid lacIndex rows
      return info :: ret

/-- On the strings of the parcel and the value of `gsm.cops.lac`; returns that property's new value as well. -/
def responseOperatorInfos (strings : List (Option JavaString)) (lacStr : JavaString) :
    Except JavaException (List (OperatorInfo State)) × JavaString :=
  if strings.length % 5 ≠ 0 then
    (throw (.runtime (javaLit "RIL_REQUEST_QUERY_AVAILABLE_NETWORKS: invalid response. Got ".toList ++
      javaLit (toString strings.length).toList ++ javaLit " strings, expected multible of 5".toList)), lacStr)
  else
    let lacValid := decide (lacStr.length > 0 ∧ lacStr.length % 4 = 0 ∧ lacStr.length / 4 = strings.length / 5)
    (platform.operatorInfosLoop lacStr lacValid 0 (scanRows strings), [])

/-! ## One row -/

/-- A name that starts with `uCs2` goes on with pairs of digits. -/
def Decodable (long : Option JavaString) : Prop :=
  ∀ digits, long = some (uCs2 ++ digits) → digits.length % 2 = 0 ∧ ∀ c ∈ digits, IsHexDigit c

/-- The row's name is replaced by the one in the table. -/
def LooksUp (row : ScanRow) : Prop :=
  ∃ name, platform.decodeName row.long = .ok (some name) ∧ (name = [] ∨ row.numeric = some name)

/-- What the scan is to say of a row. -/
def RowMatches (row : ScanRow) (info : OperatorInfo State) : Prop :=
  info.operatorNumeric = row.numeric ∧ platform.rilStateToState row.state = .ok info.state ∧
    (row.long ≠ none → info.operatorAlphaLong ≠ none)

/-- Where the table is asked it has a name, and where a suffix is due there are names to carry it. -/
def RowMeets (row : ScanRow) : Prop :=
  (platform.LooksUp row → plainReplace platform.spnFile row.numeric ≠ none) ∧
    (3 < platform.basebandCapability → row.long ≠ none ∧ (platform.LooksUp row ∨ row.short ≠ none))

variable {platform}

theorem decodeName_ok {long : Option JavaString} (decodable : Decodable long) :
    ∃ name, platform.decodeName long = .ok name ∧ (name = none ↔ long = none) := by
  cases long with
  | none => exact ⟨none, rfl, Iff.rfl⟩
  | some name =>
    rcases Decidable.em (uCs2 <+: name) with ⟨digits, rfl⟩ | other
    · obtain ⟨bytes, loop⟩ := (hexStringToBytesLoop_ok_iff digits).mpr (decodable digits rfl)
      have decoded := hexStringToBytes_ok_iff.mpr loop
      have drop : (uCs2 ++ digits).drop 4 = digits := rfl
      refine ⟨some (platform.utf16 bytes), ?_, by simp⟩
      rw [decodeName, if_pos (List.prefix_append uCs2 digits), drop, decoded]
      rfl
    · exact ⟨some name, by rw [decodeName, if_neg other]; rfl, by simp⟩

end ScanPlatform

theorem nextLacIndex_ok {lacStr : JavaString} {lacValid : Bool} {lacIndex : Nat}
    (long : Option JavaString) (digits : ∀ c ∈ lacStr, IsHexDigit c)
    (room : lacValid → lacIndex + 4 ≤ lacStr.length) :
    ∃ next, nextLacIndex lacStr lacValid lacIndex long = .ok next := by
  rw [nextLacIndex]
  split_ifs with used
  · have inside := room used.1
    have length : ((lacStr.drop lacIndex).take 4).length = 4 := by
      rw [List.length_take, List.length_drop]
      omega
    have hex (c : UInt16) (member : c ∈ (lacStr.drop lacIndex).take 4) : IsHexDigit c :=
      digits c (List.mem_of_mem_drop (List.mem_of_mem_take member))
    obtain ⟨n, read⟩ := digitsValue_isSome_iff.mpr fun c member =>
      charDigit_isHexDigit (hex c member)
    have small := digitsValue_lt read
    rw [length] at small
    have parsed := parseInt_digits (List.ne_nil_of_length_eq_add_one length)
      ⟨fun first => isHexDigit_ne_sign.1 (hex 45 (List.mem_of_head? first)),
        fun first => isHexDigit_ne_sign.2 (hex 43 (List.mem_of_head? first))⟩ read
    rw [if_pos (by omega)] at parsed
    refine ⟨lacIndex + 4, ?_⟩
    rw [lacAt, if_pos inside]
    simp only [pure, Except.pure, bind, Except.bind, parsed]
  · exact ⟨lacIndex, rfl⟩

theorem nextLacIndex_le {lacStr : JavaString} {lacValid : Bool} {lacIndex next : Nat}
    {long : Option JavaString} (success : nextLacIndex lacStr lacValid lacIndex long = .ok next) :
    next ≤ lacIndex + 4 := by
  rw [nextLacIndex] at success
  split_ifs at success
  · obtain ⟨lac, -, success⟩ := bind_eq_ok_iff.mp success
    obtain ⟨value, -, success⟩ := bind_eq_ok_iff.mp success
    cases success
    exact le_refl _
  · cases success
    omega

namespace ScanPlatform

variable {platform}

theorem suffixNames_ok_iff {names : Option JavaString × Option JavaString}
    {act : Option JavaString} :
    (∃ out, platform.suffixNames names act = .ok out) ↔
      (3 < platform.basebandCapability → names.1 ≠ none ∧ names.2 ≠ none) := by
  rw [suffixNames]
  split_ifs with umts
  · obtain ⟨long, short⟩ := names
    cases long with
    | none =>
      exact iff_of_false (fun ⟨_, success⟩ => nomatch success) fun named => (named umts).1 rfl
    | some long =>
      cases short with
      | none =>
        exact iff_of_false (fun ⟨_, success⟩ => nomatch success) fun named => (named umts).2 rfl
      | some short =>
        exact iff_of_true ⟨_, rfl⟩ fun _ => ⟨Option.some_ne_none long, Option.some_ne_none short⟩
  · exact iff_of_true ⟨names, rfl⟩ fun umts' => absurd umts' umts

theorem suffixNames_long {names out : Option JavaString × Option JavaString}
    {act : Option JavaString} (success : platform.suffixNames names act = .ok out) :
    out.1 = none ↔ names.1 = none := by
  rw [suffixNames] at success
  split_ifs at success with umts
  · obtain ⟨long, first, success⟩ := bind_eq_ok_iff.mp success
    obtain ⟨short, _, success⟩ := bind_eq_ok_iff.mp success
    cases success
    obtain ⟨name, rest⟩ := names
    cases name with
    | none => cases first
    | some name => exact iff_of_false (Option.some_ne_none long) (Option.some_ne_none name)
  · cases success
    exact Iff.rfl

theorem looksUp_iff {row : ScanRow} {name : Option JavaString}
    (decoded : platform.decodeName row.long = .ok name) :
    platform.LooksUp row ↔ name ≠ none ∧ (name = some [] ∨ name = row.numeric) := by
  rw [LooksUp, decoded]
  cases name with
  | none => exact iff_of_false (fun ⟨_, same, _⟩ => nomatch same) fun ⟨named, _⟩ => named rfl
  | some name =>
    constructor
    · rintro ⟨other, same, use⟩
      cases same
      exact ⟨Option.some_ne_none name, use.imp (congrArg some) Eq.symm⟩
    · rintro ⟨-, use⟩
      exact ⟨name, rfl, use.imp Option.some.inj Eq.symm⟩

theorem operatorInfo_eq_ok_iff {lacStr : JavaString} {lacValid : Bool} {lacIndex next : Nat}
    {row : ScanRow} {info : OperatorInfo State} :
    platform.operatorInfo lacStr lacValid lacIndex row = .ok (info, next) ↔ ∃ name out,
      platform.decodeName row.long = .ok name ∧
      nextLacIndex lacStr lacValid lacIndex name = .ok next ∧
        platform.suffixNames (platform.lookupNames name row) row.act = .ok out ∧
          platform.rilStateToState row.state = .ok info.state ∧
            info = ⟨out.1, out.2, row.numeric, info.state⟩ := by
  simp only [operatorInfo, bind_eq_ok_iff]
  constructor
  · rintro ⟨name, decoded, index, advanced, out, suffixed, state, read, success⟩
    cases success
    exact ⟨name, out, decoded, advanced, suffixed, read, rfl⟩
  · rintro ⟨name, out, decoded, advanced, suffixed, read, same⟩
    refine ⟨name, decoded, next, advanced, out, suffixed, info.state, read, ?_⟩
    rw [← same]
    rfl

theorem operatorInfo_index_le {lacStr : JavaString} {lacValid : Bool} {lacIndex next : Nat}
    {row : ScanRow} {info : OperatorInfo State}
    (success : platform.operatorInfo lacStr lacValid lacIndex row = .ok (info, next)) :
    next ≤ lacIndex + 4 := by
  obtain ⟨name, out, -, advanced, -⟩ := operatorInfo_eq_ok_iff.mp success
  exact nextLacIndex_le advanced

/-- The names that reach the constructor, against the row's own. -/
theorem lookupNames_iff {row : ScanRow} {name : Option JavaString}
    (decoded : platform.decodeName row.long = .ok name) (named : name = none ↔ row.long = none) :
    (3 < platform.basebandCapability → (platform.lookupNames name row).1 ≠ none ∧
      (platform.lookupNames name row).2 ≠ none) ∧
        (row.long ≠ none → (platform.lookupNames name row).1 ≠ none) ↔ platform.RowMeets row := by
  rw [RowMeets, lookupNames, plainReplace, looksUp_iff decoded]
  rcases Decidable.em (name ≠ none ∧ (name = some [] ∨ name = row.numeric)) with use | keep
  · have given : row.long ≠ none := (not_congr named).mp use.1
    rw [if_pos use]
    constructor
    · rintro ⟨-, long⟩
      exact ⟨fun _ => long given, fun _ => ⟨given, .inl use⟩⟩
    · rintro ⟨found, -⟩
      exact ⟨fun _ => ⟨found use, found use⟩, fun _ => found use⟩
  · rw [if_neg keep]
    constructor
    · rintro ⟨both, -⟩
      exact ⟨fun use => absurd use keep, fun umts => ⟨(not_congr named).mp (both umts).1, .inr (both umts).2⟩⟩
    · rintro ⟨-, both⟩
      refine ⟨fun umts => ?_, (not_congr named).mpr⟩
      obtain ⟨long, use | short⟩ := both umts
      · exact absurd use keep
      · exact ⟨(not_congr named).mpr long, short⟩

/-- A row is reported as it should be exactly under `RowMeets`. -/
theorem operatorInfo_matches_iff {lacStr : JavaString} {lacValid : Bool} {lacIndex : Nat}
    {row : ScanRow} (decodable : Decodable row.long)
    (known : ∃ state, platform.rilStateToState row.state = .ok state)
    (digits : ∀ c ∈ lacStr, IsHexDigit c) (room : lacValid → lacIndex + 4 ≤ lacStr.length) :
    (∃ info next, platform.operatorInfo lacStr lacValid lacIndex row = .ok (info, next) ∧
      platform.RowMatches row info) ↔ platform.RowMeets row := by
  obtain ⟨name, decoded, named⟩ := @decodeName_ok _ platform _ decodable
  obtain ⟨state, read⟩ := known
  obtain ⟨next, advanced⟩ := nextLacIndex_ok name digits room
  rw [← lookupNames_iff decoded named, ← @suffixNames_ok_iff _ _ _ row.act]
  constructor
  · rintro ⟨info, index, success, -, -, long⟩
    obtain ⟨other, out, same, -, suffixed, -, fields⟩ := operatorInfo_eq_ok_iff.mp success
    cases decoded.symm.trans same
    rw [fields] at long
    exact ⟨⟨out, suffixed⟩, fun given => (not_congr (suffixNames_long suffixed)).mp (long given)⟩
  · rintro ⟨⟨out, suffixed⟩, long⟩
    refine ⟨⟨out.1, out.2, row.numeric, state⟩, next, ?_, rfl, read, ?_⟩
    · exact operatorInfo_eq_ok_iff.mpr ⟨name, out, decoded, advanced, suffixed, read, rfl⟩
    · exact fun given => (not_congr (suffixNames_long suffixed)).mpr (long given)

/-! ## The whole scan -/

variable (platform) in
/-- The list has one entry for each row, in order, and each matches. -/
def Scanned (strings : List (Option JavaString)) (lacStr : JavaString) : Prop :=
  ∃ infos, (platform.responseOperatorInfos strings lacStr).1 = .ok infos ∧
    List.Forall₂ platform.RowMatches (scanRows strings) infos

variable (platform) in
/-- Five strings for each network, and digits where digits are expected. -/
structure WellFormed (strings : List (Option JavaString)) (lacStr : JavaString) : Prop where
  rows : strings.length % 5 = 0
  decodable : ∀ row ∈ scanRows strings, Decodable row.long
  known : ∀ row ∈ scanRows strings, ∃ state, platform.rilStateToState row.state = .ok state
  digits : ∀ c ∈ lacStr, IsHexDigit c

theorem operatorInfosLoop_matches_iff {lacStr : JavaString} {lacValid : Bool} {lacIndex : Nat}
    {rows : List ScanRow} (decodable : ∀ row ∈ rows, Decodable row.long)
    (known : ∀ row ∈ rows, ∃ state, platform.rilStateToState row.state = .ok state)
    (digits : ∀ c ∈ lacStr, IsHexDigit c)
    (room : lacValid → lacIndex + 4 * rows.length ≤ lacStr.length) :
    (∃ infos, platform.operatorInfosLoop lacStr lacValid lacIndex rows = .ok infos ∧
      List.Forall₂ platform.RowMatches rows infos) ↔ ∀ row ∈ rows, platform.RowMeets row := by
  induction rows generalizing lacIndex with
  | nil => exact iff_of_true ⟨[], rfl, .nil⟩ fun _ absent => absurd absent List.not_mem_nil
  | cons row rows ih =>
    rw [List.forall_mem_cons] at decodable known ⊢
    rw [List.length_cons] at room
    have here (valid : lacValid) : lacIndex + 4 ≤ lacStr.length := by
      have := room valid
      omega
    have later {next : Nat} (small : next ≤ lacIndex + 4) (valid : lacValid) :
        next + 4 * rows.length ≤ lacStr.length := by
      have := room valid
      omega
    rw [← operatorInfo_matches_iff decodable.1 known.1 digits here]
    constructor
    · rintro ⟨infos, success, matched⟩
      obtain ⟨⟨info, next⟩, first, success⟩ := bind_eq_ok_iff.mp success
      obtain ⟨rest, loop, success⟩ := bind_eq_ok_iff.mp success
      cases success
      obtain ⟨matchesRow, matchesRest⟩ := List.forall₂_cons.mp matched
      exact ⟨⟨info, next, first, matchesRow⟩,
        (ih decodable.2 known.2 (later (operatorInfo_index_le first))).mp ⟨rest, loop, matchesRest⟩⟩
    · rintro ⟨⟨info, next, first, matchesRow⟩, meets⟩
      obtain ⟨rest, loop, matchesRest⟩ :=
        (ih decodable.2 known.2 (later (operatorInfo_index_le first))).mpr meets
      refine ⟨info :: rest, ?_, .cons matchesRow matchesRest⟩
      rw [operatorInfosLoop, first]
      simp only [bind, Except.bind, loop, pure, Except.pure]

/-- A well-formed scan is reported as it should be exactly when each of its rows is. -/
theorem responseOperatorInfos_scanned_iff {strings : List (Option JavaString)} {lacStr : JavaString}
    (wellFormed : platform.WellFormed strings lacStr) :
    platform.Scanned strings lacStr ↔ ∀ row ∈ scanRows strings, platform.RowMeets row := by
  rw [Scanned, responseOperatorInfos, if_neg (by simp [wellFormed.rows])]
  apply operatorInfosLoop_matches_iff wellFormed.decodable wellFormed.known wellFormed.digits
  intro valid
  obtain ⟨-, multiple, count⟩ := of_decide_eq_true valid
  rw [scanRows, List.length_map, List.length_range]
  omega

end ScanPlatform

/-- UTF-16 text with the high byte first and no mark. -/
def bigEndian : List UInt8 → JavaString
  | high :: low :: rest => ((high.toUInt16 <<< 8) ||| low.toUInt16) :: bigEndian rest
  | _ => []

/-- A first SIM on which the table is missing. -/
def firstSim (capability : Int) : ScanPlatform JavaString where
  utf16 := bigEndian
  getInt _ _ := capability
  rilStateToState
    | none => throw .nullPointer
    | some text =>
        if text ∈ [javaLit "unknown".toList, javaLit "available".toList, javaLit "current".toList,
          javaLit "forbidden".toList] then return text else throw (.runtime text)
  spnFile := .notFound
  mInstanceId := none

/-- A network with an access technology; `short` is its short name. -/
def scannedNetwork (short : Option JavaString) : List (Option JavaString) :=
  [some (uCs2 ++ javaLit "0041".toList), short, some (javaLit "46000".toList), some (javaLit "current".toList),
    some (javaLit "2".toList)]

theorem length_scannedNetwork (short : Option JavaString) : (scannedNetwork short).length = 5 := rfl

theorem scanRows_scannedNetwork (short : Option JavaString) :
    scanRows (scannedNetwork short) = [rowAt (scannedNetwork short) 0] := by
  rw [scanRows, length_scannedNetwork]
  rfl

theorem scannedNetwork_wellFormed (capability : Int) (short : Option JavaString) :
    (firstSim capability).WellFormed (scannedNetwork short) (javaLit "12fe".toList) where
  rows := by rw [length_scannedNetwork]
  decodable := by
    intro row member digits given
    rw [scanRows_scannedNetwork] at member
    cases List.mem_singleton.mp member
    have same : javaLit "0041".toList = digits := List.append_cancel_left (Option.some.inj given)
    rw [← same]
    exact ⟨rfl, forall_of_all (by decide)⟩
  known := by
    intro row member
    rw [scanRows_scannedNetwork] at member
    cases List.mem_singleton.mp member
    exact ⟨_, rfl⟩
  digits := forall_of_all (by decide)

theorem responseOperatorInfos_scanned_suffixed :
    (firstSim 4).Scanned (scannedNetwork (some (javaLit "A".toList))) (javaLit "12fe".toList) := by
  apply (ScanPlatform.responseOperatorInfos_scanned_iff (scannedNetwork_wellFormed 4 _)).mpr
  intro row member
  rw [scanRows_scannedNetwork] at member
  cases List.mem_singleton.mp member
  refine ⟨?_, fun _ => ⟨Option.some_ne_none _, .inr (Option.some_ne_none _)⟩⟩
  intro _
  decide

/-- With a capability above 3 one null short name loses the whole scan. -/
theorem responseOperatorInfos_nullShort_lost :
    (firstSim 4).WellFormed (scannedNetwork none) (javaLit "12fe".toList) ∧
      ¬ (firstSim 4).Scanned (scannedNetwork none) (javaLit "12fe".toList) := by
  refine ⟨scannedNetwork_wellFormed 4 none, ?_⟩
  rintro ⟨infos, success, -⟩
  cases success

end Mt6582.Ril

import Mathlib.Logic.Function.Basic
import Mt6582.Machine.Java

/-! # The parser of the YGPS application

`NmeaParser` keeps a list of satellites and a list of used identifiers for each talker. `parse` catches
what a sentence throws, so that a sentence may be left half done. The records of `RMC` and `GGA` only
write the talker's `Location`, which nothing here reads; `LocatingParser` has it too.
-/

namespace Mt6582.Ygps

open Machine

inductive Talker where
  | gp | gl | ga | bd
deriving DecidableEq, Repr

def Talker.text : Talker → JavaString
  | .gp => javaLit ['G', 'P']
  | .gl => javaLit ['G', 'L']
  | .ga => javaLit ['G', 'A']
  | .bd => javaLit ['B', 'D']

def mTalker : List Talker := [.gp, .gl, .ga, .bd]

structure SatelliteInfo (F : Type) where
  mPrn : Int
  mSnr : F
  mElevation : F
  mAzimuth : F
  mUsedInFix : Bool
  mColor : UInt32

structure SVExtraInfro where
  mPdop : JavaString := []
  mHdop : JavaString := []
  mVdop : JavaString := []
  mfixtype : JavaString := []
deriving DecidableEq, Repr

/-- The talker `none` has no satellites and no extra information, but may have used identifiers. -/
structure NmeaParser (F : Type) where
  mCurrentTalker : Option Talker
  mSatelInfoList : Talker → List (SatelliteInfo F)
  mExtraInfoList : Talker → SVExtraInfro
  mUsedFixIdMapList : Option Talker → Option (List Int)
  /-- How many `SV_UPDATE` messages were sent. -/
  svUpdates : Nat

/-- The constructor. -/
def NmeaParser.new (F : Type) : NmeaParser F where
  mCurrentTalker := none
  mSatelInfoList _ := []
  mExtraInfoList _ := {}
  mUsedFixIdMapList _ := none
  svUpdates := 0

def checkTalker (record : JavaString) : Option Talker := mTalker.find? fun s => contains record s.text

def checkTalkerColor : Talker → UInt32
  | .gp => 0xff00ffff
  | .gl => 0xffffff00
  | .ga => 0xffffffff
  | .bd => 0xff0000ff

/-! ## Numbers -/

/-- The scan has no bound: `charAt` throws behind the last character. -/
def removeFirstZero : JavaString → Except JavaException JavaString
  | [] => throw .indexOutOfBounds
  | c :: rest => if c = 48 then removeFirstZero rest else return c :: rest

/-- What `removeFirstZero` throws is not caught here; a number that cannot be read is 0. -/
def parseInt (str : JavaString) : Except JavaException Int :=
  if str = [] then return 0
  else do
    let mStr ← removeFirstZero str
    match Machine.parseInt 10 (some mStr) with
    | .ok d => return d
    | .error _ => return 0

section Floats

-- `Float.parseFloat`, without a value where it throws
variable {F : Type} [Zero F] (floatOf : JavaString → Option F)

def parseFloat (str : JavaString) : Except JavaException F :=
  if str = [] then return 0
  else do
    let mStr ← removeFirstZero str
    return (floatOf mStr).getD 0

/-- The signal strength may be followed by the checksum. -/
def parseSnr (field : JavaString) : Except JavaException F :=
  if contains field [42] then
    match split 42 field with
    | [] => throw .indexOutOfBounds
    | first :: _ => parseFloat floatOf first
  else parseFloat floatOf field

end Floats

/-- `values[i]`. -/
def valueAt (values : List JavaString) (i : Nat) : Except JavaException JavaString :=
  match values[i]? with
  | none => throw .indexOutOfBounds
  | some value => return value

namespace NmeaParser

variable {F : Type}

/-- The statements behind one that may have thrown. -/
def andThen (result : NmeaParser F × Except JavaException Unit)
    (next : NmeaParser F → NmeaParser F × Except JavaException Unit) : NmeaParser F × Except JavaException Unit :=
  match result with
  | (parser, .error fault) => (parser, .error fault)
  | (parser, .ok ()) => next parser

/-! ## The used identifiers -/

def isUsedInFix (parser : NmeaParser F) (prn : Int) : Bool × NmeaParser F :=
  match parser.mUsedFixIdMapList parser.mCurrentTalker with
  | none => (false, { parser with
      mUsedFixIdMapList := Function.update parser.mUsedFixIdMapList parser.mCurrentTalker (some []) })
  | some usedFixIdList => (decide (prn ∈ usedFixIdList), parser)

def addUsedFixId (parser : NmeaParser F) (prn : Int) : NmeaParser F :=
  let usedFixIdList := (parser.mUsedFixIdMapList parser.mCurrentTalker).getD []
  { parser with
    mUsedFixIdMapList :=
      Function.update parser.mUsedFixIdMapList parser.mCurrentTalker (some (usedFixIdList ++ [prn])) }

def clearUsedFixList (parser : NmeaParser F) : NmeaParser F :=
  { parser with mUsedFixIdMapList := Function.update parser.mUsedFixIdMapList parser.mCurrentTalker (some []) }

def setSatelliteList (parser : NmeaParser F) (talker : Talker) (svlist : List (SatelliteInfo F)) : NmeaParser F :=
  { parser with mSatelInfoList := Function.update parser.mSatelInfoList talker svlist }

/-- Keeps the satellites and takes their marks away. -/
def clearSatelliteList (parser : NmeaParser F) (talker : Talker) : NmeaParser F :=
  parser.setSatelliteList talker ((parser.mSatelInfoList talker).map fun sv => { sv with mUsedInFix := false })

/-! ## `GSA` -/

/-- The loop over `values[2]` to `values[14]`. -/
def addUsedFixIds : NmeaParser F → List JavaString → NmeaParser F × Except JavaException Unit
  | parser, [] => (parser, .ok ())
  | parser, value :: values =>
      match parseInt value with
      | .error fault => (parser, .error fault)
      | .ok prn => addUsedFixIds (if prn > 0 then parser.addUsedFixId prn else parser) values

def setExtra (parser : NmeaParser F) (talker : Talker) (change : SVExtraInfro → SVExtraInfro) : NmeaParser F :=
  { parser with
    mExtraInfoList := Function.update parser.mExtraInfoList talker (change (parser.mExtraInfoList talker)) }

/-- Seventeen values are asked for and the eighteenth is read. -/
def setDops (parser : NmeaParser F) (talker : Talker) (values : List JavaString) :
    NmeaParser F × Except JavaException Unit :=
  let parser := parser.setExtra talker fun mInfo =>
    { mInfo with mPdop := values.getD 15 [], mHdop := values.getD 16 [] }
  match valueAt values 17 with
  | .error fault => (parser, .error fault)
  | .ok vdop => (parser.setExtra talker fun mInfo => { mInfo with mVdop := vdop }, .ok ())

def parseGSA (parser : NmeaParser F) (record : JavaString) : NmeaParser F × Except JavaException Unit :=
  let values := split 44 record
  let parser := parser.clearUsedFixList
  match parser.mCurrentTalker with
  | none => (parser, .ok ())
  | some talker =>
      if values.length ≥ 17 then
        if values.getD 2 [] = [49] then (parser.clearSatelliteList talker, .ok ())
        else
          let parser := parser.setExtra talker fun mInfo => { mInfo with mfixtype := values.getD 2 [] }
          let parser := parser.clearSatelliteList talker
          andThen (parser.addUsedFixIds ((values.drop 2).take 13)) fun parser => parser.setDops talker values
      else (parser.clearSatelliteList talker, .ok ())

/-! ## `GSV` -/

variable [Zero F] (floatOf : JavaString → Option F)

/-- One satellite's four values, in the order in which they are read. -/
def readSatellite (id elevation azimuth snr : JavaString) : Except JavaException (Int × F × F × F) := do
  let satelliteNumber ← parseInt id
  let elevation ← parseFloat floatOf elevation
  let azimuth ← parseFloat floatOf azimuth
  let satelliteSnr ← parseSnr floatOf snr
  return (satelliteNumber, elevation, azimuth, satelliteSnr)

def addSatellite (parser : NmeaParser F) (talker : Talker) (satelliteNumber : Int) (elevation azimuth snr : F) :
    NmeaParser F :=
  let (used, parser) := parser.isUsedInFix satelliteNumber
  parser.setSatelliteList talker (parser.mSatelInfoList talker ++
    [⟨satelliteNumber, snr, elevation, azimuth, used, checkTalkerColor talker⟩])

/-- The loop, with `values` from `index` on. -/
def parseGSVLoop (talker : Talker) : NmeaParser F → List JavaString → NmeaParser F × Except JavaException Unit
  | parser, id :: elevation :: azimuth :: snr :: values =>
      match readSatellite floatOf id elevation azimuth snr with
      | .error fault => (parser, .error fault)
      | .ok (satelliteNumber, elevation, azimuth, satelliteSnr) =>
          parseGSVLoop talker
            (if satelliteNumber > 0 then parser.addSatellite talker satelliteNumber elevation azimuth satelliteSnr
              else parser) values
  | parser, _ => (parser, .ok ())

/-- `mTotalNum` and `mMsgInd`. -/
def readHeader (values : List JavaString) : Except JavaException (Int × Int) := do
  let mTotalNum ← parseInt (← valueAt values 1)
  let mMsgInd ← parseInt (← valueAt values 2)
  return (mTotalNum, mMsgInd)

/-- Behind the loop: the two numbers are compared as texts. -/
def sendUpdate (parser : NmeaParser F) (values : List JavaString) : NmeaParser F :=
  if values.getD 1 [] = values.getD 2 [] then { parser with svUpdates := parser.svUpdates + 1 } else parser

def parseGSV (parser : NmeaParser F) (record : JavaString) : NmeaParser F × Except JavaException Unit :=
  let values := split 44 record
  match parser.mCurrentTalker with
  | none => (parser, .ok ())
  | some talker =>
      match readHeader values with
      | .error fault => (parser, .error fault)
      | .ok (mTotalNum, mMsgInd) =>
          let parser := if mTotalNum > 0 ∧ mMsgInd = 1 then parser.setSatelliteList talker [] else parser
          andThen (parser.parseGSVLoop floatOf talker (values.drop 4)) fun parser => (parser.sendUpdate values, .ok ())

/-- What a sentence throws is caught and logged. -/
def parse (parser : NmeaParser F) (record : JavaString) : NmeaParser F :=
  let parser := { parser with mCurrentTalker := checkTalker record }
  if contains record (javaLit ['R', 'M', 'C']) then parser
  else if contains record (javaLit ['G', 'S', 'A']) then (parser.parseGSA record).1
  else if contains record (javaLit ['G', 'G', 'A']) then parser
  else if contains record (javaLit ['G', 'S', 'V']) then (parser.parseGSV floatOf record).1
  else parser

end NmeaParser

/-! ## Reading numerals -/

theorem removeFirstZero_eq (str : JavaString) :
    removeFirstZero str =
      if str.dropWhile (· = 48) = [] then .error .indexOutOfBounds else .ok (str.dropWhile (· = 48)) := by
  induction str with
  | nil => rfl
  | cons c rest ih =>
    rw [removeFirstZero, List.dropWhile_cons]
    rcases Decidable.em (c = 48) with rfl | other
    · exact ih
    · simp only [other, decide_false, if_false, Bool.false_eq_true, List.cons_ne_nil]
      rfl

theorem removeFirstZero_numeral (numeral : Numeral) :
    removeFirstZero numeral.text =
      if numeral.value = 0 then .error .indexOutOfBounds else .ok numeral.significant := by
  rw [removeFirstZero_eq]
  exact if_congr numeral.value_eq_zero_iff.symm rfl rfl

/-- A numeral of zeros is not 0 but an exception. -/
theorem parseInt_numeral (numeral : Numeral) :
    parseInt numeral.text =
      if numeral.value = 0 then .error .indexOutOfBounds
      else .ok (if numeral.value < 2 ^ 31 then (numeral.value : Int) else 0) := by
  rw [parseInt, if_neg numeral.nonempty, removeFirstZero_numeral]
  split_ifs with zeros small
  · rfl
  · simp only [bind, Except.bind, numeral.parseInt_significant zeros, small, if_true]
    rfl
  · simp only [bind, Except.bind, numeral.parseInt_significant zeros, small, if_false]
    rfl

section Floats

variable {F : Type} [Zero F] (floatOf : JavaString → Option F)

/-- The number in a field: what `Float.parseFloat` makes of its text, and 0 for an empty one. -/
def fieldValue (field : JavaString) : F := if field = [] then 0 else (floatOf field).getD 0

/-- A zero before a numeral does not change its value. -/
def IgnoresZeros : Prop :=
  ∀ text : JavaString, text ≠ [] → (∀ c ∈ text, IsDecimal c) → floatOf (48 :: text) = floatOf text

variable {floatOf}

omit [Zero F] in
theorem floatOf_dropWhile (ignores : IgnoresZeros floatOf) {text : JavaString}
    (decimal : ∀ c ∈ text, IsDecimal c) (positive : text.dropWhile (· = 48) ≠ []) :
    floatOf (text.dropWhile (· = 48)) = floatOf text := by
  induction text with
  | nil => rfl
  | cons c rest ih =>
    rcases Decidable.em (c = 48) with rfl | other
    · have digits := (List.forall_mem_cons.mp decimal).2
      have same : (48 :: rest).dropWhile (· = 48) = rest.dropWhile (· = 48) := rfl
      rw [same] at positive ⊢
      have nonempty : rest ≠ [] := by
        rintro rfl
        exact positive rfl
      rw [ih digits positive, ignores rest nonempty digits]
    · rw [List.dropWhile_cons_of_neg (by simpa using other)]

theorem parseFloat_numeral (ignores : IgnoresZeros floatOf) (numeral : Numeral) :
    parseFloat floatOf numeral.text =
      if numeral.value = 0 then .error .indexOutOfBounds else .ok (fieldValue floatOf numeral.text) := by
  rw [parseFloat, if_neg numeral.nonempty, removeFirstZero_numeral, fieldValue,
    if_neg numeral.nonempty]
  split_ifs with zeros
  · rfl
  · have significant := (not_congr numeral.value_eq_zero_iff).mp zeros
    have same : floatOf numeral.significant = floatOf numeral.text :=
      floatOf_dropWhile ignores numeral.decimal significant
    simp only [bind, Except.bind, same]
    rfl

/-- Behind a sign the zeros stay. -/
theorem parseFloat_negative (digits : JavaString) :
    parseFloat floatOf (45 :: digits) = .ok (fieldValue floatOf (45 :: digits)) := by
  rw [parseFloat, fieldValue, if_neg (List.cons_ne_nil _ _), if_neg (List.cons_ne_nil _ _),
    removeFirstZero]
  rfl

/-- A float whose value is a whole number. -/
structure WholeFloat where
  value : Int
deriving DecidableEq, Repr

instance : Zero WholeFloat := ⟨⟨0⟩⟩

/-- `Float.parseFloat` on whole numbers. -/
def wholeNumber : JavaString → Option WholeFloat
  | [] => none
  | c :: digits => some ⟨if c = 45 then -Numeral.valueOf digits else Numeral.valueOf (c :: digits)⟩

theorem wholeNumber_ignoresZeros : IgnoresZeros wholeNumber := by
  intro text nonempty decimal
  cases text with
  | nil => exact absurd rfl nonempty
  | cons c digits =>
    have unsigned : c ≠ 45 :=
      fun equal => absurd (equal ▸ decimal c List.mem_cons_self : IsDecimal 45) (by decide)
    have same : Numeral.valueOf (48 :: c :: digits) = Numeral.valueOf (c :: digits) :=
      @Numeral.valueOf_zeros [48] (c :: digits) (forall_of_all (by decide))
    simp only [wholeNumber, if_neg unsigned, same]
    rfl

end Floats

end Mt6582.Ygps

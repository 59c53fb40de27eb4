import Mt6582.Ygps.NmeaParser

/-! # Positions of the talkers

Each talker has a `Location` besides its satellites, which the records of `RMC` and `GGA` fill. Both read
all their values before they set the first.
-/

namespace Mt6582.Ygps

open Machine

/-- The `double` operations of the parser. -/
structure Doubles (D F : Type) where
  /-- `Double.parseDouble`, without a value where it throws. -/
  ofText : JavaString → Option D
  zero : D
  minusTwo : D
  neg : D → D
  isPositive : D → Bool
  isNegative : D → Bool
  /-- From knots, by the factor 1.852. -/
  kmPerHour : D → D
  toInt : D → Int
  toLong : D → Int
  toFloat : D → F
  ofInt : Int → F
  timesThousand : F → F

/-- What the parser takes from the platform: its numbers, and `Location` with the setters that are called. -/
structure ParserPlatform (D F L : Type) extends Doubles D F where
  newLocation : L
  setTime : Int → L → L
  setLatitude : D → L → L
  setLongitude : D → L → L
  setAltitude : D → L → L
  setBearing : F → L → L
  setSpeed : F → L → L

variable {D F L : Type}

/-- The satellites of the talkers and their positions. -/
structure LocatingParser (L F : Type) extends NmeaParser F where
  mLocRecord : Talker → L

/-- The records of two parsers agree. -/
structure SameRecords (parser next : LocatingParser L F) : Prop where
  satellites : next.mSatelInfoList = parser.mSatelInfoList
  used : next.mUsedFixIdMapList = parser.mUsedFixIdMapList
  extra : next.mExtraInfoList = parser.mExtraInfoList
  locations : next.mLocRecord = parser.mLocRecord

/-- The constructor. -/
def LocatingParser.new (platform : ParserPlatform D F L) : LocatingParser L F where
  toNmeaParser := NmeaParser.new F
  mLocRecord _ := platform.newLocation

/-- The kinds of sentences, in the order of the searches. -/
inductive Kind where
  | rmc | gsa | gga | gsv
deriving DecidableEq, Repr

def Kind.text : Kind → JavaString
  | .rmc => javaLit ['R', 'M', 'C']
  | .gsa => javaLit ['G', 'S', 'A']
  | .gga => javaLit ['G', 'G', 'A']
  | .gsv => javaLit ['G', 'S', 'V']

def kinds : List Kind := [.rmc, .gsa, .gga, .gsv]

def checkKind (record : JavaString) : Option Kind := kinds.find? fun kind => contains record kind.text

theorem checkKind_eq (record : JavaString) :
    checkKind record = if contains record (javaLit ['R', 'M', 'C']) then some .rmc
      else if contains record (javaLit ['G', 'S', 'A']) then some .gsa
      else if contains record (javaLit ['G', 'G', 'A']) then some .gga
      else if contains record (javaLit ['G', 'S', 'V']) then some .gsv else none := by
  simp only [checkKind, kinds, List.find?_cons, Kind.text, List.find?_nil]
  grind

variable (doubles : Doubles D F)

def parseDouble (str : JavaString) : Except JavaException D :=
  if str = [] then return doubles.zero
  else do
    let mStr ← removeFirstZero str
    return (doubles.ofText mStr).getD doubles.zero

/-! ## `RMC` -/

/-- What `parseRMC` reads. -/
structure RmcValues (D : Type) where
  warning : JavaString
  latitude : D
  longitude : D
  groundSpeed : D
  course : Int

/-- The coordinate in a field, negated unless its direction is the given letter. -/
def parseCoordinate (positive : UInt16) (field direction : JavaString) : Except JavaException D := do
  let value ← parseDouble doubles field
  return if direction = [positive] then value else doubles.neg value

/-- A course that cannot be read is 180. -/
def parseCourse (courseString : JavaString) : Int :=
  if courseString = [] then 0
  else match parseDouble doubles courseString with
    | .error _ => 180
    | .ok course => doubles.toInt course

def readRMC (values : List JavaString) : Except JavaException (RmcValues D) := do
  let warning ← valueAt values 2
  let latitude ← valueAt values 3
  let latitudeDirection ← valueAt values 4
  let longitude ← valueAt values 5
  let longitudeDirection ← valueAt values 6
  let groundSpeed ← parseDouble doubles (← valueAt values 7)
  let courseString ← valueAt values 8
  if longitude ≠ [] ∧ latitude ≠ [] then
    let longitudeDouble ← parseCoordinate doubles 69 longitude longitudeDirection
    let latitudeDouble ← parseCoordinate doubles 78 latitude latitudeDirection
    return ⟨warning, latitudeDouble, longitudeDouble, groundSpeed, parseCourse doubles courseString⟩
  else return ⟨warning, doubles.zero, doubles.zero, groundSpeed, parseCourse doubles courseString⟩

def rmcSpeed (groundSpeed : D) : D :=
  let speed := if doubles.isPositive groundSpeed then doubles.kmPerHour groundSpeed else doubles.minusTwo
  if doubles.isNegative speed then doubles.zero else speed

def RmcValues.apply (platform : ParserPlatform D F L) (values : RmcValues D) (loc : L) : L :=
  let loc := platform.setLatitude values.latitude loc
  let loc := platform.setLongitude values.longitude loc
  let loc := platform.setBearing (platform.ofInt values.course) loc
  platform.setSpeed (platform.timesThousand (platform.toFloat (rmcSpeed platform.toDoubles values.groundSpeed))) loc

/-! ## `GGA` -/

/-- What `parseGGA` reads. -/
structure GgaValues (D : Type) where
  utcTime : Int
  lat : D
  longt : D
  alti : D
deriving DecidableEq

def readGGA (values : List JavaString) : Except JavaException (GgaValues D) := do
  let utcTime ← parseDouble doubles (← valueAt values 1)
  let lat ← parseDouble doubles (← valueAt values 2)
  let longt ← parseDouble doubles (← valueAt values 4)
  let alti ← parseDouble doubles (← valueAt values 9)
  let latDirection ← valueAt values 3
  let longtDirection ← valueAt values 5
  return ⟨doubles.toLong utcTime, if latDirection = [78] then lat else doubles.neg lat,
    if longtDirection = [69] then longt else doubles.neg longt, alti⟩

def GgaValues.apply (platform : ParserPlatform D F L) (values : GgaValues D) (mInfo : L) : L :=
  let mInfo := platform.setTime values.utcTime mInfo
  let mInfo := platform.setLatitude values.lat mInfo
  let mInfo := platform.setLongitude values.longt mInfo
  platform.setAltitude values.alti mInfo

/-! ## The four kinds together -/

namespace LocatingParser

variable (platform : ParserPlatform D F L)

def setLocation (parser : LocatingParser L F) (talker : Talker) (change : L → L) :
    LocatingParser L F :=
  { parser with mLocRecord := Function.update parser.mLocRecord talker (change (parser.mLocRecord talker)) }

@[simp] theorem setLocation_self (parser : LocatingParser L F) (talker : Talker)
    (change : L → L) :
    (parser.setLocation talker change).mLocRecord talker = change (parser.mLocRecord talker) :=
  Function.update_self ..

@[simp] theorem setLocation_of_ne (parser : LocatingParser L F) {talker other : Talker}
    (different : other ≠ talker) (change : L → L) :
    (parser.setLocation talker change).mLocRecord other = parser.mLocRecord other :=
  Function.update_of_ne different _ _

def parseRMC (parser : LocatingParser L F) (record : JavaString) : LocatingParser L F × Except JavaException Unit :=
  match readRMC platform.toDoubles (split 44 record) with
  | .error fault => (parser, .error fault)
  | .ok values =>
      match parser.mCurrentTalker with
      | none => (parser, .ok ())
      | some talker =>
          if values.warning = [65] then (parser.setLocation talker (values.apply platform), .ok ()) else (parser, .ok ())

def parseGGA (parser : LocatingParser L F) (record : JavaString) : LocatingParser L F × Except JavaException Unit :=
  match readGGA platform.toDoubles (split 44 record) with
  | .error fault => (parser, .error fault)
  | .ok values =>
      match parser.mCurrentTalker with
      | none => (parser, .ok ())
      | some talker => (parser.setLocation talker (values.apply platform), .ok ())

/-- A step on the satellites leaves the positions. -/
def onSatellites (parser : LocatingParser L F) (step : NmeaParser F → NmeaParser F × Except JavaException Unit) :
    LocatingParser L F × Except JavaException Unit :=
  ({ parser with toNmeaParser := (step parser.toNmeaParser).1 }, (step parser.toNmeaParser).2)

variable [Zero F] (floatOf : JavaString → Option F)

/-- The sub-parser of a kind, with what it throws. -/
def subParser (kind : Kind) (parser : LocatingParser L F) (record : JavaString) :
    LocatingParser L F × Except JavaException Unit :=
  match kind with
  | .rmc => parser.parseRMC platform record
  | .gsa => parser.onSatellites fun satellites => satellites.parseGSA record
  | .gga => parser.parseGGA platform record
  | .gsv => parser.onSatellites fun satellites => satellites.parseGSV floatOf record

/-- `parse` inside its `try`. -/
def tryParse (parser : LocatingParser L F) (record : JavaString) : LocatingParser L F × Except JavaException Unit :=
  let parser := { parser with mCurrentTalker := checkTalker record }
  match checkKind record with
  | none => (parser, .ok ())
  | some kind => subParser platform floatOf kind parser record

def parse (parser : LocatingParser L F) (record : JavaString) : LocatingParser L F :=
  (tryParse platform floatOf parser record).1

/-- Without the positions it is the parser of the satellites. -/
theorem parse_toNmeaParser (parser : LocatingParser L F) (record : JavaString) :
    (parse platform floatOf parser record).toNmeaParser =
      parser.toNmeaParser.parse floatOf record := by
  rw [parse, tryParse, NmeaParser.parse, checkKind_eq]
  split_ifs
  · simp only [subParser, parseRMC]
    split
    · rfl
    · split
      · rfl
      · split_ifs <;> rfl
  · rfl
  · simp only [subParser, parseGGA]
    split
    · rfl
    · split <;> rfl
  · rfl
  · rfl

end LocatingParser

/-- `double` and `float` on whole numbers. -/
def wholeDoubles : Doubles WholeFloat WholeFloat where
  ofText := wholeNumber
  zero := 0
  minusTwo := ⟨-2⟩
  neg d := ⟨-d.value⟩
  isPositive d := d.value > 0
  isNegative d := d.value < 0
  kmPerHour d := ⟨d.value * 1852 / 1000⟩
  toInt d := d.value
  toLong d := d.value
  toFloat d := d
  ofInt i := ⟨i⟩
  timesThousand f := ⟨f.value * 1000⟩

/-- A `Location` of whole numbers. The altitude, the bearing and the speed may not be set. -/
structure WholeLocation where
  time : Int := 0
  latitude : Int := 0
  longitude : Int := 0
  altitude : Option Int := none
  bearing : Option Int := none
  speed : Option Int := none
deriving DecidableEq, Repr

def wholePlatform : ParserPlatform WholeFloat WholeFloat WholeLocation where
  toDoubles := wholeDoubles
  newLocation := {}
  setTime time loc := { loc with time := time }
  setLatitude latitude loc := { loc with latitude := latitude.value }
  setLongitude longitude loc := { loc with longitude := longitude.value }
  setAltitude altitude loc := { loc with altitude := some altitude.value }
  setBearing bearing loc := { loc with bearing := some (bearing.value % 360) }
  setSpeed speed loc := { loc with speed := some speed.value }

end Mt6582.Ygps

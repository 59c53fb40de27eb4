import Mt6582.Gps.Nmea.Reader

/-! # `nmea_reader_parse` and `nmea_reader_addc`

The parser of a build without `GPS_AT_COMMAND`. It returns the new state with the calls it makes, in
order: the callbacks of `callback_backup_mtk`, the position log message and the file written by
`mtk_gps_update_location`. `Call.parse` records that a line was handed to the parser.

The GSA, GSV and report code stands twice in the source, which chooses by comparing the registered size with
`sizeof(GpsCallbacks_mtk)` and `sizeof(GpsCallbacks)`. The two are equal as long as `gps_mtk.h` keeps
`gnss_sv_status_cb` commented out. The first is the argument `mtkSize`, by default the size the header gives.
-/

namespace Mt6582.Gps

variable {F : Type} {pf : Platform F}

/-- `nlp_context`, as `nmea_reader_parse` fills it. -/
structure NlpContext (F : Type) where
  latitude : F
  longitude : F
  accuracy : F
  sec : Int
  nsec : Int
  type : Nat
  started : Bool
deriving DecidableEq, Repr

/-- What the reader does to the outside. -/
inductive Call (pf : Platform F) where
  | parse (sentence : List Byte)
  | logPosition (latitude longitude : F)
  | location (fix : GpsLocation F)
  | updateLocation (context : NlpContext F)
  | gnssSvStatus (status : GnssSvStatus pf)
  | svStatus (status : GpsSvStatus F)
  | nmea (timestamp : Int) (sentence : List Byte)

/-- What the parser reads besides its reader: the registered callbacks' size, `started`, the clock
and the value of `persist.radio.mnl.prop` (empty when unset). -/
structure ParseEnv where
  callbacksSize : Nat
  started : Bool
  now : Int
  mnlProp : List Byte

/-- The reader with the globals `sv_used_in_fix` and `gps_nmea_end_tag`. -/
structure NmeaState (pf : Platform F) where
  reader : NmeaReader pf
  svUsedInFix : SvUsedInFix
  gpsNmeaEndTag : Bool

/-- `get_prop`: byte 6 of the zero-filled property buffer. -/
def getProp (value : List Byte) : Int :=
  if 0 < value.length then (byteAt value 6).toNat - 48 else 0

/-- The GGA branch. -/
def parseGga (env : ParseEnv) (tzer : List Token) (r : NmeaReader pf) : NmeaReader pf :=
  let r := (nmeaReaderUpdateTime r env.now (nmeaTokenizerGet tzer 1)).1
  let r := (nmeaReaderUpdateLatlong r (nmeaTokenizerGet tzer 2) (nmeaTokenizerGet tzer 3)
    (nmeaTokenizerGet tzer 4) (nmeaTokenizerGet tzer 5)).1
  (nmeaReaderUpdateAltitude r (nmeaTokenizerGet tzer 9)).1

/-- The satellite loop of the GSA branch for `GpsCallbacks_mtk`, from index `idx` on. -/
def gsaLoop (tzer : List Token) (bds : Bool) : Nat → Nat → SvUsedInFix → SvUsedInFix
  | 0, _, used => used
  | left + 1, idx, used =>
      let tok := nmeaTokenizerGet tzer (idx + 3)
      if tok.p = tok.fin then used
      else
        let id := if bds then wrap32 (tok.int + 200) else tok.int
        if 1 ≤ id ∧ id ≤ 32 then gsaLoop tzer bds left (idx + 1) (Function.update used id true)
        else if 193 ≤ id ∧ id ≤ 197 then gsaLoop tzer bds left (idx + 1) (Function.update used id false)
        else if 65 ≤ id ∧ id ≤ 96 then gsaLoop tzer bds left (idx + 1) (Function.update used id true)
        else if 201 ≤ id ∧ id ≤ 232 then gsaLoop tzer bds left (idx + 1) (Function.update used id true)
        else used

/-- The GSA branch for `GpsCallbacks_mtk`. -/
def parseGsa (tzer : List Token) (bds : Bool) (s : NmeaState pf) : NmeaState pf :=
  let s := { s with reader := { s.reader with fixMode := (nmeaTokenizerGet tzer 2).int } }
  if s.reader.locFixed then { s with svUsedInFix := gsaLoop tzer bds 12 0 s.svUsedInFix } else s

/-- The satellite loop of the GSA branch for `GpsCallbacks`. -/
def gsaLoopGps (tzer : List Token) : Nat → Nat → BitVec 32 → BitVec 32
  | 0, _, mask => mask
  | left + 1, idx, mask =>
      let tok := nmeaTokenizerGet tzer (idx + 3)
      if tok.p = tok.fin then mask
      else if 1 ≤ tok.int ∧ tok.int ≤ 32 then
        gsaLoopGps tzer left (idx + 1) (mask ||| BitVec.twoPow 32 (tok.int - 1).toNat)
      else if 193 ≤ tok.int ∧ tok.int ≤ 197 then gsaLoopGps tzer left (idx + 1) mask
      else mask

/-- The GSA branch for `GpsCallbacks`. -/
def parseGsaGps (tzer : List Token) (r : NmeaReader pf) : NmeaReader pf :=
  let r := { r with
    fixMode := (nmeaTokenizerGet tzer 2).int
    svStatusGps := { r.svStatusGps with usedInFixMask := 0 } }
  if r.locFixed then
    { r with svStatusGps := { r.svStatusGps with usedInFixMask := gsaLoopGps tzer 12 0 0 } }
  else r

/-- The RMC branch. -/
def parseRmc (env : ParseEnv) (tzer : List Token) (r : NmeaReader pf) : NmeaReader pf :=
  if (nmeaTokenizerGet tzer 2).first = 'A'.toUInt8 then
    let r := (nmeaReaderUpdateDate r env.now (nmeaTokenizerGet tzer 9) (nmeaTokenizerGet tzer 1)).1
    let r := (nmeaReaderUpdateLatlong r (nmeaTokenizerGet tzer 3) (nmeaTokenizerGet tzer 4)
      (nmeaTokenizerGet tzer 5) (nmeaTokenizerGet tzer 6)).1
    let r := (nmeaReaderUpdateBearing r (nmeaTokenizerGet tzer 8)).1
    (nmeaReaderUpdateSpeed r (nmeaTokenizerGet tzer 7)).1
  else r

/-- The loop bound `sv_num` of a GSV sentence. -/
def gsvSvNum (seq cnt : Int) : Int :=
  let svNum := wrap32 (cnt - wrap32 (wrap32 (seq - 1) * nmeaMaxSvInfo))
  if nmeaMaxSvInfo < svNum then nmeaMaxSvInfo else svNum

/-- `sv_id` of the satellite at loop index `idx`. -/
def gsvSvId (tzer : List Token) (bds : Bool) (idx : Nat) : Int :=
  let id := (nmeaTokenizerGet tzer (4 * (idx + 1))).int
  if bds then wrap32 (id + 200) else id

/-- The first sentence of a group restarts the count of satellites. -/
def gsvStart (seq : Int) (r : NmeaReader pf) : NmeaReader pf := if seq = 1 then { r with svCount := 0 } else r

/-- The satellite loop of the GSV branch for `GpsCallbacks_mtk`. -/
def gsvFill (tzer : List Token) (bds : Bool) (used : SvUsedInFix) (svNum : Int) (r : NmeaReader pf) : NmeaReader pf :=
  (List.range svNum.toNat).foldl (fun r idx =>
    nmeaReaderUpdateSvStatusGnss used r (gsvSvId tzer bds idx) (nmeaTokenizerGet tzer (4 * (idx + 1) + 1))
      (nmeaTokenizerGet tzer (4 * (idx + 1) + 2)) (nmeaTokenizerGet tzer (4 * (idx + 1) + 3))) r

/-- The last sentence of a group adds its count to `num_svs`, or drops all satellites. -/
def gsvClose (num seq cnt : Int) (r : NmeaReader pf) : NmeaReader pf :=
  if seq = num then
    if r.svCount ≤ cnt then
      { r with svStatusGnss := { r.svStatusGnss with numSvs := wrap32 (r.svStatusGnss.numSvs + r.svCount) } }
    else { r with svCount := 0, svStatusGnss := { r.svStatusGnss with numSvs := 0 } }
  else r

/-- The GSV branch for `GpsCallbacks_mtk`. -/
def parseGsv (tzer : List Token) (bds : Bool) (used : SvUsedInFix) (r : NmeaReader pf) : NmeaReader pf :=
  let num := (nmeaTokenizerGet tzer 1).int
  let seq := (nmeaTokenizerGet tzer 2).int
  let cnt := (nmeaTokenizerGet tzer 3).int
  gsvClose num seq cnt (gsvFill tzer bds used (gsvSvNum seq cnt) (gsvStart seq r))

/-- The satellite loop of the GSV branch for `GpsCallbacks`. -/
def gsvFillGps (tzer : List Token) (bds : Bool) (svNum : Int) (r : NmeaReader pf) : NmeaReader pf :=
  (List.range svNum.toNat).foldl (fun r idx =>
    nmeaReaderUpdateSvStatusGps r (gsvSvId tzer bds idx) (nmeaTokenizerGet tzer (4 * (idx + 1) + 1))
      (nmeaTokenizerGet tzer (4 * (idx + 1) + 2)) (nmeaTokenizerGet tzer (4 * (idx + 1) + 3))) r

def gsvCloseGps (num seq cnt : Int) (r : NmeaReader pf) : NmeaReader pf :=
  if seq = num then
    if r.svCount ≤ cnt then
      { r with svStatusGps := { r.svStatusGps with
          numSvs := wrap32 (r.svStatusGps.numSvs + r.svCount), almanacMask := 0, ephemerisMask := 0 } }
    else { r with svCount := 0, svStatusGps := { r.svStatusGps with numSvs := 0 } }
  else r

/-- The GSV branch for `GpsCallbacks`. -/
def parseGsvGps (tzer : List Token) (bds : Bool) (r : NmeaReader pf) : NmeaReader pf :=
  let num := (nmeaTokenizerGet tzer 1).int
  let seq := (nmeaTokenizerGet tzer 2).int
  let cnt := (nmeaTokenizerGet tzer 3).int
  gsvCloseGps num seq cnt (gsvFillGps tzer bds (gsvSvNum seq cnt) (gsvStart seq r))

/-- The ACCURACY branch. -/
def parseAccuracy (tzer : List Token) (r : NmeaReader pf) : NmeaReader pf :=
  if r.fixMode = 3 ∨ r.fixMode = 2 then (nmeaReaderUpdateAccuracy r (nmeaTokenizerGet tzer 1)).1 else r

/-- The dispatch on the sentence id; `tok` is token 0, at least five characters long. -/
def nmeaReaderDispatch (env : ParseEnv) (tzer : List Token) (tok : Token) (s : NmeaState pf)
    (mtkSize : Nat := pf.sizeofGpsCallbacksMtk) : NmeaState pf :=
  let bds := memEq tok.mem tok.p (lit ['B', 'D'])
  let is := memEq tok.mem tok.p
  let type := memEq tok.mem (tok.p + 2)
  if type (lit ['G', 'G', 'A']) then { s with reader := parseGga env tzer s.reader }
  else if env.callbacksSize = mtkSize ∧ (is (lit ['G', 'P', 'G', 'S', 'A']) ∨
      is (lit ['B', 'D', 'G', 'S', 'A']) ∨ is (lit ['G', 'L', 'G', 'S', 'A'])) then parseGsa tzer bds s
  else if env.callbacksSize = pf.sizeofGpsCallbacks ∧ is (lit ['G', 'P', 'G', 'S', 'A']) then
    { s with reader := parseGsaGps tzer s.reader }
  else if type (lit ['R', 'M', 'C']) then { s with reader := parseRmc env tzer s.reader }
  else if env.callbacksSize = mtkSize ∧ type (lit ['G', 'S', 'V']) then
    { s with reader := parseGsv tzer bds s.svUsedInFix s.reader }
  else if env.callbacksSize = pf.sizeofGpsCallbacks ∧
      (is (lit ['G', 'P', 'G', 'S', 'V']) ∨ is (lit ['G', 'L', 'G', 'S', 'V'])) then
    { s with reader := parseGsvGps tzer bds s.reader }
  else if type (lit ['A', 'C', 'C', 'U', 'R', 'A', 'C', 'Y']) then
    { s with reader := parseAccuracy tzer s.reader }
  else s

/-- The fix report at the end of `nmea_reader_parse`. -/
def nmeaReaderReportFix (env : ParseEnv) (s : NmeaState pf) : NmeaState pf × List (Call pf) :=
  let r := s.reader
  if r.locFixed = false then (s, [])
  else if r.fix.flags ≠ 0 ∧ s.gpsNmeaEndTag then
    let log := if getProp env.mnlProp ≠ 0 then [.logPosition r.fix.latitude r.fix.longitude] else []
    let context : NlpContext F := {
      latitude := r.fix.latitude, longitude := r.fix.longitude, accuracy := r.fix.accuracy
      sec := r.fix.timestamp.tdiv 1000, nsec := r.fix.timestamp.tmod 1000 * 1000 * 1000
      type := 1, started := env.started }
    ({ s with reader := { r with fix := { r.fix with flags := 0 } } },
      log ++ [.location r.fix, .updateLocation context])
  else (s, [])

/-- The satellite report at the end of `nmea_reader_parse`. The legacy loop stops after its first
round, which clears `num_svs`. -/
def nmeaReaderReportSv (env : ParseEnv) (s : NmeaState pf) (mtkSize : Nat := pf.sizeofGpsCallbacksMtk) :
    NmeaState pf × List (Call pf) :=
  let r := s.reader
  if env.callbacksSize = mtkSize then
    if r.svStatusGnss.numSvs ≠ 0 ∧ s.gpsNmeaEndTag then
      ({ s with
          reader := { r with svCount := 0, svStatusGnss := { r.svStatusGnss with numSvs := 0 } }
          svUsedInFix := fun _ => false },
        [.gnssSvStatus r.svStatusGnss])
    else (s, [])
  else if r.svStatusGps.numSvs ≠ 0 ∧ s.gpsNmeaEndTag ∧ 0 < r.svStatusGps.numSvs then
    ({ s with reader := { r with
        svCount := 0, svStatusGps := { r.svStatusGps with numSvs := 0, usedInFixMask := 0 } } },
      [.svStatus r.svStatusGps])
  else (s, [])

/-- Both reports, in the source's order. -/
def nmeaReaderReport (env : ParseEnv) (s : NmeaState pf) (mtkSize : Nat := pf.sizeofGpsCallbacksMtk) :
    NmeaState pf × List (Call pf) :=
  let fix := nmeaReaderReportFix env s
  let sv := nmeaReaderReportSv env fix.1 mtkSize
  (sv.1, fix.2 ++ sv.2)

/-- `nmea_reader_parse` on the line `in[0..pos)`. -/
def nmeaReaderParse (env : ParseEnv) (s : NmeaState pf) (mtkSize : Nat := pf.sizeofGpsCallbacksMtk) :
    NmeaState pf × List (Call pf) :=
  if s.reader.pos < 9 then (s, [])
  else
    let tzer := nmeaTokenizerInit s.reader.inBuf.toList 0 s.reader.pos
    let tok := nmeaTokenizerGet tzer 0
    if tok.fin < tok.p + 5 then (s, [])
    else nmeaReaderReport env (nmeaReaderDispatch env tzer tok s mtkSize) mtkSize

/-- The bytes `in[0..pos)`. -/
def NmeaReader.line (r : NmeaReader pf) : List Byte := r.inBuf.toList.take r.pos

/-- `r->in[r->pos] = c; r->pos += 1`. -/
def NmeaReader.push (r : NmeaReader pf) (c : Byte) : NmeaReader pf :=
  { r with inBuf := r.inBuf.setIfInBounds r.pos c, pos := r.pos + 1 }

/-- `nmea_reader_addc`. -/
def nmeaReaderAddc (env : ParseEnv) (s : NmeaState pf) (c : Byte) (mtkSize : Nat := pf.sizeofGpsCallbacksMtk) :
    NmeaState pf × List (Call pf) :=
  let r := s.reader
  if r.overflow then ({ s with reader := { r with overflow := c ≠ lf } }, [])
  else if nmeaMaxSize ≤ r.pos then ({ s with reader := { r with overflow := true, pos := 0 } }, [])
  else
    let s := { s with reader := r.push c }
    if c = lf then
      let parsed := nmeaReaderParse env s mtkSize
      ({ parsed.1 with reader := { parsed.1.reader with pos := 0 } },
        .parse s.reader.line :: parsed.2 ++
          [.nmea parsed.1.reader.fix.timestamp parsed.1.reader.line])
    else (s, [])

end Mt6582.Gps

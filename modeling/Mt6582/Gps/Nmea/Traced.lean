import Mt6582.Machine.Buffer
import Mt6582.Machine.Traced
import Mt6582.Gps.Nmea.Legacy

/-! # The reader with its array accesses and integer computations

`nmea_reader_addc` and all it calls, statement by statement, recording every access to an array, every
call of `str2int` with its text and result, and the exact results of the computations on `int` values
taken from the input. The values computed are those of the reader without records. `mtkSize` is
`sizeof(GpsCallbacks_mtk)`, so that both copies of the satellite branches are covered.
-/

namespace Mt6582.Gps

open Machine

/-- What is recorded: an access to an array, a call of `str2int`, the exact result of an `int` computation. -/
inductive ReaderEvent where
  | access (place : Machine.Access)
  | call (text : List Byte) (result : Int)
  | compute (exact : Int)
deriving DecidableEq, Repr

abbrev Recorded := Traced ReaderEvent

/-- `count` elements from `start` on, of an array with `size`. -/
def touch (start : Int) (count size : Nat) : Recorded Unit := .record (.access ⟨start, count, size⟩)

def readByte (mem : List Byte) (i : Nat) : Recorded Byte := do
  touch i 1 mem.length
  pure (byteAt mem i)

/-- An `int` computation with this exact result. -/
def computeInt (exact : Int) : Recorded Int := do
  .record (.compute exact)
  pure (wrap32 exact)

/-- `memchr` -/
def memchrRecorded (mem : List Byte) (c : Byte) : Nat → Nat → Recorded (Option Nat)
  | _, 0 => pure none
  | p, n + 1 => do
      let b ← readByte mem p
      if b = c then pure (some p) else memchrRecorded mem c (p + 1) n

/-- `!memcmp(p, text, sizeof(text))`: all the bytes may be read. -/
def memcmpRecorded (mem : List Byte) (p : Nat) (text : List Byte) : Recorded Bool := do
  touch p text.length mem.length
  pure (memEq mem p text)

section Tokenizer

/-- The trimming steps of `nmea_tokenizer_init`. -/
def nmeaTokenizerTrimRecorded (mem : List Byte) (p fin : Nat) : Recorded (Nat × Nat) := do
  let p ← (
    if p < fin then do
      let first ← readByte mem p
      pure (if first = dollar then p + 1 else p)
    else pure p)
  let fin ← (
    if p < fin then do
      let last ← readByte mem (fin - 1)
      if last = lf then
        if p < fin - 1 then do
          let before ← readByte mem (fin - 1 - 1)
          pure (if before = cr then fin - 1 - 1 else fin - 1)
        else pure (fin - 1)
      else pure fin
    else pure fin)
  let fin ← (
    if p + 3 ≤ fin then do
      let mark ← readByte mem (fin - 3)
      pure (if mark = star then fin - 3 else fin)
    else pure fin)
  pure (p, fin)

/-- The loop of `nmea_tokenizer_init`. -/
def nmeaTokenizerLoopRecorded (mem : List Byte) (fin : Nat) :
    Nat → Nat → List Token → Recorded (List Token)
  | 0, _, tokens => pure tokens
  | rounds + 1, p, tokens =>
      if p < fin then do
        let found ← memchrRecorded mem comma p (fin - p)
        let q := found.getD fin
        let tokens ← (
          if p ≤ q ∧ tokens.length < maxNmeaTokens then do
            touch tokens.length 1 maxNmeaTokens
            pure (tokens ++ [⟨mem, p, q⟩])
          else pure tokens)
        nmeaTokenizerLoopRecorded mem fin rounds (if q < fin then q + 1 else q) tokens
      else pure tokens

def nmeaTokenizerInitRecorded (mem : List Byte) (p fin : Nat) : Recorded (List Token) := do
  let range ← nmeaTokenizerTrimRecorded mem p fin
  nmeaTokenizerLoopRecorded mem range.2 (range.2 - range.1) range.1 []

def nmeaTokenizerGetRecorded (tokens : List Token) (index : Nat) : Recorded Token :=
  if index < tokens.length then do
    touch index 1 maxNmeaTokens
    pure (nmeaTokenizerGet tokens index)
  else pure ⟨[0], 0, 0⟩

/-- `tok.p[0]` -/
def Token.firstRecorded (tok : Token) : Recorded Byte := readByte tok.mem tok.p

end Tokenizer

section Numbers

/-- The digit loop of `str2int`. -/
def str2intLoopRecorded (mem : List Byte) (fin : Nat) : Nat → Nat → Int → Recorded (Option Int)
  | 0, _, result => pure (some result)
  | len + 1, p, result =>
      if fin ≤ p then pure none
      else do
        let c ← readByte mem p
        if 0 ≤ (c.toNat : Int) - 48 ∧ (c.toNat : Int) - 48 < 10 then do
          let _ ← computeInt (result * 10)
          let result ← computeInt (result * 10 + ((c.toNat : Int) - 48))
          str2intLoopRecorded mem fin len (p + 1) result
        else pure none

/-- The result of `str2int`. -/
def str2intResultRecorded (mem : List Byte) (p fin : Nat) : Recorded Int := do
  let first ← readByte mem p
  let start := if first = minus then p + 1 else p
  let read ← str2intLoopRecorded mem fin (fin - start) start 0
  match read with
  | some result => if first = minus then computeInt (-result) else pure result
  | none => pure (-1)

def str2intRecorded (mem : List Byte) (p fin : Nat) : Recorded Int := do
  let result ← str2intResultRecorded mem p fin
  .record (.call (slice mem p fin) result)
  pure result

def Token.intRecorded (tok : Token) : Recorded Int := str2intRecorded tok.mem tok.p tok.fin

variable {F : Type} (pf : Platform F)

/-- `str2float`; the length goes to `memcpy` as a 32-bit `size_t`. -/
def str2floatRecorded (mem : List Byte) (p fin : Nat) : Recorded F :=
  let len : Int := fin - p
  if 16 ≤ len then pure (pf.ofInt 0)
  else do
    touch p (len % 2 ^ 32).toNat mem.length
    touch 0 (len % 2 ^ 32).toNat 16
    touch len 1 16
    pure (pf.strtod (slice mem p fin))

def Token.floatRecorded (tok : Token) : Recorded F := str2floatRecorded pf tok.mem tok.p tok.fin

end Numbers

variable {F : Type} {pf : Platform F}

section Fields

variable (r : NmeaReader pf)

def nmeaReaderUpdateTimeRecorded (now : Int) (tok : Token) : Recorded (NmeaReader pf) :=
  if tok.fin < tok.p + 6 then pure r
  else do
    let fresh := r.utcYear < 0
    let tm : Tm := if fresh then pf.gmtime now else {}
    let r := if fresh then { r with utcYear := tm.year + 1900, utcMon := tm.mon + 1, utcDay := tm.mday } else r
    let hour ← str2intRecorded tok.mem tok.p (tok.p + 2)
    let min ← str2intRecorded tok.mem (tok.p + 2) (tok.p + 4)
    let sec ← str2floatRecorded pf tok.mem (tok.p + 4) tok.fin
    let tm := { tm with
      hour := hour, min := min, sec := pf.toInt sec
      year := r.utcYear - 1900, mon := r.utcMon - 1, mday := r.utcDay, isdst := -1 }
    let fixTime := (pf.mktime (pf.mktime tm).1).2
    let fixTime := fixTime + (pf.localtime fixTime).gmtoff
    pure { r with fix := { r.fix with timestamp := fixTime * 1000 } }

def nmeaReaderUpdateDateRecorded (now : Int) (date time : Token) : Recorded (NmeaReader pf) :=
  if date.p + 6 ≠ date.fin then pure r
  else do
    let day ← str2intRecorded date.mem date.p (date.p + 2)
    let mon ← str2intRecorded date.mem (date.p + 2) (date.p + 4)
    let century ← str2intRecorded date.mem (date.p + 4) (date.p + 6)
    let year := century + 2000
    if day < 0 ∨ mon < 0 ∨ year < 0 then pure r
    else nmeaReaderUpdateTimeRecorded { r with utcYear := year, utcMon := mon, utcDay := day } now time

/-- `nmea_reader_update_latlong`; the bytes of the hemispheres are read by the caller. -/
def nmeaReaderUpdateLatlongRecorded (latitude : Token) (latitudeHemi : Byte) (longitude : Token)
    (longitudeHemi : Byte) :
    Recorded (NmeaReader pf) :=
  if latitude.fin < latitude.p + 6 then pure r
  else do
    let lat ← latitude.floatRecorded pf
    let lat :=
      if latitudeHemi = 'S'.toUInt8 then pf.neg (convertFromHhmm pf lat) else convertFromHhmm pf lat
    if longitude.fin < longitude.p + 6 then pure r
    else do
      let lon ← longitude.floatRecorded pf
      let lon :=
        if longitudeHemi = 'W'.toUInt8 then pf.neg (convertFromHhmm pf lon) else convertFromHhmm pf lon
      pure { r with fix := { (r.setFlag .latLong).fix with latitude := lat, longitude := lon } }

def nmeaReaderUpdateNumberRecorded (flag : LocationFlag) (tok : Token)
    (store : GpsLocation F → F → GpsLocation F) :
    Recorded (NmeaReader pf) :=
  if tok.fin ≤ tok.p then pure r
  else do
    let value ← tok.floatRecorded pf
    pure { r with fix := store (r.setFlag flag).fix value }

def nmeaReaderUpdateSvStatusGpsRecorded (prn : Int) (elevation azimuth snr : Token) :
    Recorded (NmeaReader pf) :=
  if prn ≤ 0 ∨ (prn < 65 ∧ gpsMaxSvs < prn) ∨ 96 < prn ∨ gpsMaxSvs ≤ r.svCount then pure r
  else
    let svIndex := wrap32 (r.svCount + r.svStatusGps.numSvs)
    if gpsMaxSvs ≤ svIndex then pure r
    else do
      touch svIndex 1 gpsMaxSvs
      let snr ← snr.floatRecorded pf
      let elevation ← elevation.intRecorded
      let azimuth ← azimuth.intRecorded
      let info : GpsSvInfo F :=
        ⟨prn, pf.toSingle snr, pf.toSingle (pf.ofInt elevation), pf.toSingle (pf.ofInt azimuth)⟩
      pure { r with
        svStatusGps := { r.svStatusGps with svList := storeAt r.svStatusGps.svList svIndex info }
        svCount := wrap32 (r.svCount + 1) }

/-- The entries of `sv_used_in_fix`. -/
def svUsedSize : Nat := 256

def nmeaReaderUpdateSvStatusGnssRecorded (used : SvUsedInFix) (prn : Int)
    (elevation azimuth snr : Token) :
    Recorded (NmeaReader pf) :=
  if prn ≤ 0 ∨ (prn < 65 ∧ gpsMaxSvs < prn) ∨ (96 < prn ∧ prn < 200) ∨ 232 < prn ∨
    pf.gnssMaxSvs ≤ r.svCount then pure r
  else
    let svIndex := wrap32 (r.svCount + r.svStatusGnss.numSvs)
    if pf.gnssMaxSvs ≤ svIndex then pure r
    else do
      touch svIndex 1 pf.gnssMaxSvs
      let snr ← snr.floatRecorded pf
      let elevation ← elevation.intRecorded
      let azimuth ← azimuth.intRecorded
      touch prn 1 svUsedSize
      let info : GnssSvInfo F :=
        ⟨prn, pf.toSingle snr, pf.toSingle (pf.ofInt elevation), pf.toSingle (pf.ofInt azimuth), used prn⟩
      pure { r with
        svStatusGnss := { r.svStatusGnss with svList := storeAt r.svStatusGnss.svList svIndex info }
        svCount := wrap32 (r.svCount + 1) }

end Fields

section Branches

variable (env : ParseEnv) (tzer : List Token) (bds : Bool)

def parseGgaRecorded (r : NmeaReader pf) : Recorded (NmeaReader pf) := do
  let time ← nmeaTokenizerGetRecorded tzer 1
  let latitude ← nmeaTokenizerGetRecorded tzer 2
  let latitudeHemi ← nmeaTokenizerGetRecorded tzer 3
  let longitude ← nmeaTokenizerGetRecorded tzer 4
  let longitudeHemi ← nmeaTokenizerGetRecorded tzer 5
  let altitude ← nmeaTokenizerGetRecorded tzer 9
  let _units ← nmeaTokenizerGetRecorded tzer 10
  let r ← nmeaReaderUpdateTimeRecorded r env.now time
  let north ← latitudeHemi.firstRecorded
  let east ← longitudeHemi.firstRecorded
  let r ← nmeaReaderUpdateLatlongRecorded r latitude north longitude east
  nmeaReaderUpdateNumberRecorded r .altitude altitude fun fix value =>
    { fix with altitude := value }

/-- The satellite loop of the GSA branch for `GpsCallbacks_mtk`; the store is to `sv_used_in_fix[id]`. -/
def gsaLoopRecorded : Nat → Nat → SvUsedInFix → Recorded SvUsedInFix
  | 0, _, used => pure used
  | left + 1, idx, used => do
      let tok ← nmeaTokenizerGetRecorded tzer (idx + 3)
      if tok.p = tok.fin then pure used
      else do
        let id ← tok.intRecorded
        let id := if bds then wrap32 (id + 200) else id
        if 1 ≤ id ∧ id ≤ 32 then do
          touch id 1 svUsedSize
          gsaLoopRecorded left (idx + 1) (Function.update used id true)
        else if 193 ≤ id ∧ id ≤ 197 then do
          touch id 1 svUsedSize
          gsaLoopRecorded left (idx + 1) (Function.update used id false)
        else if 65 ≤ id ∧ id ≤ 96 then do
          touch id 1 svUsedSize
          gsaLoopRecorded left (idx + 1) (Function.update used id true)
        else if 201 ≤ id ∧ id ≤ 232 then do
          touch id 1 svUsedSize
          gsaLoopRecorded left (idx + 1) (Function.update used id true)
        else pure used

def parseGsaRecorded (s : NmeaState pf) : Recorded (NmeaState pf) := do
  let fix ← nmeaTokenizerGetRecorded tzer 2
  let mode ← fix.intRecorded
  let s := { s with reader := { s.reader with fixMode := mode } }
  if s.reader.locFixed then do
    let used ← gsaLoopRecorded tzer bds 12 0 s.svUsedInFix
    pure { s with svUsedInFix := used }
  else pure s

def gsaLoopGpsRecorded : Nat → Nat → BitVec 32 → Recorded (BitVec 32)
  | 0, _, mask => pure mask
  | left + 1, idx, mask => do
      let tok ← nmeaTokenizerGetRecorded tzer (idx + 3)
      if tok.p = tok.fin then pure mask
      else do
        let id ← tok.intRecorded
        if 1 ≤ id ∧ id ≤ 32 then gsaLoopGpsRecorded left (idx + 1) (mask ||| BitVec.twoPow 32 (id - 1).toNat)
        else if 193 ≤ id ∧ id ≤ 197 then gsaLoopGpsRecorded left (idx + 1) mask
        else pure mask

def parseGsaGpsRecorded (r : NmeaReader pf) : Recorded (NmeaReader pf) := do
  let fix ← nmeaTokenizerGetRecorded tzer 2
  let mode ← fix.intRecorded
  let r := { r with fixMode := mode, svStatusGps := { r.svStatusGps with usedInFixMask := 0 } }
  if r.locFixed then do
    let mask ← gsaLoopGpsRecorded tzer 12 0 0
    pure { r with svStatusGps := { r.svStatusGps with usedInFixMask := mask } }
  else pure r

def parseRmcRecorded (r : NmeaReader pf) : Recorded (NmeaReader pf) := do
  let time ← nmeaTokenizerGetRecorded tzer 1
  let fixStatus ← nmeaTokenizerGetRecorded tzer 2
  let latitude ← nmeaTokenizerGetRecorded tzer 3
  let latitudeHemi ← nmeaTokenizerGetRecorded tzer 4
  let longitude ← nmeaTokenizerGetRecorded tzer 5
  let longitudeHemi ← nmeaTokenizerGetRecorded tzer 6
  let speed ← nmeaTokenizerGetRecorded tzer 7
  let bearing ← nmeaTokenizerGetRecorded tzer 8
  let date ← nmeaTokenizerGetRecorded tzer 9
  let status ← fixStatus.firstRecorded
  if status = 'A'.toUInt8 then do
    let r ← nmeaReaderUpdateDateRecorded r env.now date time
    let north ← latitudeHemi.firstRecorded
    let east ← longitudeHemi.firstRecorded
    let r ← nmeaReaderUpdateLatlongRecorded r latitude north longitude east
    let r ← nmeaReaderUpdateNumberRecorded r .bearing bearing fun fix value =>
        { fix with bearing := pf.toSingle value }
    nmeaReaderUpdateNumberRecorded r .speed speed fun fix value =>
      { fix with speed := pf.toSingle (pf.div value (pf.ofRat (1942795467 / 1000000000))) }
  else pure r

/-- `sv_num`, over `sv_base`. -/
def gsvSvNumRecorded (seq cnt : Int) : Recorded Int := do
  let group ← computeInt (seq - 1)
  let base ← computeInt (group * nmeaMaxSvInfo)
  let svNum ← computeInt (cnt - base)
  pure (if nmeaMaxSvInfo < svNum then nmeaMaxSvInfo else svNum)

def gsvSvIdRecorded (idx : Nat) : Recorded Int := do
  let tok ← nmeaTokenizerGetRecorded tzer (4 * (idx + 1))
  let id ← tok.intRecorded
  if bds then computeInt (id + 200) else pure id

/-- One round of the satellite loop, with the update of its copy. -/
def gsvRoundRecorded (update : NmeaReader pf → Int → Token → Token → Token → Recorded (NmeaReader pf))
    (r : NmeaReader pf) (idx : Nat) : Recorded (NmeaReader pf) := do
  let id ← gsvSvIdRecorded tzer bds idx
  let elevation ← nmeaTokenizerGetRecorded tzer (4 * (idx + 1) + 1)
  let azimuth ← nmeaTokenizerGetRecorded tzer (4 * (idx + 1) + 2)
  let snr ← nmeaTokenizerGetRecorded tzer (4 * (idx + 1) + 3)
  update r id elevation azimuth snr

/-- The GSV branch, with the update and the closing of its copy. -/
def parseGsvWithRecorded (update : NmeaReader pf → Int → Token → Token → Token → Recorded (NmeaReader pf))
    (close : Int → Int → Int → NmeaReader pf → NmeaReader pf) (r : NmeaReader pf) :
    Recorded (NmeaReader pf) := do
  let num ← nmeaTokenizerGetRecorded tzer 1
  let seq ← nmeaTokenizerGetRecorded tzer 2
  let cnt ← nmeaTokenizerGetRecorded tzer 3
  let num ← num.intRecorded
  let seq ← seq.intRecorded
  let cnt ← cnt.intRecorded
  let svNum ← gsvSvNumRecorded seq cnt
  let r ← (List.range svNum.toNat).foldlM (gsvRoundRecorded tzer bds update) (gsvStart seq r)
  pure (close num seq cnt r)

/-- The GSV branch for `GpsCallbacks_mtk`. -/
def parseGsvRecorded (used : SvUsedInFix) (r : NmeaReader pf) : Recorded (NmeaReader pf) :=
  parseGsvWithRecorded tzer bds (fun r => nmeaReaderUpdateSvStatusGnssRecorded r used) gsvClose r

/-- The GSV branch for `GpsCallbacks`. -/
def parseGsvGpsRecorded (r : NmeaReader pf) : Recorded (NmeaReader pf) :=
  parseGsvWithRecorded tzer bds nmeaReaderUpdateSvStatusGpsRecorded gsvCloseGps r

def parseAccuracyRecorded (r : NmeaReader pf) : Recorded (NmeaReader pf) :=
  if r.fixMode = 3 ∨ r.fixMode = 2 then do
    let accuracy ← nmeaTokenizerGetRecorded tzer 1
    nmeaReaderUpdateNumberRecorded r .accuracy accuracy fun fix value =>
      { fix with accuracy := pf.toSingle value }
  else pure r

end Branches

section Parse

variable (mtkSize : Nat) (env : ParseEnv)

/-- `cond && x` -/
def andRecorded (cond : Prop) [Decidable cond] (x : Recorded Bool) : Recorded Bool :=
  if cond then x else pure false

/-- `x || y` -/
def orRecorded (x y : Recorded Bool) : Recorded Bool := do
  let first ← x
  if first then pure true else y

def nmeaReaderDispatchRecorded (tzer : List Token) (tok : Token) (s : NmeaState pf) :
    Recorded (NmeaState pf) := do
  let is := memcmpRecorded tok.mem tok.p
  let type := memcmpRecorded tok.mem (tok.p + 2)
  let bds ← is (lit ['B', 'D'])
  let gga ← type (lit ['G', 'G', 'A'])
  if gga then do
    let r ← parseGgaRecorded env tzer s.reader
    pure { s with reader := r }
  else do
    let gsa ← andRecorded (env.callbacksSize = mtkSize) (orRecorded (is (lit ['G', 'P', 'G', 'S', 'A']))
      (orRecorded (is (lit ['B', 'D', 'G', 'S', 'A'])) (is (lit ['G', 'L', 'G', 'S', 'A']))))
    if gsa then parseGsaRecorded tzer bds s
    else do
      let gpgsa ← andRecorded (env.callbacksSize = pf.sizeofGpsCallbacks) (is (lit ['G', 'P', 'G', 'S', 'A']))
      if gpgsa then do
        let r ← parseGsaGpsRecorded tzer s.reader
        pure { s with reader := r }
      else do
        let rmc ← type (lit ['R', 'M', 'C'])
        if rmc then do
          let r ← parseRmcRecorded env tzer s.reader
          pure { s with reader := r }
        else do
          let gsv ← andRecorded (env.callbacksSize = mtkSize) (type (lit ['G', 'S', 'V']))
          if gsv then do
            let r ← parseGsvRecorded tzer bds s.svUsedInFix s.reader
            pure { s with reader := r }
          else do
            let gpgsv ← andRecorded (env.callbacksSize = pf.sizeofGpsCallbacks)
              (orRecorded (is (lit ['G', 'P', 'G', 'S', 'V'])) (is (lit ['G', 'L', 'G', 'S', 'V'])))
            if gpgsv then do
              let r ← parseGsvGpsRecorded tzer bds s.reader
              pure { s with reader := r }
            else do
              let accuracy ← type (lit ['A', 'C', 'C', 'U', 'R', 'A', 'C', 'Y'])
              if accuracy then do
                let r ← parseAccuracyRecorded tzer s.reader
                pure { s with reader := r }
              else pure s

/-- The reports; the legacy loop over `sv_list` ends with its first round. -/
def nmeaReaderReportRecorded (s : NmeaState pf) : Recorded (NmeaState pf × List (Call pf)) := do
  let _ ← (
    if env.callbacksSize ≠ mtkSize ∧ 0 < s.reader.svStatusGps.numSvs ∧ s.gpsNmeaEndTag then touch 0 1 gpsMaxSvs
    else pure ())
  pure (nmeaReaderReport env s mtkSize)

def nmeaReaderParseRecorded (s : NmeaState pf) : Recorded (NmeaState pf × List (Call pf)) :=
  if s.reader.pos < 9 then pure (s, [])
  else do
    let tzer ← nmeaTokenizerInitRecorded s.reader.inBuf.toList 0 s.reader.pos
    let tok ← nmeaTokenizerGetRecorded tzer 0
    if tok.fin < tok.p + 5 then pure (s, [])
    else do
      let s ← nmeaReaderDispatchRecorded mtkSize env tzer tok s
      nmeaReaderReportRecorded mtkSize env s

def nmeaReaderAddcRecorded (s : NmeaState pf) (c : Byte) :
    Recorded (NmeaState pf × List (Call pf)) :=
  let r := s.reader
  if r.overflow then pure ({ s with reader := { r with overflow := c ≠ lf } }, [])
  else if nmeaMaxSize ≤ r.pos then pure ({ s with reader := { r with overflow := true, pos := 0 } }, [])
  else do
    touch r.pos 1 (nmeaMaxSize + 1)
    let s := { s with reader := r.push c }
    if c = lf then do
      let parsed ← nmeaReaderParseRecorded mtkSize env s
      pure ({ parsed.1 with reader := { parsed.1.reader with pos := 0 } },
        .parse s.reader.line :: parsed.2 ++ [.nmea parsed.1.reader.fix.timestamp parsed.1.reader.line])
    else pure (s, [])

end Parse

section Values

variable (mem : List Byte)

@[simp] theorem value_touch (start : Int) (count size : Nat) :
    (touch start count size).value = () := (rfl)

@[simp] theorem value_readByte (i : Nat) : (readByte mem i).value = byteAt mem i := (rfl)

@[simp] theorem value_computeInt (exact : Int) : (computeInt exact).value = wrap32 exact := (rfl)

@[simp] theorem value_memcmpRecorded (p : Nat) (text : List Byte) :
    (memcmpRecorded mem p text).value = memEq mem p text := (rfl)

@[simp] theorem value_memchrRecorded (c : Byte) (p n : Nat) :
    (memchrRecorded mem c p n).value = memchr mem c p n := by
  induction n generalizing p with
  | zero => rfl
  | succ n ih =>
    rw [memchrRecorded, memchr, Traced.value_bind, Traced.value_ite, ih]
    rfl

@[simp] theorem value_nmeaTokenizerTrimRecorded (p fin : Nat) :
    (nmeaTokenizerTrimRecorded mem p fin).value = nmeaTokenizerTrim mem p fin := by
  simp only [nmeaTokenizerTrimRecorded, Traced.value_bind, Traced.value_ite, Traced.value_pure,
    value_readByte, nmeaTokenizerTrim, ite_and]

@[simp] theorem value_nmeaTokenizerLoopRecorded (fin rounds p : Nat) (tokens : List Token) :
    (nmeaTokenizerLoopRecorded mem fin rounds p tokens).value =
      nmeaTokenizerLoop mem fin rounds p tokens := by
  induction rounds generalizing p tokens with
  | zero => rfl
  | succ rounds ih =>
    simp only [nmeaTokenizerLoopRecorded, nmeaTokenizerLoop, Traced.value_ite, Traced.value_bind,
      Traced.value_pure, value_memchrRecorded, ih]

@[simp] theorem value_nmeaTokenizerInitRecorded (p fin : Nat) :
    (nmeaTokenizerInitRecorded mem p fin).value = nmeaTokenizerInit mem p fin := by
  simp only [nmeaTokenizerInitRecorded, nmeaTokenizerInit, Traced.value_bind,
    value_nmeaTokenizerTrimRecorded, value_nmeaTokenizerLoopRecorded]

@[simp] theorem value_nmeaTokenizerGetRecorded (tokens : List Token) (index : Nat) :
    (nmeaTokenizerGetRecorded tokens index).value = nmeaTokenizerGet tokens index := by
  rw [nmeaTokenizerGetRecorded]
  split_ifs with present
  · rfl
  · rw [nmeaTokenizerGet, List.getD_eq_default _ _ (Nat.not_lt.mp present)]
    rfl

@[simp] theorem value_firstRecorded (tok : Token) : tok.firstRecorded.value = tok.first := (rfl)

@[simp] theorem value_str2intLoopRecorded (fin len p : Nat) (result : Int) :
    (str2intLoopRecorded mem fin len p result).value = str2intLoop mem fin len p result := by
  induction len generalizing p result with
  | zero => rfl
  | succ len ih =>
    simp only [str2intLoopRecorded, str2intLoop, Traced.value_ite, Traced.value_bind,
      Traced.value_pure, value_readByte, value_computeInt, ih]

theorem value_str2intResultRecorded (p fin : Nat) :
    (str2intResultRecorded mem p fin).value = str2int mem p fin := by
  simp only [str2intResultRecorded, str2int, Traced.value_bind, value_readByte,
    value_str2intLoopRecorded]
  cases str2intLoop mem fin (fin - if byteAt mem p = minus then p + 1 else p)
      (if byteAt mem p = minus then p + 1 else p) 0 with
  | none => rfl
  | some result => rw [Traced.value_ite, value_computeInt, Traced.value_pure]

@[simp] theorem value_str2intRecorded (p fin : Nat) :
    (str2intRecorded mem p fin).value = str2int mem p fin :=
  value_str2intResultRecorded mem p fin

@[simp] theorem value_intRecorded (tok : Token) : tok.intRecorded.value = tok.int :=
  value_str2intRecorded _ _ _

variable {F : Type} {pf : Platform F}

@[simp] theorem value_str2floatRecorded (p fin : Nat) :
    (str2floatRecorded pf mem p fin).value = str2float pf mem p fin := by
  simp only [str2floatRecorded, str2float, Traced.value_ite, Traced.value_bind, Traced.value_pure]
  split_ifs <;> first | rfl | omega

@[simp] theorem value_floatRecorded (tok : Token) : (tok.floatRecorded pf).value = tok.float pf :=
  value_str2floatRecorded _ _ _

variable (r : NmeaReader pf) (now : Int)

@[simp] theorem value_nmeaReaderUpdateTimeRecorded (tok : Token) :
    (nmeaReaderUpdateTimeRecorded r now tok).value = (nmeaReaderUpdateTime r now tok).1 := by
  simp only [nmeaReaderUpdateTimeRecorded, nmeaReaderUpdateTime, Traced.value_ite,
    Traced.value_bind, Traced.value_pure, value_str2intRecorded, value_str2floatRecorded]
  split <;> rfl

@[simp] theorem value_nmeaReaderUpdateDateRecorded (date time : Token) :
    (nmeaReaderUpdateDateRecorded r now date time).value =
      (nmeaReaderUpdateDate r now date time).1 := by
  simp only [nmeaReaderUpdateDateRecorded, nmeaReaderUpdateDate, Traced.value_ite,
    Traced.value_bind, Traced.value_pure, value_str2intRecorded, value_nmeaReaderUpdateTimeRecorded]
  split
  · rfl
  · split <;> rfl

@[simp] theorem value_nmeaReaderUpdateLatlongRecorded (latitude latitudeHemi longitude longitudeHemi : Token) :
    (nmeaReaderUpdateLatlongRecorded r latitude latitudeHemi.first longitude longitudeHemi.first).value =
      (nmeaReaderUpdateLatlong r latitude latitudeHemi longitude longitudeHemi).1 := by
  simp only [nmeaReaderUpdateLatlongRecorded, nmeaReaderUpdateLatlong, Traced.value_ite,
    Traced.value_bind, Traced.value_pure, value_floatRecorded]
  split
  · rfl
  · split <;> rfl

@[simp] theorem value_nmeaReaderUpdateNumberRecorded (flag : LocationFlag) (tok : Token)
    (store : GpsLocation F → F → GpsLocation F) :
    (nmeaReaderUpdateNumberRecorded r flag tok store).value =
      (nmeaReaderUpdateNumber r flag tok store).1 := by
  simp only [nmeaReaderUpdateNumberRecorded, nmeaReaderUpdateNumber, Traced.value_ite,
    Traced.value_bind, Traced.value_pure, value_floatRecorded]
  split <;> rfl

@[simp] theorem value_nmeaReaderUpdateSvStatusGpsRecorded (prn : Int)
    (elevation azimuth snr : Token) :
    (nmeaReaderUpdateSvStatusGpsRecorded r prn elevation azimuth snr).value =
      nmeaReaderUpdateSvStatusGps r prn elevation azimuth snr := by
  simp only [nmeaReaderUpdateSvStatusGpsRecorded, nmeaReaderUpdateSvStatusGps, Traced.value_ite,
    Traced.value_bind, Traced.value_pure, value_floatRecorded, value_intRecorded]

@[simp] theorem value_nmeaReaderUpdateSvStatusGnssRecorded (used : SvUsedInFix) (prn : Int)
    (elevation azimuth snr : Token) :
    (nmeaReaderUpdateSvStatusGnssRecorded r used prn elevation azimuth snr).value =
      nmeaReaderUpdateSvStatusGnss used r prn elevation azimuth snr := by
  simp only [nmeaReaderUpdateSvStatusGnssRecorded, nmeaReaderUpdateSvStatusGnss, Traced.value_ite,
    Traced.value_bind, Traced.value_pure, value_floatRecorded, value_intRecorded]

variable (env : ParseEnv) (tzer : List Token) (bds : Bool)

@[simp] theorem value_parseGgaRecorded :
    (parseGgaRecorded env tzer r).value = parseGga env tzer r := by
  simp only [parseGgaRecorded, parseGga, Traced.value_bind, value_nmeaTokenizerGetRecorded,
    value_firstRecorded, value_nmeaReaderUpdateTimeRecorded, value_nmeaReaderUpdateLatlongRecorded,
    value_nmeaReaderUpdateNumberRecorded, nmeaReaderUpdateAltitude]

@[simp] theorem value_gsaLoopRecorded (left idx : Nat) (used : SvUsedInFix) :
    (gsaLoopRecorded tzer bds left idx used).value = gsaLoop tzer bds left idx used := by
  induction left generalizing idx used with
  | zero => rfl
  | succ left ih =>
    simp only [gsaLoopRecorded, gsaLoop, Traced.value_ite, Traced.value_bind, Traced.value_pure,
      value_nmeaTokenizerGetRecorded, value_intRecorded, ih]

@[simp] theorem value_parseGsaRecorded (s : NmeaState pf) :
    (parseGsaRecorded tzer bds s).value = parseGsa tzer bds s := by
  simp only [parseGsaRecorded, parseGsa, Traced.value_ite, Traced.value_bind, Traced.value_pure,
    value_nmeaTokenizerGetRecorded, value_intRecorded, value_gsaLoopRecorded]

@[simp] theorem value_gsaLoopGpsRecorded (left idx : Nat) (mask : BitVec 32) :
    (gsaLoopGpsRecorded tzer left idx mask).value = gsaLoopGps tzer left idx mask := by
  induction left generalizing idx mask with
  | zero => rfl
  | succ left ih =>
    simp only [gsaLoopGpsRecorded, gsaLoopGps, Traced.value_ite, Traced.value_bind,
      Traced.value_pure, value_nmeaTokenizerGetRecorded, value_intRecorded, ih]

@[simp] theorem value_parseGsaGpsRecorded :
    (parseGsaGpsRecorded tzer r).value = parseGsaGps tzer r := by
  simp only [parseGsaGpsRecorded, parseGsaGps, Traced.value_ite, Traced.value_bind,
    Traced.value_pure, value_nmeaTokenizerGetRecorded, value_intRecorded, value_gsaLoopGpsRecorded]

@[simp] theorem value_parseRmcRecorded :
    (parseRmcRecorded env tzer r).value = parseRmc env tzer r := by
  simp only [parseRmcRecorded, parseRmc, Traced.value_ite, Traced.value_bind, Traced.value_pure,
    value_nmeaTokenizerGetRecorded, value_firstRecorded, value_nmeaReaderUpdateDateRecorded,
    value_nmeaReaderUpdateLatlongRecorded, value_nmeaReaderUpdateNumberRecorded,
    nmeaReaderUpdateBearing, nmeaReaderUpdateSpeed]

@[simp] theorem value_gsvSvNumRecorded (seq cnt : Int) :
    (gsvSvNumRecorded seq cnt).value = gsvSvNum seq cnt := (rfl)

@[simp] theorem value_gsvSvIdRecorded (idx : Nat) :
    (gsvSvIdRecorded tzer bds idx).value = gsvSvId tzer bds idx := by
  simp only [gsvSvIdRecorded, gsvSvId, Traced.value_ite, Traced.value_bind, Traced.value_pure,
    value_nmeaTokenizerGetRecorded, value_intRecorded, value_computeInt]

@[simp] theorem value_parseGsvRecorded (used : SvUsedInFix) :
    (parseGsvRecorded tzer bds used r).value = parseGsv tzer bds used r := by
  simp only [parseGsvRecorded, parseGsvWithRecorded, parseGsv, gsvFill, gsvRoundRecorded,
    Traced.value_bind, Traced.value_pure, Traced.value_foldlM, value_nmeaTokenizerGetRecorded,
    value_intRecorded, value_gsvSvNumRecorded, value_gsvSvIdRecorded,
    value_nmeaReaderUpdateSvStatusGnssRecorded]

@[simp] theorem value_parseGsvGpsRecorded :
    (parseGsvGpsRecorded tzer bds r).value = parseGsvGps tzer bds r := by
  simp only [parseGsvGpsRecorded, parseGsvWithRecorded, parseGsvGps, gsvFillGps, gsvRoundRecorded,
    Traced.value_bind, Traced.value_pure, Traced.value_foldlM, value_nmeaTokenizerGetRecorded,
    value_intRecorded, value_gsvSvNumRecorded, value_gsvSvIdRecorded,
    value_nmeaReaderUpdateSvStatusGpsRecorded]

@[simp] theorem value_parseAccuracyRecorded :
    (parseAccuracyRecorded tzer r).value = parseAccuracy tzer r := by
  simp only [parseAccuracyRecorded, parseAccuracy, Traced.value_ite, Traced.value_bind,
    Traced.value_pure, value_nmeaTokenizerGetRecorded, value_nmeaReaderUpdateNumberRecorded,
    nmeaReaderUpdateAccuracy]

variable (mtkSize : Nat)

@[simp] theorem value_andRecorded (cond : Prop) [Decidable cond] (x : Recorded Bool) :
    (andRecorded cond x).value = (decide cond && x.value) := by
  rw [andRecorded]
  split <;> simp_all

@[simp] theorem value_orRecorded (x y : Recorded Bool) :
    (orRecorded x y).value = (x.value || y.value) := by
  rw [orRecorded, Traced.value_bind, Traced.value_ite]
  cases x.value <;> rfl

theorem value_nmeaReaderDispatchRecorded (tok : Token) (s : NmeaState pf) :
    (nmeaReaderDispatchRecorded mtkSize env tzer tok s).value =
      nmeaReaderDispatch env tzer tok s mtkSize := by
  simp only [nmeaReaderDispatchRecorded, nmeaReaderDispatch, Traced.value_ite,
    Traced.value_bind, Traced.value_pure, value_memcmpRecorded, value_andRecorded, value_orRecorded,
    value_parseGgaRecorded, value_parseGsaRecorded, value_parseGsaGpsRecorded,
    value_parseRmcRecorded, value_parseGsvRecorded, value_parseGsvGpsRecorded,
    value_parseAccuracyRecorded, Bool.and_eq_true, Bool.or_eq_true, decide_eq_true_eq]

/-- The records change nothing: this is the parser. -/
theorem value_nmeaReaderParseRecorded (s : NmeaState pf) :
    (nmeaReaderParseRecorded mtkSize env s).value = nmeaReaderParse env s mtkSize := by
  simp only [nmeaReaderParseRecorded, nmeaReaderParse, Traced.value_ite, Traced.value_bind,
    Traced.value_pure, value_nmeaTokenizerInitRecorded, value_nmeaTokenizerGetRecorded,
    value_nmeaReaderDispatchRecorded, nmeaReaderReportRecorded]

theorem value_nmeaReaderAddcRecorded (s : NmeaState pf) (c : Byte) :
    (nmeaReaderAddcRecorded mtkSize env s c).value = nmeaReaderAddc env s c mtkSize := by
  simp only [nmeaReaderAddcRecorded, nmeaReaderAddc, Traced.value_ite, Traced.value_bind,
    Traced.value_pure, value_nmeaReaderParseRecorded]

end Values

end Mt6582.Gps

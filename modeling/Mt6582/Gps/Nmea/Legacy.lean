import Mt6582.Gps.Nmea.SvView

/-! # The parser for the callbacks without the extension

Were `sizeof(GpsCallbacks_mtk)` another size than `sizeof(GpsCallbacks)`, a registration of the latter would run the legacy
copy of the GSA, GSV and report code. It differs from the other copy in the satellites' part of the reader, and in the
reports it makes of it.
-/

namespace Mt6582.Gps

open List

variable {F : Type} {pf : Platform F}

section Part

/-- The satellites' part of a state. -/
structure SvPart (pf : Platform F) where
  count : Int
  gps : GpsSvStatus F
  gnss : GnssSvStatus pf
  used : SvUsedInFix

def NmeaState.svPart (s : NmeaState pf) : SvPart pf :=
  ⟨s.reader.svCount, s.reader.svStatusGps, s.reader.svStatusGnss, s.svUsedInFix⟩

/-- The reader with another satellites' part. -/
def NmeaReader.withSv (r : NmeaReader pf) (p : SvPart pf) : NmeaReader pf :=
  { r with svCount := p.count, svStatusGps := p.gps, svStatusGnss := p.gnss }

def NmeaState.withSv (s : NmeaState pf) (p : SvPart pf) : NmeaState pf :=
  { s with reader := s.reader.withSv p, svUsedInFix := p.used }

def GnssSvInfo.gps (info : GnssSvInfo F) : GpsSvInfo F := ⟨info.prn, info.snr, info.elevation, info.azimuth⟩

/-- The filter on `prn` of `nmea_reader_update_sv_status_gps`. -/
def prnRejectedGps (prn : Int) : Prop := prn ≤ 0 ∨ (prn < 65 ∧ gpsMaxSvs < prn) ∨ 96 < prn

instance (prn : Int) : Decidable (prnRejectedGps prn) := inferInstanceAs (Decidable (_ ∨ _))

namespace SvPart

/-- `nmea_reader_update_sv_status_gps` on the part. -/
def store (p : SvPart pf) (info : GpsSvInfo F) : SvPart pf :=
  if prnRejectedGps info.prn ∨ gpsMaxSvs ≤ p.count ∨ gpsMaxSvs ≤ wrap32 (p.count + p.gps.numSvs) then p
  else { p with
    gps := { p.gps with svList := storeAt p.gps.svList (wrap32 (p.count + p.gps.numSvs)) info }
    count := wrap32 (p.count + 1) }

def start (p : SvPart pf) (seq : Int) : SvPart pf := if seq = 1 then { p with count := 0 } else p

def close (p : SvPart pf) (num seq cnt : Int) : SvPart pf :=
  if seq = num then
    if p.count ≤ cnt then
      { p with gps := { p.gps with numSvs := wrap32 (p.gps.numSvs + p.count), almanacMask := 0, ephemerisMask := 0 } }
    else { p with count := 0, gps := { p.gps with numSvs := 0 } }
  else p

/-- The part after a legacy report. -/
def reported (p : SvPart pf) : SvPart pf := { p with count := 0, gps := { p.gps with numSvs := 0, usedInFixMask := 0 } }

end SvPart

/-- The satellite loop of the legacy GSA branch on the id texts. -/
def gsaMask : List (List Byte) → BitVec 32 → BitVec 32
  | [], mask => mask
  | text :: rest, mask =>
      let prn := strToInt text
      if text = [] then mask
      else if 1 ≤ prn ∧ prn ≤ 32 then gsaMask rest (mask ||| BitVec.twoPow 32 (prn - 1).toNat)
      else if 193 ≤ prn ∧ prn ≤ 197 then gsaMask rest mask
      else mask

/-- The legacy GSA branch on the part. -/
def gsaEffectGps (line : List Byte) (p : SvPart pf) : SvPart pf :=
  { p with gps := { p.gps with
      usedInFixMask := if strToInt (field line 2) = 2 ∨ strToInt (field line 2) = 3 then
        gsaMask ((List.range 12).map fun idx => field line (idx + 3)) 0 else 0 } }

/-- The satellite at index `idx` of a GSV sentence. -/
def gsvInfoGps (pf : Platform F) (line : List Byte) (idx : Nat) : GpsSvInfo F := (gsvInfo pf line (fun _ => false) idx).gps

/-- The legacy GSV branch on the part. -/
def gsvEffectGps (line : List Byte) (p : SvPart pf) : SvPart pf :=
  let seq := strToInt (field line 2)
  let cnt := strToInt (field line 3)
  (((List.range (gsvSvNum seq cnt).toNat).map (gsvInfoGps pf line)).foldl SvPart.store (p.start seq)).close
    (strToInt (field line 1)) seq cnt

def gpsEffect (line : List Byte) (p : SvPart pf) : SvPart pf :=
  match sentenceKind line with
  | .gsa => gsaEffectGps line p
  | .gsv => gsvEffectGps line p
  | _ => p

/-- The sentence's satellites, if it has any, are of the talkers both copies know. -/
structure KnownTalker (line : List Byte) : Prop where
  gsa : sentenceKind line = .gsa → lit ['G', 'P', 'G', 'S', 'A'] <+: field line 0
  gsv : sentenceKind line = .gsv →
    lit ['G', 'P', 'G', 'S', 'V'] <+: field line 0 ∨ lit ['G', 'L', 'G', 'S', 'V'] <+: field line 0

/-- The legacy branch of the buffered sentence. -/
def sentenceEffectGps (env : ParseEnv) (s : NmeaState pf) : NmeaState pf :=
  match sentenceKind s.reader.line with
  | .gga => { s with reader := parseGga env s.reader.tokens s.reader }
  | .gsa => { s with reader := parseGsaGps s.reader.tokens s.reader }
  | .rmc => { s with reader := parseRmc env s.reader.tokens s.reader }
  | .gsv => { s with reader := parseGsvGps s.reader.tokens (isBds s.reader.line) s.reader }
  | .accuracy => { s with reader := parseAccuracy s.reader.tokens s.reader }
  | .ignored => s
  | .other => s

end Part

section Branches

variable (r : NmeaReader pf) (p : SvPart pf)

theorem nmeaReaderUpdateTime_withSv (now : Int) (tok : Token) :
    (nmeaReaderUpdateTime (r.withSv p) now tok).1 =
      (nmeaReaderUpdateTime r now tok).1.withSv p := by
  unfold nmeaReaderUpdateTime
  split
  · rfl
  · rcases Decidable.em (r.utcYear < 0) with fresh | dated
    · have fresh' : (r.withSv p).utcYear < 0 := fresh
      simp only [fresh, fresh', ↓reduceIte]
      rfl
    · have dated' : ¬ (r.withSv p).utcYear < 0 := dated
      simp only [dated, dated', ↓reduceIte]
      rfl

theorem nmeaReaderUpdateDate_withSv (now : Int) (date time : Token) :
    (nmeaReaderUpdateDate (r.withSv p) now date time).1 =
      (nmeaReaderUpdateDate r now date time).1.withSv p := by
  unfold nmeaReaderUpdateDate
  split
  · rfl
  · dsimp only
    split
    · rfl
    · exact nmeaReaderUpdateTime_withSv { r with
        utcYear := str2int date.mem (date.p + 4) (date.p + 6) + 2000
        utcMon := str2int date.mem (date.p + 2) (date.p + 4)
        utcDay := str2int date.mem date.p (date.p + 2) } p now time

theorem nmeaReaderUpdateLatlong_withSv (latitude latitudeHemi longitude longitudeHemi : Token) :
    (nmeaReaderUpdateLatlong (r.withSv p) latitude latitudeHemi longitude longitudeHemi).1 =
      (nmeaReaderUpdateLatlong r latitude latitudeHemi longitude longitudeHemi).1.withSv p := by
  unfold nmeaReaderUpdateLatlong
  split
  · rfl
  · dsimp only
    rcases Decidable.em (longitude.fin < longitude.p + 6) with short | long
    · simp only [short, ↓reduceIte]
    · simp only [long, ↓reduceIte]
      rfl

theorem nmeaReaderUpdateNumber_withSv (flag : LocationFlag) (tok : Token)
    (store : GpsLocation F → F → GpsLocation F) :
    (nmeaReaderUpdateNumber (r.withSv p) flag tok store).1 =
      (nmeaReaderUpdateNumber r flag tok store).1.withSv p := by
  unfold nmeaReaderUpdateNumber
  split <;> rfl

theorem parseGga_withSv (env : ParseEnv) (tzer : List Token) :
    parseGga env tzer (r.withSv p) = (parseGga env tzer r).withSv p := by
  simp only [parseGga, nmeaReaderUpdateAltitude, nmeaReaderUpdateTime_withSv,
    nmeaReaderUpdateLatlong_withSv, nmeaReaderUpdateNumber_withSv]

theorem parseRmc_withSv (env : ParseEnv) (tzer : List Token) :
    parseRmc env tzer (r.withSv p) = (parseRmc env tzer r).withSv p := by
  unfold parseRmc
  split
  · simp only [nmeaReaderUpdateBearing, nmeaReaderUpdateSpeed, nmeaReaderUpdateDate_withSv,
      nmeaReaderUpdateLatlong_withSv, nmeaReaderUpdateNumber_withSv]
  · rfl

theorem parseAccuracy_withSv (tzer : List Token) :
    parseAccuracy tzer (r.withSv p) = (parseAccuracy tzer r).withSv p := by
  unfold parseAccuracy
  split
  · next fixed =>
    rw [if_pos (show r.fixMode = 3 ∨ r.fixMode = 2 from fixed)]
    exact nmeaReaderUpdateNumber_withSv r p .accuracy _ _
  · next unfixed =>
    rw [if_neg (show ¬ (r.fixMode = 3 ∨ r.fixMode = 2) from unfixed)]

variable {r}

private theorem gsaLoopGps_eq (holds : r.HoldsLine) (left idx : Nat) (mask : BitVec 32) :
    gsaLoopGps r.tokens left idx mask =
      gsaMask ((List.range left).map fun k => field r.line (idx + k + 3)) mask := by
  induction left generalizing idx mask with
  | zero => rfl
  | succ left ih =>
    have text :
        (nmeaTokenizerGet r.tokens (idx + 3)).p = (nmeaTokenizerGet r.tokens (idx + 3)).fin ↔
        field r.line (idx + 3) = [] := holds.same_iff (idx + 3)
    simp only [gsaLoopGps, map_field_succ, gsaMask, text, holds.int, ih]

theorem parseGsaGps_withSv (holds : r.HoldsLine) :
    parseGsaGps r.tokens (r.withSv p) =
      ({ r with fixMode := (nmeaTokenizerGet r.tokens 2).int } : NmeaReader pf).withSv (gsaEffectGps r.line p) := by
  simp only [parseGsaGps, gsaEffectGps, NmeaReader.locFixed, NmeaReader.withSv, holds.int,
    gsaLoopGps_eq holds, Nat.zero_add, Bool.or_eq_true, beq_iff_eq]
  split <;> rfl

theorem nmeaReaderUpdateSvStatusGps_withSv (holds : r.HoldsLine) (prn : Int) (i j k : Nat) :
    nmeaReaderUpdateSvStatusGps (r.withSv p) prn (nmeaTokenizerGet r.tokens i) (nmeaTokenizerGet r.tokens j)
        (nmeaTokenizerGet r.tokens k) =
      r.withSv (p.store
        (satelliteInfo pf (fun _ => false) prn (field r.line i) (field r.line j) (field r.line k)).gps) := by
  have rejected : (prn ≤ 0 ∨ (prn < 65 ∧ gpsMaxSvs < prn) ∨ 96 < prn ∨ gpsMaxSvs ≤ p.count) ↔
      prnRejectedGps prn ∨ gpsMaxSvs ≤ p.count := by
    simp only [prnRejectedGps, or_assoc]
  have named :
      (satelliteInfo pf (fun _ => false) prn (field r.line i) (field r.line j) (field r.line k)).gps.prn = prn := rfl
  simp only [nmeaReaderUpdateSvStatusGps, NmeaReader.withSv, holds.int, holds.float, rejected]
  rw [SvPart.store, named]
  rcases Decidable.em (prnRejectedGps prn ∨ gpsMaxSvs ≤ p.count) with first | passed
  · rw [if_pos first, if_pos (or_assoc.mp (.inl first))]
  · rw [if_neg passed]
    rcases Decidable.em (gpsMaxSvs ≤ wrap32 (p.count + p.gps.numSvs)) with full | free
    · rw [if_pos full, if_pos (.inr (.inr full))]
    · rw [if_neg free, if_neg (by rw [← or_assoc]; exact not_or.mpr ⟨passed, free⟩)]
      rfl

theorem gsvFillGps_withSv (holds : r.HoldsLine) (svNum : Int) :
    gsvFillGps r.tokens (isBds r.line) svNum (r.withSv p) =
      r.withSv (((List.range svNum.toNat).map (gsvInfoGps pf r.line)).foldl SvPart.store p) := by
  rw [gsvFillGps]
  generalize List.range svNum.toNat = indices
  induction indices generalizing p with
  | nil => rfl
  | cons idx rest ih =>
    have prn :
        gsvSvId r.tokens (isBds r.line) idx =
        svPrn (isBds r.line) (strToInt (field r.line (4 * (idx + 1)))) := by
      simp only [gsvSvId, holds.int, svPrn]
    rw [foldl_cons, map_cons, foldl_cons, prn, nmeaReaderUpdateSvStatusGps_withSv p holds]
    exact ih _

theorem parseGsvGps_withSv (holds : r.HoldsLine) :
    parseGsvGps r.tokens (isBds r.line) (r.withSv p) = r.withSv (gsvEffectGps r.line p) := by
  have start (seq : Int) : gsvStart seq (r.withSv p) = r.withSv (p.start seq) := by
    rw [gsvStart, SvPart.start]
    split <;> rfl
  have close (num seq cnt : Int) (p : SvPart pf) :
      gsvCloseGps num seq cnt (r.withSv p) = r.withSv (p.close num seq cnt) := by
    rw [gsvCloseGps, SvPart.close]
    rcases Decidable.em (seq = num) with last | other
    · rw [if_pos last, if_pos last]
      rcases Decidable.em (p.count ≤ cnt) with complete | excess
      · rw [if_pos complete, if_pos (show (r.withSv p).svCount ≤ cnt from complete)]
        rfl
      · rw [if_neg excess, if_neg (show ¬ (r.withSv p).svCount ≤ cnt from excess)]
        rfl
    · rw [if_neg other, if_neg other]
  simp only [parseGsvGps, gsvEffectGps, holds.int, start, gsvFillGps_withSv _ holds, close]

/-- GSV sentences leave the marks of both copies. -/
theorem gsvEffectGps_marks (line : List Byte) (p : SvPart pf) :
    (gsvEffectGps line p).used = p.used ∧
      (gsvEffectGps line p).gps.usedInFixMask = p.gps.usedInFixMask := by
  have start (seq : Int) :
      (p.start seq).used = p.used ∧ (p.start seq).gps.usedInFixMask = p.gps.usedInFixMask := by
    rw [SvPart.start]
    split <;> exact ⟨rfl, rfl⟩
  have store (infos : List (GpsSvInfo F)) (p : SvPart pf) :
      (infos.foldl SvPart.store p).used = p.used ∧
      (infos.foldl SvPart.store p).gps.usedInFixMask = p.gps.usedInFixMask := by
    induction infos generalizing p with
    | nil => exact ⟨rfl, rfl⟩
    | cons info rest ih =>
      rw [foldl_cons, (ih _).1, (ih _).2, SvPart.store]
      split <;> exact ⟨rfl, rfl⟩
  have close (num seq cnt : Int) (p : SvPart pf) : (p.close num seq cnt).used = p.used ∧
      (p.close num seq cnt).gps.usedInFixMask = p.gps.usedInFixMask := by
    rw [SvPart.close]
    split_ifs <;> exact ⟨rfl, rfl⟩
  simp only [gsvEffectGps, close, store, start, and_self]

/-- The legacy branches act on the satellites' part by the texts of the sentence, and on the rest as the others do. -/
theorem sentenceEffectGps_withSv {s : NmeaState pf} (env : ParseEnv) (holds : s.reader.HoldsLine)
    (p : SvPart pf) :
    sentenceEffectGps env (s.withSv p) =
      (sentenceEffect env s).withSv (gpsEffect s.reader.line p) := by
  have line : (s.withSv p).reader.line = s.reader.line := rfl
  have tokens : (s.withSv p).reader.tokens = s.reader.tokens := rfl
  have reader : (s.withSv p).reader = s.reader.withSv p := rfl
  rw [sentenceEffectGps, sentenceEffect, gpsEffect]
  rw [line, tokens, reader]
  cases sentenceKind s.reader.line with
  | gga => simp only [parseGga_withSv]; rfl
  | rmc => simp only [parseRmc_withSv]; rfl
  | accuracy => simp only [parseAccuracy_withSv]; rfl
  | gsa =>
    obtain ⟨used, changed⟩ := parseGsa_frame s.reader.tokens (isBds s.reader.line) s
    simp only [changed, parseGsaGps_withSv p holds]
    rfl
  | gsv =>
    obtain ⟨count, status, changed⟩ :=
      parseGsv_frame s.reader.tokens (isBds s.reader.line) s.svUsedInFix s.reader
    simp only [changed, parseGsvGps_withSv p holds, NmeaState.withSv, gsvEffectGps_marks]
    rfl
  | ignored => rfl
  | other => rfl

end Branches

section Registrations

variable {mtkSize : Nat}

/-- The surroundings with callbacks of another size registered. -/
def ParseEnv.registering (size : Nat) (env : ParseEnv) : ParseEnv := { env with callbacksSize := size }

private theorem memEq_drop_two {mem word : List Byte} {p : Nat} {x y : Byte}
    (same : memEq mem p (x :: y :: word) = true) :
    memEq mem (p + 2) word = true := by
  simp only [memEq, Bool.and_eq_true] at same
  exact same.2.2

/-- Callbacks of size `sizeof(GpsCallbacks_mtk)` take the same branches whatever that size is. -/
theorem nmeaReaderDispatch_mtk (env : ParseEnv) (tzer : List Token) (tok : Token)
    (s : NmeaState pf) :
    nmeaReaderDispatch (env.registering mtkSize) tzer tok s mtkSize =
      nmeaReaderDispatch (env.registering pf.sizeofGpsCallbacksMtk) tzer tok s := by
  have size : (env.registering mtkSize).callbacksSize = mtkSize := rfl
  have size' :
      (env.registering pf.sizeofGpsCallbacksMtk).callbacksSize = pf.sizeofGpsCallbacksMtk := rfl
  have gga : parseGga (env.registering mtkSize) tzer s.reader =
      parseGga (env.registering pf.sizeofGpsCallbacksMtk) tzer s.reader := rfl
  have rmc : parseRmc (env.registering mtkSize) tzer s.reader =
      parseRmc (env.registering pf.sizeofGpsCallbacksMtk) tzer s.reader := rfl
  have legacyGsv : ¬ memEq tok.mem (tok.p + 2) (lit ['G', 'S', 'V']) = true →
      ¬ (memEq tok.mem tok.p (lit ['G', 'P', 'G', 'S', 'V']) = true ∨
        memEq tok.mem tok.p (lit ['G', 'L', 'G', 'S', 'V']) = true) := by
    rintro other (gps | glonass)
    · exact other (memEq_drop_two gps)
    · exact other (memEq_drop_two glonass)
  simp only [nmeaReaderDispatch, size, size', true_and, gga, rmc]
  split
  · rfl
  · split
    · rfl
    · next notGsa =>
      simp only [(not_or.mp notGsa).1, Bool.false_eq_true, and_false, ↓reduceIte]
      split
      · rfl
      · split
        · rfl
        · next notGsv =>
          simp only [legacyGsv notGsv, and_false, ↓reduceIte]

theorem nmeaReaderReport_mtk (env : ParseEnv) (s : NmeaState pf) :
    nmeaReaderReport (env.registering mtkSize) s mtkSize =
      nmeaReaderReport (env.registering pf.sizeofGpsCallbacksMtk) s := by
  have fix : nmeaReaderReportFix (env.registering mtkSize) s =
      nmeaReaderReportFix (env.registering pf.sizeofGpsCallbacksMtk) s := rfl
  have size : (env.registering mtkSize).callbacksSize = mtkSize := rfl
  have size' :
      (env.registering pf.sizeofGpsCallbacksMtk).callbacksSize = pf.sizeofGpsCallbacksMtk := rfl
  simp only [nmeaReaderReport, nmeaReaderReportSv, fix, size, size', ↓reduceIte]

def NmeaInput.registering (size : Nat) (input : NmeaInput) : NmeaInput :=
  { input with env := input.env.registering size }

theorem nmeaReaderFeed_mtk (s : NmeaState pf) (inputs : List NmeaInput) :
    nmeaReaderFeed s (inputs.map (NmeaInput.registering mtkSize)) mtkSize =
      nmeaReaderFeed s (inputs.map (NmeaInput.registering pf.sizeofGpsCallbacksMtk)) := by
  induction inputs generalizing s with
  | nil => rfl
  | cons input rest ih =>
    have added (s : NmeaState pf) (c : Byte) :
        nmeaReaderAddc (input.env.registering mtkSize) s c mtkSize =
        nmeaReaderAddc (input.env.registering pf.sizeofGpsCallbacksMtk) s c := by
      simp only [nmeaReaderAddc, nmeaReaderParse, nmeaReaderDispatch_mtk, nmeaReaderReport_mtk]
    simp only [map_cons, nmeaReaderFeed, NmeaInput.registering, added, ih]

/-- Other callbacks of size `sizeof(GpsCallbacks)` take the legacy branches. -/
theorem nmeaReaderDispatch_gps {env : ParseEnv} {s : NmeaState pf}
    (differ : pf.sizeofGpsCallbacks ≠ mtkSize)
    (registered : env.callbacksSize = pf.sizeofGpsCallbacks) (holds : s.reader.HoldsLine)
    (known : KnownTalker s.reader.line)
    (long : ¬ (s.reader.line.length < 9 ∨ (field s.reader.line 0).length < 5)) :
    nmeaReaderDispatch env s.reader.tokens (nmeaTokenizerGet s.reader.tokens 0) s mtkSize =
      sentenceEffectGps env s := by
  have type := holds.type_iff (by omega)
  have whole := holds.identifier_iff
  have gsaKnown := known.gsa
  have gsvKnown := known.gsv
  simp only [nmeaReaderDispatch, sentenceEffectGps, sentenceKind, if_neg long, registered,
    differ, false_and, true_and, ↓reduceIte, holds.bds_eq, type (lit ['G', 'G', 'A']) (by decide),
    type (lit ['R', 'M', 'C']) (by decide),
    type (lit ['A', 'C', 'C', 'U', 'R', 'A', 'C', 'Y']) (by decide),
    whole (lit ['G', 'P', 'G', 'S', 'A']) (by decide),
    whole (lit ['G', 'P', 'G', 'S', 'V']) (by decide),
    whole (lit ['G', 'L', 'G', 'S', 'V']) (by decide)] at gsaKnown gsvKnown ⊢
  rcases Decidable.em (lit ['G', 'G', 'A'] <+: (field s.reader.line 0).drop 2) with gga | notGga
  · simp only [if_pos gga]
  simp only [if_neg notGga] at gsaKnown gsvKnown ⊢
  rcases Decidable.em (lit ['G', 'P', 'G', 'S', 'A'] <+: field s.reader.line 0 ∨
      lit ['B', 'D', 'G', 'S', 'A'] <+: field s.reader.line 0 ∨
      lit ['G', 'L', 'G', 'S', 'A'] <+: field s.reader.line 0) with gsa | notGsa
  · simp only [if_pos gsa, forall_const] at gsaKnown ⊢
    rw [if_pos gsaKnown]
  simp only [if_neg notGsa, if_neg (not_or.mp notGsa).1] at gsvKnown ⊢
  rcases Decidable.em (lit ['R', 'M', 'C'] <+: (field s.reader.line 0).drop 2) with rmc | notRmc
  · simp only [if_pos rmc]
  simp only [if_neg notRmc] at gsvKnown ⊢
  rcases Decidable.em (lit ['G', 'S', 'V'] <+: (field s.reader.line 0).drop 2) with gsv | notGsv
  · simp only [if_pos gsv, forall_const] at gsvKnown ⊢
    rw [if_pos gsvKnown]
  simp only [if_neg notGsv, if_neg (mt gsv_of_talker notGsv)]
  rcases Decidable.em (lit ['A', 'C', 'C', 'U', 'R', 'A', 'C', 'Y'] <+: (field s.reader.line 0).drop 2) with
    accuracy | notAccuracy
  · simp only [if_pos accuracy]
  · simp only [if_neg notAccuracy]

end Registrations

section Calls

def Call.gpsReport : Call pf → Option (GpsSvStatus F)
  | .svStatus status => some status
  | _ => none

/-- The arguments of the calls of `sv_status_cb`, in order. -/
def gpsReports (calls : List (Call pf)) : List (GpsSvStatus F) := calls.filterMap Call.gpsReport

def Call.isSatellites : Call pf → Bool
  | .gnssSvStatus _ | .svStatus _ => true
  | _ => false

/-- The calls that are no satellite reports: among them the calls of `location_cb`. -/
def otherCalls (calls : List (Call pf)) : List (Call pf) := calls.filter fun c => !c.isSatellites

theorem gpsReports_append (first second : List (Call pf)) :
    gpsReports (first ++ second) = gpsReports first ++ gpsReports second := filterMap_append

theorem otherCalls_append (first second : List (Call pf)) :
    otherCalls (first ++ second) = otherCalls first ++ otherCalls second := filter_append ..

/-- The calls around a location are no satellite reports. -/
theorem reportFix_calls (env : ParseEnv) (s : NmeaState pf) :
    svReports (nmeaReaderReportFix env s).2 = [] ∧
      gpsReports (nmeaReaderReportFix env s).2 = [] := by
  obtain ⟨-, -, calls⟩ := nmeaReaderReportFix_frame env s
  constructor
  · refine filterMap_eq_nil_iff.mpr fun c member => ?_
    cases c with
    | gnssSvStatus status => exact (calls _ member).elim
    | _ => rfl
  · refine filterMap_eq_nil_iff.mpr fun c member => ?_
    cases c with
    | svStatus status => exact (calls _ member).elim
    | _ => rfl

/-- The reports of callbacks of size `sizeof(GpsCallbacks_mtk)` are calls of `gnss_sv_status_cb`. -/
theorem reportSv_calls {env : ParseEnv} (registered : env.callbacksSize = pf.sizeofGpsCallbacksMtk)
    (s : NmeaState pf) :
    otherCalls (nmeaReaderReportSv env s).2 = [] ∧
      gpsReports (nmeaReaderReportSv env s).2 = [] := by
  simp only [nmeaReaderReportSv, registered, ↓reduceIte]
  split <;> exact ⟨rfl, rfl⟩

end Calls

section Lines

variable {mtkSize : Nat} {env : ParseEnv} {s : NmeaState pf}

/-- The legacy report is made: the loop bound is positive and the end tag is raised. -/
def SvPart.Shown (p : SvPart pf) (endTag : Bool) : Prop := p.gps.numSvs ≠ 0 ∧ endTag = true ∧ 0 < p.gps.numSvs

instance (p : SvPart pf) (endTag : Bool) : Decidable (p.Shown endTag) := inferInstanceAs (Decidable (_ ∧ _))

theorem nmeaReaderReportFix_withSv (env : ParseEnv) (s : NmeaState pf) (p : SvPart pf) :
    nmeaReaderReportFix env (s.withSv p) =
      ((nmeaReaderReportFix env s).1.withSv p, (nmeaReaderReportFix env s).2) := by
  have mode : (s.withSv p).reader.locFixed = s.reader.locFixed := rfl
  have shown : ((s.withSv p).reader.fix.flags ≠ 0 ∧ (s.withSv p).gpsNmeaEndTag = true) ↔
      s.reader.fix.flags ≠ 0 ∧ s.gpsNmeaEndTag = true := Iff.rfl
  simp only [nmeaReaderReportFix, mode, shown]
  split
  · rfl
  · split <;> rfl

theorem nmeaReaderReportSv_withSv (env : ParseEnv) (s : NmeaState pf) (p : SvPart pf) :
    (nmeaReaderReportSv env s).1.withSv p = s.withSv p := by
  obtain ⟨count, gnss, gps, used, changed, -⟩ := nmeaReaderReportSv_frame env s
  rw [changed]
  rfl

/-- The legacy reports, on a state that differs from `s` in its satellites' part. -/
theorem nmeaReaderReport_gps (differ : pf.sizeofGpsCallbacks ≠ mtkSize)
    (registered : env.callbacksSize = pf.sizeofGpsCallbacks) (s : NmeaState pf) (p : SvPart pf) :
    nmeaReaderReport env (s.withSv p) mtkSize =
      ((nmeaReaderReport env s).1.withSv (if p.Shown s.gpsNmeaEndTag then p.reported else p),
        (nmeaReaderReportFix env s).2 ++ if p.Shown s.gpsNmeaEndTag then [.svStatus p.gps] else []) := by
  have tag : (nmeaReaderReportFix env s).1.gpsNmeaEndTag = s.gpsNmeaEndTag := by
    obtain ⟨flags, changed, -⟩ := nmeaReaderReportFix_frame env s
    rw [changed]
  have other : ¬ env.callbacksSize = mtkSize := registered ▸ differ
  have shown : (((nmeaReaderReportFix env s).1.withSv p).reader.svStatusGps.numSvs ≠ 0 ∧
      ((nmeaReaderReportFix env s).1.withSv p).gpsNmeaEndTag = true ∧
      0 < ((nmeaReaderReportFix env s).1.withSv p).reader.svStatusGps.numSvs) ↔
        p.Shown s.gpsNmeaEndTag := by
    rw [SvPart.Shown, ← tag]
    rfl
  simp only [nmeaReaderReport, nmeaReaderReportFix_withSv, nmeaReaderReportSv_withSv]
  simp only [nmeaReaderReportSv, other, ↓reduceIte, shown]
  split <;> rfl

/-- A line that goes to a branch, for the legacy callbacks: the rest of the state and the calls that are no satellite reports
are as for the others. -/
theorem nmeaReaderParse_gps (differ : pf.sizeofGpsCallbacks ≠ mtkSize)
    (registered : env.callbacksSize = pf.sizeofGpsCallbacks) (holds : s.reader.HoldsLine)
    (known : KnownTalker s.reader.line) (taken : sentenceKind s.reader.line ≠ .ignored)
    (p : SvPart pf) :
    nmeaReaderParse env (s.withSv p) mtkSize =
      ((nmeaReaderParse env s).1.withSv
          (if (gpsEffect s.reader.line p).Shown s.gpsNmeaEndTag then (gpsEffect s.reader.line p).reported
            else gpsEffect s.reader.line p),
        (nmeaReaderReportFix env (sentenceEffect env s)).2 ++
          if (gpsEffect s.reader.line p).Shown s.gpsNmeaEndTag then [.svStatus (gpsEffect s.reader.line p).gps] else []) ∧
    (nmeaReaderParse env s).2 = (nmeaReaderReportFix env (sentenceEffect env s)).2 ++
      (nmeaReaderReportSv env (nmeaReaderReportFix env (sentenceEffect env s)).1).2 := by
  have long : ¬ (s.reader.line.length < 9 ∨ (field s.reader.line 0).length < 5) := by
    intro short
    exact taken (by simp only [sentenceKind, short, ↓reduceIte])
  have dispatch := nmeaReaderDispatch_gps (s := s.withSv p) differ registered
    ⟨holds.nonempty, holds.bound, holds.ended⟩ known long
  have tooShort := (holds.short_iff 0 5).not.mpr (not_or.mp long).2
  have room : ¬ s.reader.pos < 9 := by rw [← holds.length_line]; exact (not_or.mp long).1
  have parse := nmeaReaderParse_eq (s := s) registered holds
  rw [if_neg taken] at parse
  refine ⟨?_, by rw [parse]; rfl⟩
  have report := nmeaReaderReport_gps differ registered (sentenceEffect env s)
    (gpsEffect s.reader.line p)
  rw [sentenceEffect_endTag] at report
  rw [parse, ← report, ← sentenceEffectGps_withSv env holds p, ← dispatch]
  rw [nmeaReaderParse]
  rw [if_neg (show ¬ (s.withSv p).reader.pos < 9 from room)]
  exact if_neg tooShort

theorem nmeaReaderAddc_withSv (mtkSize : Nat) (env : ParseEnv) (s : NmeaState pf) {c : Byte}
    (inside : c ≠ lf) (p : SvPart pf) :
    nmeaReaderAddc env (s.withSv p) c mtkSize =
      ((nmeaReaderAddc env s c).1.withSv p, (nmeaReaderAddc env s c).2) := by
  have overflow : (s.withSv p).reader.overflow = s.reader.overflow := rfl
  have pos : (s.withSv p).reader.pos = s.reader.pos := rfl
  simp only [nmeaReaderAddc, overflow, pos, inside, ↓reduceIte]
  split
  · rfl
  · split <;> rfl

theorem nmeaReaderFeed_withSv {inputs : List NmeaInput} (fresh : lf ∉ inputs.map NmeaInput.byte)
    (p : SvPart pf) :
    nmeaReaderFeed (s.withSv p) inputs mtkSize =
      ((nmeaReaderFeed s inputs).1.withSv p, (nmeaReaderFeed s inputs).2) := by
  induction inputs generalizing s with
  | nil => rfl
  | cons input rest ih =>
    obtain ⟨inside, fresh⟩ := not_or.mp (mem_cons.not.mp fresh)
    have added :=
      nmeaReaderAddc_withSv mtkSize input.env { s with gpsNmeaEndTag := input.endTag } (Ne.symm inside) p
    simp only [nmeaReaderFeed]
    rw [show ({ s.withSv p with gpsNmeaEndTag := input.endTag } : NmeaState pf) =
      { s with gpsNmeaEndTag := input.endTag }.withSv p from rfl, added, ih fresh]

/-- What a legacy reader does with some input, beside the reader `fed`, whose satellites' part is replaced by `q`. -/
structure RunsBeside (legacy fed : NmeaState pf × List (Call pf)) (shown : Prop) [Decidable shown] (q : SvPart pf) :
    Prop where
  state : legacy.1 = fed.1.withSv (if shown then q.reported else q)
  others : otherCalls legacy.2 = otherCalls fed.2
  gps : gpsReports legacy.2 = if shown then [q.gps] else []
  gnss : svReports legacy.2 = []
  noGps : gpsReports fed.2 = []

/-- The end of `nmea_reader_addc` for a newline. -/
def finishLine (line : List Byte) (parsed : NmeaState pf × List (Call pf)) : NmeaState pf × List (Call pf) :=
  ({ parsed.1 with reader := { parsed.1.reader with pos := 0 } },
    .parse line :: parsed.2 ++ [.nmea parsed.1.reader.fix.timestamp parsed.1.reader.line])

theorem finishLine_calls (line : List Byte) (next : NmeaState pf) (calls : List (Call pf)) :
    svReports (finishLine line (next, calls)).2 = svReports calls ∧
    gpsReports (finishLine line (next, calls)).2 = gpsReports calls ∧
    otherCalls (finishLine line (next, calls)).2 =
      .parse line :: otherCalls calls ++ [.nmea next.reader.fix.timestamp next.reader.line] := by
  simp [finishLine, svReports, gpsReports, otherCalls, filterMap_cons, Call.svReport,
    Call.gpsReport, Call.isSatellites]

theorem finishLine_beside {line : List Byte} {next : NmeaState pf} {fix calls : List (Call pf)}
    {shown : Prop}
    [Decidable shown] {q : SvPart pf} (fixCalls : svReports fix = [] ∧ gpsReports fix = [])
    (svCalls : otherCalls calls = [] ∧ gpsReports calls = []) :
    RunsBeside (finishLine line (next.withSv (if shown then q.reported else q),
      fix ++ if shown then [.svStatus q.gps] else [])) (finishLine line (next,
      fix ++ calls)) shown q := by
  have others : otherCalls (if shown then [.svStatus q.gps] else [] : List (Call pf)) = [] := by
    split <;> rfl
  have gnss : svReports (if shown then [.svStatus q.gps] else [] : List (Call pf)) = [] := by
    split <;> rfl
  have gps :
      gpsReports (if shown then [.svStatus q.gps] else [] : List (Call pf)) = if shown then [q.gps] else [] := by
    split <;> rfl
  constructor
  · rfl
  · rw [(finishLine_calls ..).2.2, (finishLine_calls ..).2.2, otherCalls_append, otherCalls_append,
      others, svCalls.1]
    rfl
  · rw [(finishLine_calls ..).2.1, gpsReports_append, fixCalls.2, gps, nil_append]
  · rw [(finishLine_calls ..).1, svReports_append, fixCalls.1, gnss, nil_append]
  · rw [(finishLine_calls ..).2.1, gpsReports_append, fixCalls.2, svCalls.2, nil_append]

theorem nmeaReaderAddc_gps (differ : pf.sizeofGpsCallbacks ≠ mtkSize)
    (registered : env.callbacksSize = pf.sizeofGpsCallbacks) (filling : s.reader.overflow = false)
    (room : s.reader.pos < nmeaMaxSize) (known : KnownTalker (s.reader.line ++ [lf]))
    (taken : sentenceKind (s.reader.line ++ [lf]) ≠ .ignored) (p : SvPart pf) :
    RunsBeside (nmeaReaderAddc env (s.withSv p) lf mtkSize) (nmeaReaderAddc env s lf)
      ((gpsEffect (s.reader.line ++ [lf]) p).Shown s.gpsNmeaEndTag) (gpsEffect (s.reader.line ++ [lf]) p) := by
  have line := NmeaReader.line_push room lf
  have holds := NmeaReader.holdsLine_push room
  have overflow : ¬ s.reader.overflow = true := Bool.eq_false_iff.mp filling
  have full : ¬ nmeaMaxSize ≤ s.reader.pos := not_le.mpr room
  rw [← line] at known taken ⊢
  obtain ⟨legacy, calls⟩ :=
    nmeaReaderParse_gps (s := { s with reader := s.reader.push lf }) differ registered holds
    known taken p
  have fed : nmeaReaderAddc env s lf =
      finishLine (s.reader.push lf).line (nmeaReaderParse env { s with reader := s.reader.push lf }) := by
    simp only [nmeaReaderAddc, overflow, full, ↓reduceIte]
    rfl
  have beside : nmeaReaderAddc env (s.withSv p) lf mtkSize =
      finishLine (s.reader.push lf).line (nmeaReaderParse env ({ s with reader := s.reader.push lf }.withSv p) mtkSize) := by
    simp only [nmeaReaderAddc, show (s.withSv p).reader.overflow = s.reader.overflow from rfl,
      show (s.withSv p).reader.pos = s.reader.pos from rfl, overflow, full, ↓reduceIte]
    rfl
  rw [fed, beside, legacy,
    ← Prod.eta (nmeaReaderParse env { s with reader := s.reader.push lf }), calls]
  exact finishLine_beside (reportFix_calls _ _) (reportSv_calls registered _)

/-- A whole line, fed to a reader between two lines. -/
theorem nmeaReaderFeed_gps_line (differ : pf.sizeofGpsCallbacks ≠ mtkSize) {first : List NmeaInput}
    {last : NmeaInput} {line : List Byte} (registered : Registered pf (first ++ [last]))
    (idle : s.reader.Idle) (isLine : IsLine lf line) (fits : line.length ≤ nmeaMaxSize)
    (known : KnownTalker line) (taken : sentenceKind line ≠ .ignored)
    (bytes : (first ++ [last]).map NmeaInput.byte = line) (p : SvPart pf) :
    RunsBeside (nmeaReaderFeed (s.withSv p) (first ++ [last]) mtkSize) (nmeaReaderFeed s (first ++ [last]))
      ((gpsEffect line p).Shown last.endTag) (gpsEffect line p) := by
  obtain ⟨body, rfl, fresh⟩ := isLine
  rw [map_append, map_singleton] at bytes
  obtain ⟨bodyBytes, ending⟩ := append_inj' bytes rfl
  have ended : last.byte = lf := by simpa using ending
  rw [← bodyBytes] at fresh
  have inMode : s.reader.InMode (.filling []) :=
    ⟨idle.overflow, idle.pos, idle.pos ▸ Nat.zero_le _, by rw [NmeaReader.line, idle.pos]; rfl⟩
  have size : first.length = body.length := by rw [← bodyBytes, length_map]
  rw [length_append, length_singleton] at fits
  obtain ⟨pos, inBuf, tag, fed, filled⟩ :=
    nmeaReaderFeed_body first inMode fresh (by rw [length_nil, size]; omega)
  rw [fed, nil_append, bodyBytes] at filled
  have room : pos < nmeaMaxSize := by
    have length : pos = body.length := filled.2.1
    omega
  have text : ({ s.reader with pos := pos, inBuf := inBuf } : NmeaReader pf).line = body :=
    filled.2.2.2
  have step := nmeaReaderAddc_gps (s := { s with
    reader := { s.reader with pos := pos, inBuf := inBuf }, gpsNmeaEndTag := last.endTag }) differ
    (registered last (by simp)) filled.1 room (by dsimp only; rw [text]; exact known)
    (by dsimp only; rw [text]; exact taken) p
  dsimp only at step
  rw [text] at step
  rw [nmeaReaderFeed_append, nmeaReaderFeed_append, nmeaReaderFeed_withSv fresh, fed]
  simp only [nmeaReaderFeed, ended, nil_append, append_nil]
  exact step

/-- Input without a legacy report, and more input after it. -/
theorem RunsBeside.append {here there : List NmeaInput} {p middle q : SvPart pf}
    {shown later : Prop} [Decidable shown]
    [Decidable later] (silent : ¬ shown)
    (first : RunsBeside (nmeaReaderFeed (s.withSv p) here mtkSize) (nmeaReaderFeed s here) shown middle)
    (second : RunsBeside (nmeaReaderFeed ((nmeaReaderFeed s here).1.withSv middle) there mtkSize)
      (nmeaReaderFeed (nmeaReaderFeed s here).1 there) later q) :
    RunsBeside (nmeaReaderFeed (s.withSv p) (here ++ there) mtkSize) (nmeaReaderFeed s (here ++ there)) later q := by
  have state := first.state
  have gps := first.gps
  rw [if_neg silent] at state gps
  rw [nmeaReaderFeed_append, nmeaReaderFeed_append, state]
  constructor
  · exact second.state
  · rw [otherCalls_append, otherCalls_append, first.others, second.others]
  · rw [gpsReports_append, gps, second.gps, nil_append]
  · rw [svReports_append, first.gnss, second.gnss, nil_append]
  · rw [gpsReports_append, first.noGps, second.noGps, nil_append]

/-- A line that both copies of the parser take. -/
structure CommonLine (line : List Byte) : Prop where
  isLine : IsLine lf line
  fits : line.length ≤ nmeaMaxSize
  taken : sentenceKind line ≠ .ignored
  known : KnownTalker line

/-- Whole lines, the end tag raised at the last byte: the part is folded along the lines and shown at the end. -/
theorem nmeaReaderFeed_gps_lines (differ : pf.sizeofGpsCallbacks ≠ mtkSize)
    (lines : List (List Byte)) {inputs : List NmeaInput} (registered : Registered pf inputs)
    (idle : s.reader.Idle) (each : ∀ line ∈ lines, CommonLine line)
    (bytes : inputs.map NmeaInput.byte = lines.flatten) (tagged : TaggedLast inputs)
    {p q : SvPart pf} (folded : lines.foldl (fun p line => gpsEffect line p) p = q) :
    RunsBeside (nmeaReaderFeed (s.withSv p) inputs mtkSize) (nmeaReaderFeed s inputs) (lines ≠ [] ∧ q.Shown true) q := by
  induction lines generalizing inputs s p with
  | nil =>
    obtain rfl : inputs = [] := map_eq_nil_iff.mp bytes
    rw [← folded]
    constructor <;> simp [nmeaReaderFeed, gpsReports, svReports]
  | cons line rest ih =>
    have common := each line mem_cons_self
    obtain ⟨first, last, there, rfl, hereBytes, thereBytes, taggedThere, tag⟩ :=
      tagged.firstLine (fun line member => (each line member).isLine) bytes
    have hereRegistered : Registered pf (first ++ [last]) :=
      fun input member => registered input (mem_append_left _ member)
    have beside :=
      nmeaReaderFeed_gps_line differ hereRegistered idle common.isLine common.fits common.known
      common.taken hereBytes p
    rw [foldl_cons] at folded
    cases rest with
    | nil =>
      obtain rfl : there = [] := map_eq_nil_iff.mp thereBytes
      rw [foldl_nil] at folded
      rw [folded, tag.mpr rfl] at beside
      rw [append_nil]
      simpa only [ne_eq, reduceCtorEq, not_false_eq_true, true_and] using beside
    | cons next rest =>
      have quiet : ¬ (gpsEffect line p).Shown last.endTag :=
        fun shown => cons_ne_nil next rest (tag.mp shown.2.1)
      have idle' :=
        (nmeaReaderFeed_line_svView hereRegistered idle common.isLine common.fits common.taken hereBytes).1
      have later := ih (s := (nmeaReaderFeed s (first ++ [last])).1)
        (fun input member => registered input (mem_append_right _ member)) idle'
        (fun line member => each line (mem_cons_of_mem _ member)) thereBytes taggedThere folded
      simp only [ne_eq, reduceCtorEq, not_false_eq_true, true_and] at later ⊢
      exact beside.append quiet later

end Lines

end Mt6582.Gps

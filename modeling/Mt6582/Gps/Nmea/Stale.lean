import Mt6582.Gps.Nmea.Assembly
import Mt6582.Gps.Nmea.Clock

/-! # Bytes left over from earlier sentences

`in` is never cleared, and several reads of the parser go past the end of a token. Two readers that
differ only in bytes from `pos` on hold the same line once it is complete, every token of it ends in
front of a separator of the line itself, and all that is done with a token depends on its text. So the
two readers make the same calls and stay as similar as they were, whatever bytes follow.
-/

namespace Mt6582.Gps

variable {F : Type} {pf : Platform F}

section Tokens

/-- Two tokens that cover the same text, each in front of a byte that ends a field. -/
structure Token.Alike (tok tok' : Token) : Prop where
  good : tok.Good
  good' : tok'.Good
  text : tok'.text = tok.text

namespace Token.Alike

variable {tok tok' : Token} (alike : tok.Alike tok')

include alike

theorem int : tok'.int = tok.int := by
  rw [alike.good.int_eq, alike.good'.int_eq, alike.text]

theorem float : tok'.float pf = tok.float pf := by
  rw [alike.good.float_eq, alike.good'.float_eq, alike.text]

theorem short_iff (n : Nat) : tok'.fin < tok'.p + n ↔ tok.fin < tok.p + n := by
  have length := alike.good.length_eq
  have length' := alike.good'.length_eq
  rw [alike.text] at length'
  have := alike.good.order
  have := alike.good'.order
  omega

theorem empty_iff : tok'.fin ≤ tok'.p ↔ tok.fin ≤ tok.p := by
  have short := alike.short_iff 1
  omega

theorem same_iff : tok'.p = tok'.fin ↔ tok.p = tok.fin := by
  have short := alike.short_iff 1
  have := alike.good.order
  have := alike.good'.order
  omega

theorem first_iff {c : Byte} (plain : c ∉ [0, comma, star, cr, lf]) :
    tok'.first = c ↔ tok.first = c := by
  rw [alike.good.first_eq_iff plain, alike.good'.first_eq_iff plain, alike.text]

theorem memEq (skip : Nat) (inside : skip ≤ tok.text.length) (word : List Byte)
    (plain : (word.all fun c => c ∉ [0, comma, star, cr, lf]) = true) :
    Gps.memEq tok'.mem (tok'.p + skip) word = Gps.memEq tok.mem (tok.p + skip) word := by
  have letters : ∀ c ∈ word, c ∉ [0, comma, star, cr, lf] := by
    simpa only [List.all_eq_true, decide_eq_true_eq] using plain
  rw [Bool.eq_iff_iff, alike.good.memEq_iff inside word letters,
    alike.good'.memEq_iff (by rwa [alike.text]) word letters, alike.text]

end Token.Alike

/-- All tokens of two token lists are alike. -/
def TokensAlike (tzer tzer' : List Token) : Prop :=
  ∀ i, (nmeaTokenizerGet tzer i).Alike (nmeaTokenizerGet tzer' i)

theorem NmeaReader.HoldsLine.tokensAlike {r r' : NmeaReader pf} (holds : r.HoldsLine)
    (holds' : r'.HoldsLine) (line : r'.line = r.line) : TokensAlike r.tokens r'.tokens := by
  intro i
  exact ⟨holds.good i, holds'.good i, by rw [holds.text, holds'.text, line]⟩

end Tokens

section Updates

/-- Related branches of two conditionals that decide alike. -/
private theorem ite_related {α : Type} (R : α → α → Prop) {c c' : Prop} [Decidable c] [Decidable c']
    {yes yes' no no' : α} (decides : c ↔ c') (first : R yes yes') (second : ¬ c → R no no') :
    R (if c then yes else no) (if c' then yes' else no') := by
  by_cases holds : c
  · rw [if_pos holds, if_pos (decides.mp holds)]
    exact first
  · rw [if_neg holds, if_neg (decides.not.mp holds)]
    exact second holds

/-- All fields but the buffer agree. -/
def NmeaReader.SameButBuffer (r r' : NmeaReader pf) : Prop := ∃ inBuf, r' = { r with inBuf := inBuf }

variable {r r' : NmeaReader pf} {tok tok' : Token} (same : r.SameButBuffer r')

include same

theorem nmeaReaderUpdateTime_stale (now : Int) (alike : tok.Alike tok') :
    (nmeaReaderUpdateTime r now tok).1.SameButBuffer (nmeaReaderUpdateTime r' now tok').1 := by
  obtain ⟨inBuf, rfl⟩ := same
  rw [nmeaReaderUpdateTime_eq _ _ alike.good, nmeaReaderUpdateTime_eq _ _ alike.good', alike.text]
  exact ⟨inBuf, rfl⟩

theorem nmeaReaderUpdateDate_stale (now : Int) {time time' : Token} (date : tok.Alike tok')
    (alike : time.Alike time') :
    (nmeaReaderUpdateDate r now tok time).1.SameButBuffer (nmeaReaderUpdateDate r' now tok' time').1 := by
  obtain ⟨inBuf, rfl⟩ := same
  rw [nmeaReaderUpdateDate_eq _ _ date.good alike.good,
    nmeaReaderUpdateDate_eq _ _ date.good' alike.good', date.text, alike.text]
  exact ⟨inBuf, rfl⟩

theorem nmeaReaderUpdateLatlong_stale {hemi hemi' lon lon' lonHemi lonHemi' : Token}
    (lat : tok.Alike tok') (latHemi : hemi.Alike hemi') (longitude : lon.Alike lon')
    (longitudeHemi : lonHemi.Alike lonHemi') :
    (nmeaReaderUpdateLatlong r tok hemi lon lonHemi).1.SameButBuffer
      (nmeaReaderUpdateLatlong r' tok' hemi' lon' lonHemi').1 := by
  obtain ⟨inBuf, rfl⟩ := same
  have south : hemi'.first = 'S'.toUInt8 ↔ hemi.first = 'S'.toUInt8 := latHemi.first_iff (by decide)
  have west : lonHemi'.first = 'W'.toUInt8 ↔ lonHemi.first = 'W'.toUInt8 :=
    longitudeHemi.first_iff (by decide)
  simp only [nmeaReaderUpdateLatlong, lat.short_iff, longitude.short_iff, lat.float,
    longitude.float, south, west]
  split_ifs <;> exact ⟨inBuf, rfl⟩

theorem nmeaReaderUpdateNumber_stale (flag : LocationFlag)
    (store : GpsLocation F → F → GpsLocation F) (alike : tok.Alike tok') :
    (nmeaReaderUpdateNumber r flag tok store).1.SameButBuffer (nmeaReaderUpdateNumber r' flag tok' store).1 := by
  obtain ⟨inBuf, rfl⟩ := same
  simp only [nmeaReaderUpdateNumber, alike.empty_iff, alike.float]
  split_ifs <;> exact ⟨inBuf, rfl⟩

variable {elevation elevation' azimuth azimuth' snr snr' : Token} (prn : Int)
  (high : elevation.Alike elevation') (turn : azimuth.Alike azimuth') (noise : snr.Alike snr')

include high turn noise

theorem nmeaReaderUpdateSvStatusGps_stale :
    (nmeaReaderUpdateSvStatusGps r prn elevation azimuth snr).SameButBuffer
      (nmeaReaderUpdateSvStatusGps r' prn elevation' azimuth' snr') := by
  obtain ⟨inBuf, rfl⟩ := same
  simp only [nmeaReaderUpdateSvStatusGps, high.int, turn.int, noise.float]
  split_ifs <;> exact ⟨inBuf, rfl⟩

theorem nmeaReaderUpdateSvStatusGnss_stale (used : SvUsedInFix) :
    (nmeaReaderUpdateSvStatusGnss used r prn elevation azimuth snr).SameButBuffer
      (nmeaReaderUpdateSvStatusGnss used r' prn elevation' azimuth' snr') := by
  obtain ⟨inBuf, rfl⟩ := same
  simp only [nmeaReaderUpdateSvStatusGnss, high.int, turn.int, noise.float]
  split_ifs <;> exact ⟨inBuf, rfl⟩

end Updates

section Branches

variable {tzer tzer' : List Token} (tokens : TokensAlike tzer tzer')

include tokens

private theorem gsaLoop_stale (bds : Bool) (left idx : Nat) (used : SvUsedInFix) :
    gsaLoop tzer' bds left idx used = gsaLoop tzer bds left idx used := by
  induction left generalizing idx used with
  | zero => rfl
  | succ left ih => simp only [gsaLoop, (tokens (idx + 3)).same_iff, (tokens (idx + 3)).int, ih]

private theorem gsaLoopGps_stale (left idx : Nat) (mask : BitVec 32) :
    gsaLoopGps tzer' left idx mask = gsaLoopGps tzer left idx mask := by
  induction left generalizing idx mask with
  | zero => rfl
  | succ left ih => simp only [gsaLoopGps, (tokens (idx + 3)).same_iff, (tokens (idx + 3)).int, ih]

private theorem gsvSvId_stale (bds : Bool) (idx : Nat) :
    gsvSvId tzer' bds idx = gsvSvId tzer bds idx := by
  simp only [gsvSvId, (tokens _).int]

variable {r r' : NmeaReader pf} (same : r.SameButBuffer r')

include same

private theorem parseGga_stale (env : ParseEnv) :
    (parseGga env tzer r).SameButBuffer (parseGga env tzer' r') := by
  have time := nmeaReaderUpdateTime_stale same env.now (tokens 1)
  have place := nmeaReaderUpdateLatlong_stale time (tokens 2) (tokens 3) (tokens 4) (tokens 5)
  exact nmeaReaderUpdateNumber_stale place _ _ (tokens 9)

private theorem parseRmc_stale (env : ParseEnv) :
    (parseRmc env tzer r).SameButBuffer (parseRmc env tzer' r') := by
  have status : (nmeaTokenizerGet tzer' 2).first = 'A'.toUInt8 ↔
      (nmeaTokenizerGet tzer 2).first = 'A'.toUInt8 :=
    (tokens 2).first_iff (by decide)
  simp only [parseRmc, status]
  split_ifs
  · have date := nmeaReaderUpdateDate_stale same env.now (tokens 9) (tokens 1)
    have place := nmeaReaderUpdateLatlong_stale date (tokens 3) (tokens 4) (tokens 5) (tokens 6)
    have bearing := nmeaReaderUpdateNumber_stale place .bearing
      (fun fix value => { fix with bearing := pf.toSingle value }) (tokens 8)
    exact nmeaReaderUpdateNumber_stale bearing _ _ (tokens 7)
  · exact same

private theorem parseAccuracy_stale :
    (parseAccuracy tzer r).SameButBuffer (parseAccuracy tzer' r') := by
  have mode : r'.fixMode = r.fixMode := by obtain ⟨inBuf, rfl⟩ := same; rfl
  simp only [parseAccuracy, mode]
  split_ifs
  · exact nmeaReaderUpdateNumber_stale same _ _ (tokens 1)
  · exact same

private theorem parseGsaGps_stale : (parseGsaGps tzer r).SameButBuffer (parseGsaGps tzer' r') := by
  obtain ⟨inBuf, rfl⟩ := same
  unfold parseGsaGps
  rw [(tokens 2).int, gsaLoopGps_stale tokens]
  exact ite_related _ Iff.rfl ⟨inBuf, rfl⟩ (fun _ => ⟨inBuf, rfl⟩)

omit tokens in
/-- A loop over satellites keeps readers alike when each round does. -/
private theorem foldl_stale {update update' : NmeaReader pf → Nat → NmeaReader pf}
    (step : ∀ (r r' : NmeaReader pf) idx, r.SameButBuffer r' → (update r idx).SameButBuffer (update' r' idx))
    (indices : List Nat) : (indices.foldl update r).SameButBuffer (indices.foldl update' r') := by
  induction indices generalizing r r' with
  | nil => exact same
  | cons idx rest ih => exact ih (step r r' idx same)

omit tokens in
private theorem gsvStart_stale (seq : Int) : (gsvStart seq r).SameButBuffer (gsvStart seq r') := by
  obtain ⟨inBuf, rfl⟩ := same
  unfold gsvStart
  split_ifs <;> exact ⟨inBuf, rfl⟩

omit tokens in
private theorem gsvClose_stale (num seq cnt : Int) :
    (gsvClose num seq cnt r).SameButBuffer (gsvClose num seq cnt r') := by
  obtain ⟨inBuf, rfl⟩ := same
  unfold gsvClose
  split_ifs <;> exact ⟨inBuf, rfl⟩

omit tokens in
private theorem gsvCloseGps_stale (num seq cnt : Int) :
    (gsvCloseGps num seq cnt r).SameButBuffer (gsvCloseGps num seq cnt r') := by
  obtain ⟨inBuf, rfl⟩ := same
  unfold gsvCloseGps
  split_ifs <;> exact ⟨inBuf, rfl⟩

private theorem parseGsv_stale (bds : Bool) (used : SvUsedInFix) :
    (parseGsv tzer bds used r).SameButBuffer (parseGsv tzer' bds used r') := by
  simp only [parseGsv, gsvFill, (tokens _).int, gsvSvId_stale tokens]
  apply gsvClose_stale
  apply foldl_stale (gsvStart_stale same _)
  intro r r' idx same
  exact nmeaReaderUpdateSvStatusGnss_stale same _ (tokens _) (tokens _) (tokens _) used

private theorem parseGsvGps_stale (bds : Bool) :
    (parseGsvGps tzer bds r).SameButBuffer (parseGsvGps tzer' bds r') := by
  simp only [parseGsvGps, gsvFillGps, (tokens _).int, gsvSvId_stale tokens]
  apply gsvCloseGps_stale
  apply foldl_stale (gsvStart_stale same _)
  intro r r' idx same
  exact nmeaReaderUpdateSvStatusGps_stale same _ (tokens _) (tokens _) (tokens _)

end Branches

section Parser

/-- Readers alike up to the buffer, with equal globals. -/
structure NmeaState.SameButBuffer (s s' : NmeaState pf) : Prop where
  reader : s.reader.SameButBuffer s'.reader
  svUsedInFix : s'.svUsedInFix = s.svUsedInFix
  gpsNmeaEndTag : s'.gpsNmeaEndTag = s.gpsNmeaEndTag

/-- Equal calls, and states alike up to the buffer after them. -/
def SameOutcome (out out' : NmeaState pf × List (Call pf)) : Prop :=
  out.1.SameButBuffer out'.1 ∧ out'.2 = out.2

variable {s s' : NmeaState pf} (same : s.SameButBuffer s') (env : ParseEnv)

include same

private theorem parseGsa_stale {tzer tzer' : List Token} (tokens : TokensAlike tzer tzer')
    (bds : Bool) :
    (parseGsa tzer bds s).SameButBuffer (parseGsa tzer' bds s') := by
  obtain ⟨⟨inBuf, reader⟩, used, tag⟩ := same
  unfold parseGsa
  rw [(tokens 2).int, used, reader]
  dsimp only
  rw [gsaLoop_stale tokens]
  exact ite_related _ Iff.rfl ⟨⟨inBuf, rfl⟩, rfl, tag⟩ (fun _ => ⟨⟨inBuf, rfl⟩, rfl, tag⟩)

private theorem nmeaReaderDispatch_stale {tzer tzer' : List Token} (tokens : TokensAlike tzer tzer')
    (long : 5 ≤ (nmeaTokenizerGet tzer 0).text.length) :
    (nmeaReaderDispatch env tzer (nmeaTokenizerGet tzer 0) s).SameButBuffer
      (nmeaReaderDispatch env tzer' (nmeaTokenizerGet tzer' 0) s') := by
  have type := (tokens 0).memEq 2 (by omega)
  have whole (word : List Byte) (plain : (word.all fun c => c ∉ [0, comma, star, cr, lf]) = true) :
      memEq (nmeaTokenizerGet tzer' 0).mem (nmeaTokenizerGet tzer' 0).p word =
        memEq (nmeaTokenizerGet tzer 0).mem (nmeaTokenizerGet tzer 0).p word :=
    (tokens 0).memEq 0 (Nat.zero_le _) word plain
  simp only [nmeaReaderDispatch, whole (lit ['B', 'D']) (by decide),
    type (lit ['G', 'G', 'A']) (by decide), type (lit ['R', 'M', 'C']) (by decide),
    type (lit ['G', 'S', 'V']) (by decide),
    type (lit ['A', 'C', 'C', 'U', 'R', 'A', 'C', 'Y']) (by decide),
    whole (lit ['G', 'P', 'G', 'S', 'A']) (by decide),
    whole (lit ['B', 'D', 'G', 'S', 'A']) (by decide),
    whole (lit ['G', 'L', 'G', 'S', 'A']) (by decide),
    whole (lit ['G', 'P', 'G', 'S', 'V']) (by decide),
    whole (lit ['G', 'L', 'G', 'S', 'V']) (by decide)]
  have onReader {r r' : NmeaReader pf} (reader : r.SameButBuffer r') :
      ({ s with reader := r } : NmeaState pf).SameButBuffer { s' with reader := r' } :=
    ⟨reader, same.svUsedInFix, same.gpsNmeaEndTag⟩
  apply ite_related _ Iff.rfl (onReader (parseGga_stale tokens same.reader env))
  intro _
  apply ite_related _ Iff.rfl (parseGsa_stale same tokens _)
  intro _
  apply ite_related _ Iff.rfl (onReader (parseGsaGps_stale tokens same.reader))
  intro _
  apply ite_related _ Iff.rfl (onReader (parseRmc_stale tokens same.reader env))
  intro _
  apply ite_related _ Iff.rfl
  · rw [same.svUsedInFix]
    exact ⟨parseGsv_stale tokens same.reader _ _, rfl, same.gpsNmeaEndTag⟩
  intro _
  apply ite_related _ Iff.rfl (onReader (parseGsvGps_stale tokens same.reader _))
  intro _
  exact ite_related _ Iff.rfl (onReader (parseAccuracy_stale tokens same.reader)) fun _ => same

private theorem nmeaReaderReportFix_stale :
    SameOutcome (nmeaReaderReportFix env s) (nmeaReaderReportFix env s') := by
  have unchanged : SameOutcome (s, []) (s', []) := ⟨same, rfl⟩
  obtain ⟨⟨inBuf, reader⟩, used, tag⟩ := same
  unfold nmeaReaderReportFix
  rw [reader, tag]
  apply ite_related _ Iff.rfl unchanged
  intro _
  exact ite_related _ Iff.rfl ⟨⟨⟨inBuf, rfl⟩, used, rfl⟩, rfl⟩ (fun _ => unchanged)

private theorem nmeaReaderReportSv_stale :
    SameOutcome (nmeaReaderReportSv env s) (nmeaReaderReportSv env s') := by
  have unchanged : SameOutcome (s, []) (s', []) := ⟨same, rfl⟩
  obtain ⟨⟨inBuf, reader⟩, used, tag⟩ := same
  unfold nmeaReaderReportSv
  rw [reader, tag]
  apply ite_related _ Iff.rfl
  · exact ite_related _ Iff.rfl ⟨⟨⟨inBuf, rfl⟩, rfl, rfl⟩, rfl⟩ (fun _ => unchanged)
  · intro _
    exact ite_related _ Iff.rfl ⟨⟨⟨inBuf, rfl⟩, used, rfl⟩, rfl⟩ (fun _ => unchanged)

/-- The reports do not look at the buffer. -/
private theorem nmeaReaderReport_stale :
    SameOutcome (nmeaReaderReport env s) (nmeaReaderReport env s') := by
  obtain ⟨fix, fixCalls⟩ := nmeaReaderReportFix_stale same env
  obtain ⟨sv, svCalls⟩ := nmeaReaderReportSv_stale fix env
  refine ⟨sv, ?_⟩
  simp only [nmeaReaderReport, fixCalls, svCalls]

/-- On a complete line the parser does the same for both readers. -/
private theorem nmeaReaderParse_stale (holds : s.reader.HoldsLine) (holds' : s'.reader.HoldsLine)
    (line : s'.reader.line = s.reader.line) :
    SameOutcome (nmeaReaderParse env s) (nmeaReaderParse env s') := by
  have tokens : TokensAlike s.reader.tokens s'.reader.tokens := holds.tokensAlike holds' line
  have pos : s'.reader.pos < 9 ↔ s.reader.pos < 9 := by
    rw [← holds.length_line, ← holds'.length_line, line]
  have short := (tokens 0).short_iff 5
  have length := (holds.good 0).length_eq
  rw [nmeaReaderParse]
  apply ite_related _ pos.symm ⟨same, rfl⟩
  intro _
  apply ite_related _ short.symm ⟨same, rfl⟩
  intro long
  have id : 5 ≤ (nmeaTokenizerGet s.reader.tokens 0).text.length := by
    rw [length]
    exact Nat.le_sub_of_add_le' (not_lt.mp long)
  exact nmeaReaderReport_stale (nmeaReaderDispatch_stale same env tokens id) env

end Parser

section Feed

/-- The readers agree in everything but bytes of `in` from `pos` on, and the globals are equal. -/
structure NmeaState.StaleEq (s s' : NmeaState pf) : Prop where
  same : s.SameButBuffer s'
  line : s'.reader.line = s.reader.line

/-- One byte: the same calls, and readers that agree as before. -/
theorem nmeaReaderAddc_stale {s s' : NmeaState pf} (stale : s.StaleEq s') (env : ParseEnv)
    (c : Byte) :
    (nmeaReaderAddc env s c).1.StaleEq (nmeaReaderAddc env s' c).1 ∧
      (nmeaReaderAddc env s' c).2 = (nmeaReaderAddc env s c).2 := by
  obtain ⟨⟨⟨inBuf, reader⟩, used, tag⟩, line⟩ := stale
  have overflow : s'.reader.overflow = s.reader.overflow := by rw [reader]
  have pos : s'.reader.pos = s.reader.pos := by rw [reader]
  let R (x y : NmeaState pf × List (Call pf)) : Prop := x.1.StaleEq y.1 ∧ y.2 = x.2
  change R (nmeaReaderAddc env s c) (nmeaReaderAddc env s' c)
  rw [nmeaReaderAddc]
  apply ite_related R (by rw [overflow])
  · refine ⟨⟨⟨⟨inBuf, ?_⟩, used, tag⟩, line⟩, rfl⟩
    rw [reader]
  · intro _
    apply ite_related R (by rw [pos])
    · refine ⟨⟨⟨⟨inBuf, ?_⟩, used, tag⟩, rfl⟩, rfl⟩
      rw [reader]
    · intro full
      have room : s.reader.pos < nmeaMaxSize := not_le.mp full
      have room' : s'.reader.pos < nmeaMaxSize := by rwa [pos]
      have pushed :
          NmeaState.StaleEq { s with reader := s.reader.push c } { s' with reader := s'.reader.push c } := by
        refine ⟨⟨⟨inBuf.setIfInBounds s.reader.pos c, ?_⟩, used, tag⟩, ?_⟩
        · rw [reader]
          rfl
        · rw [NmeaReader.line_push room, NmeaReader.line_push room', line]
      by_cases ended : c = lf
      · subst ended
        obtain ⟨parsed, calls⟩ :=
          nmeaReaderParse_stale pushed.same env (NmeaReader.holdsLine_push room)
          (NmeaReader.holdsLine_push room') pushed.line
        have kept := (nmeaReaderParse_sameBuffer { s with reader := s.reader.push lf } env).line_eq
        have kept' :=
          (nmeaReaderParse_sameBuffer { s' with reader := s'.reader.push lf } env).line_eq
        obtain ⟨⟨buffer, after⟩, usedAfter, tagAfter⟩ := parsed
        have stamp :
            (nmeaReaderParse env { s' with reader := s'.reader.push lf }).1.reader.fix.timestamp =
            (nmeaReaderParse env { s with reader := s.reader.push lf }).1.reader.fix.timestamp := by
          rw [after]
        simp only [↓reduceIte]
        refine ⟨⟨⟨⟨buffer, ?_⟩, usedAfter, tagAfter⟩, rfl⟩, ?_⟩
        · rw [after]
        · simp only [calls, stamp, kept, kept', pushed.line]
      · simp only [if_neg ended]
        exact ⟨pushed, rfl⟩

/-- Whatever bytes are fed to both, the two readers make the same calls and differ at most in bytes from
`pos` on. -/
theorem nmeaReaderFeed_stale {s s' : NmeaState pf} (stale : s.StaleEq s') (inputs : List NmeaInput) :
    (nmeaReaderFeed s' inputs).2 = (nmeaReaderFeed s inputs).2 ∧
      (nmeaReaderFeed s inputs).1.StaleEq (nmeaReaderFeed s' inputs).1 := by
  induction inputs generalizing s s' with
  | nil => exact ⟨rfl, stale⟩
  | cons input rest ih =>
    have tagged : NmeaState.StaleEq { s with gpsNmeaEndTag := input.endTag }
        { s' with gpsNmeaEndTag := input.endTag } :=
      ⟨⟨stale.same.reader, stale.same.svUsedInFix, rfl⟩, stale.line⟩
    obtain ⟨added, calls⟩ := nmeaReaderAddc_stale tagged input.env input.byte
    obtain ⟨later, final⟩ := ih added
    refine ⟨?_, final⟩
    simp only [nmeaReaderFeed, calls, later]

/-- The line `$PMACC,,` is parsed alike in a fresh buffer and in one full of old bytes, although the parser
compares eight bytes with `ACCURACY` after checking for five. -/
theorem nmeaReaderFeed_stale_leftover :
    let inputs : List NmeaInput :=
      (lit ['$', 'P', 'M', 'A', 'C', 'C', ',', ','] ++ [lf]).map fun c =>
        ⟨⟨72, true, 0, []⟩, true, c⟩
    let fresh : NmeaState (Platform.utc 64 (by decide)) := ⟨nmeaReaderInit _, fun _ => false, false⟩
    let leftover :=
      { fresh with reader := { fresh.reader with inBuf := Vector.replicate _ 'U'.toUInt8 } }
    (nmeaReaderFeed leftover inputs).2 = (nmeaReaderFeed fresh inputs).2 ∧
      (nmeaReaderFeed fresh inputs).1.StaleEq (nmeaReaderFeed leftover inputs).1 := by
  intro inputs fresh leftover
  have stale : fresh.StaleEq leftover := ⟨⟨⟨_, rfl⟩, rfl, rfl⟩, rfl⟩
  exact nmeaReaderFeed_stale stale inputs

end Feed

end Mt6582.Gps

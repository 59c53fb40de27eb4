import Mt6582.Gps.Nmea.Traced

/-! # Which branch a line takes, and what it records

The comparisons of the parser choose one branch by the sentence's id and the registered size. Whatever is asked of all
records is asked of that branch alone, once tokenizer, comparisons and reports are known to be good. An update of a
satellite list records nothing unless it stores.
-/

namespace Mt6582.Gps

open Machine

section Branch

variable {F : Type} {pf : Platform F}

/-- The branch of the parser, with the two copies apart; `none` runs no branch. -/
inductive ParserBranch where
  | gga | gsa | gsaGps | rmc | gsv | gsvGps | accuracy | none
deriving DecidableEq, Repr

/-- The branch that a line takes with callbacks of this size registered. -/
def parserBranch (pf : Platform F) (mtkSize size : Nat) (line : List Byte) : ParserBranch :=
  let id := field line 0
  if line.length < 9 ∨ id.length < 5 then .none
  else if lit ['G', 'G', 'A'] <+: id.drop 2 then .gga
  else if size = mtkSize ∧ (lit ['G', 'P', 'G', 'S', 'A'] <+: id ∨ lit ['B', 'D', 'G', 'S', 'A'] <+: id ∨
      lit ['G', 'L', 'G', 'S', 'A'] <+: id) then .gsa
  else if size = pf.sizeofGpsCallbacks ∧ lit ['G', 'P', 'G', 'S', 'A'] <+: id then .gsaGps
  else if lit ['R', 'M', 'C'] <+: id.drop 2 then .rmc
  else if size = mtkSize ∧ lit ['G', 'S', 'V'] <+: id.drop 2 then .gsv
  else if size = pf.sizeofGpsCallbacks ∧
      (lit ['G', 'P', 'G', 'S', 'V'] <+: id ∨ lit ['G', 'L', 'G', 'S', 'V'] <+: id) then .gsvGps
  else if lit ['A', 'C', 'C', 'U', 'R', 'A', 'C', 'Y'] <+: id.drop 2 then .accuracy
  else .none

/-- What a branch does to the reader. -/
def readerBranchRecorded (env : ParseEnv) (s : NmeaState pf) (branch : ParserBranch) :
    Recorded (NmeaReader pf) :=
  match branch with
  | .gga => parseGgaRecorded env s.reader.tokens s.reader
  | .gsa => do
      let s ← parseGsaRecorded s.reader.tokens (isBds s.reader.line) s
      pure s.reader
  | .gsaGps => parseGsaGpsRecorded s.reader.tokens s.reader
  | .rmc => parseRmcRecorded env s.reader.tokens s.reader
  | .gsv => parseGsvRecorded s.reader.tokens (isBds s.reader.line) s.svUsedInFix s.reader
  | .gsvGps => parseGsvGpsRecorded s.reader.tokens (isBds s.reader.line) s.reader
  | .accuracy => parseAccuracyRecorded s.reader.tokens s.reader
  | .none => pure s.reader

variable {good : ReaderEvent → Prop} {mtkSize : Nat} {env : ParseEnv} {s : NmeaState pf}

theorem andRecorded_all (cond : Prop) [Decidable cond] {x : Recorded Bool} (right : x.All good) :
    (andRecorded cond x).All good := .ite (fun _ => right) fun _ => Traced.all_pure _

theorem orRecorded_all {x y : Recorded Bool} (left : x.All good) (right : y.All good) :
    (orRecorded x y).All good :=
  left.bind fun _ => .ite (fun _ => Traced.all_pure _) fun _ => right

/-- The same records, as far as `good` tells, and the same reader. -/
structure SameReader (good : ReaderEvent → Prop) (x : Recorded (NmeaState pf))
    (y : Recorded (NmeaReader pf)) : Prop where
  all : x.All good ↔ y.All good
  reader : x.value.reader = y.value

theorem SameReader.store (y : Recorded (NmeaReader pf)) :
    SameReader good (do let r ← y; pure { s with reader := r }) y :=
  ⟨by rw [Traced.all_bind, and_iff_left (Traced.all_pure _)], rfl⟩

theorem SameReader.read (x : Recorded (NmeaState pf)) :
    SameReader good x (do let s ← x; pure s.reader) :=
  ⟨by rw [Traced.all_bind, and_iff_left (Traced.all_pure _)], rfl⟩

theorem SameReader.after {test : Recorded Bool} {f : Bool → Recorded (NmeaState pf)}
    {y : Recorded (NmeaReader pf)} (quiet : test.All good)
    (same : SameReader good (f test.value) y) : SameReader good (test >>= f) y :=
  ⟨by rw [Traced.all_bind, and_iff_right quiet, same.all], same.reader⟩

/-- A test that records nothing but good events is a case distinction. -/
theorem SameReader.test {test : Recorded Bool} {cond : Prop} [Decidable cond]
    {x y : Recorded (NmeaState pf)} {left right : Recorded (NmeaReader pf)} (quiet : test.All good)
    (decides : test.value = true ↔ cond) (yes : SameReader good x left)
    (no : SameReader good y right) :
    SameReader good (do let taken ← test; if taken then x else y) (if cond then left else right) := by
  refine .after quiet ?_
  by_cases taken : cond
  · rwa [if_pos taken, if_pos (decides.mpr taken)]
  · rwa [if_neg taken, if_neg (mt decides.mp taken)]

/-- The comparisons apart, the dispatch records what its branch records, and yields its reader. -/
theorem nmeaReaderDispatchRecorded_branch (holds : s.reader.HoldsLine)
    (long : ¬ (s.reader.line.length < 9 ∨ (field s.reader.line 0).length < 5))
    (compared : ∀ skip word, skip + word.length ≤ 10 →
      (memcmpRecorded (nmeaTokenizerGet s.reader.tokens 0).mem
      ((nmeaTokenizerGet s.reader.tokens 0).p + skip) word).All good) :
    SameReader good
      (nmeaReaderDispatchRecorded mtkSize env s.reader.tokens (nmeaTokenizerGet s.reader.tokens 0) s)
      (readerBranchRecorded env s (parserBranch pf mtkSize env.callbacksSize s.reader.line)) := by
  have whole (word : List Byte) (short : word.length ≤ 10) :
      (memcmpRecorded (nmeaTokenizerGet s.reader.tokens 0).mem
      (nmeaTokenizerGet s.reader.tokens 0).p word).All good := compared 0 word (by omega)
  have typed (word : List Byte) (short : word.length ≤ 8) := compared 2 word (by omega)
  have type := holds.type_iff (by omega)
  have identifier := holds.identifier_iff
  simp only [parserBranch, if_neg long, apply_ite (readerBranchRecorded env s)]
  rw [nmeaReaderDispatchRecorded]
  refine .after (whole _ (by decide)) ?_
  simp only [value_memcmpRecorded, holds.bds_eq]
  refine .test (typed _ (by decide)) (type _ (by decide)) (.store _) ?_
  refine .test (andRecorded_all _ (orRecorded_all (whole _ (by decide)) (orRecorded_all (whole _ (by decide))
    (whole _ (by decide))))) ?_ (.read _) ?_
  · simp only [value_andRecorded, value_orRecorded, value_memcmpRecorded, Bool.and_eq_true,
      Bool.or_eq_true, decide_eq_true_eq, identifier (lit ['G', 'P', 'G', 'S', 'A']) (by decide),
      identifier (lit ['B', 'D', 'G', 'S', 'A']) (by decide),
      identifier (lit ['G', 'L', 'G', 'S', 'A']) (by decide)]
  refine .test (andRecorded_all _ (whole _ (by decide))) ?_ (.store _) ?_
  · simp only [value_andRecorded, value_memcmpRecorded, Bool.and_eq_true, decide_eq_true_eq,
      identifier (lit ['G', 'P', 'G', 'S', 'A']) (by decide)]
  refine .test (typed _ (by decide)) (type _ (by decide)) (.store _) ?_
  refine .test (andRecorded_all _ (typed _ (by decide))) ?_ (.store _) ?_
  · simp only [value_andRecorded, value_memcmpRecorded, Bool.and_eq_true, decide_eq_true_eq,
      type (lit ['G', 'S', 'V']) (by decide)]
  refine .test (andRecorded_all _ (orRecorded_all (whole _ (by decide)) (whole _ (by decide)))) ?_ (.store _) ?_
  · simp only [value_andRecorded, value_orRecorded, value_memcmpRecorded, Bool.and_eq_true,
      Bool.or_eq_true, decide_eq_true_eq, identifier (lit ['G', 'P', 'G', 'S', 'V']) (by decide),
      identifier (lit ['G', 'L', 'G', 'S', 'V']) (by decide)]
  exact .test (typed _ (by decide)) (type _ (by decide)) (.store _) ⟨Iff.rfl, rfl⟩

/-- Tokenizer, comparisons and reports apart, the parser records what its branch records. -/
theorem nmeaReaderParseRecorded_branch (holds : s.reader.HoldsLine)
    (split : (nmeaTokenizerInitRecorded s.reader.inBuf.toList 0 s.reader.pos).All good)
    (first : (nmeaTokenizerGetRecorded s.reader.tokens 0).All good)
    (compared : 5 ≤ (field s.reader.line 0).length → ∀ skip word, skip + word.length ≤ 10 →
      (memcmpRecorded (nmeaTokenizerGet s.reader.tokens 0).mem
        ((nmeaTokenizerGet s.reader.tokens 0).p + skip) word).All good)
    (reported : (touch 0 1 gpsMaxSvs).All good) :
    (nmeaReaderParseRecorded mtkSize env s).All good ↔
      (readerBranchRecorded env s (parserBranch pf mtkSize env.callbacksSize s.reader.line)).All good := by
  have tooShort :
      (nmeaTokenizerGet (nmeaTokenizerInit s.reader.inBuf.toList 0 s.reader.pos) 0).fin <
      (nmeaTokenizerGet (nmeaTokenizerInit s.reader.inBuf.toList 0 s.reader.pos) 0).p + 5 ↔
      (field s.reader.line 0).length < 5 := holds.short_iff 0 5
  have report (t : NmeaState pf) : (nmeaReaderReportRecorded mtkSize env t).All good :=
    Traced.All.bind (.ite (fun _ => reported) fun _ => Traced.all_pure _) fun _ => Traced.all_pure _
  rw [nmeaReaderParseRecorded, ← holds.length_line]
  by_cases long : s.reader.line.length < 9 ∨ (field s.reader.line 0).length < 5
  · have branch : parserBranch pf mtkSize env.callbacksSize s.reader.line = .none := by
      rw [parserBranch, if_pos long]
    rw [branch]
    refine iff_of_true (.ite (fun _ => Traced.all_pure _) fun size => ?_) (Traced.all_pure _)
    rw [holds.length_line, Traced.all_bind, Traced.all_bind, value_nmeaTokenizerInitRecorded,
      value_nmeaTokenizerGetRecorded, if_pos (tooShort.mpr (long.resolve_left size))]
    exact ⟨split, first, Traced.all_pure _⟩
  · rw [if_neg (not_or.mp long).1, holds.length_line, Traced.all_bind, and_iff_right split,
      Traced.all_bind, value_nmeaTokenizerInitRecorded, value_nmeaTokenizerGetRecorded,
      if_neg (tooShort.not.mpr (not_or.mp long).2), Traced.all_bind, and_iff_left (report _)]
    refine (and_iff_right first).trans ?_
    exact (nmeaReaderDispatchRecorded_branch holds long (compared (by omega))).all

end Branch

section Updates

variable {F : Type} {pf : Platform F} {good : ReaderEvent → Prop} {r : NmeaReader pf} {prn : Int}
  {elevation azimuth snr : Token}

/-- `nmea_reader_update_sv_status_gnss` stores a satellite at this count. -/
def storesGnss (pf : Platform F) (numSvs prn count : Int) : Prop :=
  ¬ prnRejected prn ∧ count < pf.gnssMaxSvs ∧ wrap32 (count + numSvs) < pf.gnssMaxSvs

/-- `nmea_reader_update_sv_status_gps` stores a satellite at this count. -/
def storesGps (numSvs prn count : Int) : Prop :=
  ¬ prnRejectedGps prn ∧ count < gpsMaxSvs ∧ wrap32 (count + numSvs) < gpsMaxSvs

instance (numSvs prn count : Int) : Decidable (storesGnss pf numSvs prn count) :=
  inferInstanceAs (Decidable (_ ∧ _))

instance (numSvs prn count : Int) : Decidable (storesGps numSvs prn count) :=
  inferInstanceAs (Decidable (_ ∧ _))

/-- The tests of `nmea_reader_update_sv_status_gnss` before the index. -/
private theorem gnss_tests :
    (prn ≤ 0 ∨ (prn < 65 ∧ gpsMaxSvs < prn) ∨ (96 < prn ∧ prn < 200) ∨ 232 < prn ∨
    (pf.gnssMaxSvs : Int) ≤ r.svCount) ↔ ¬ (¬ prnRejected prn ∧ r.svCount < pf.gnssMaxSvs) := by
  simp only [prnRejected, not_and_or, not_not, not_lt, or_assoc]

private theorem gps_tests :
    (prn ≤ 0 ∨ (prn < 65 ∧ gpsMaxSvs < prn) ∨ 96 < prn ∨ (gpsMaxSvs : Int) ≤ r.svCount) ↔
    ¬ (¬ prnRejectedGps prn ∧ r.svCount < gpsMaxSvs) := by
  simp only [prnRejectedGps, not_and_or, not_not, not_lt, or_assoc]

theorem nmeaReaderUpdateSvStatusGnssRecorded_skipped {used : SvUsedInFix}
    (skipped : ¬ storesGnss pf r.svStatusGnss.numSvs prn r.svCount) :
    nmeaReaderUpdateSvStatusGnssRecorded r used prn elevation azimuth snr = pure r := by
  rw [nmeaReaderUpdateSvStatusGnssRecorded]
  by_cases passed : ¬ prnRejected prn ∧ r.svCount < pf.gnssMaxSvs
  · rw [if_neg (mt gnss_tests.mp (not_not_intro passed))]
    exact if_pos (not_lt.mp fun index => skipped ⟨passed.1, passed.2, index⟩)
  · exact if_pos (gnss_tests.mpr passed)

/-- A stored satellite is read from its fields, between an access to `sv_list` and one to `sv_used_in_fix`. -/
theorem nmeaReaderUpdateSvStatusGnssRecorded_all {used : SvUsedInFix}
    (stored : storesGnss pf r.svStatusGnss.numSvs prn r.svCount) :
    (nmeaReaderUpdateSvStatusGnssRecorded r used prn elevation azimuth snr).All good ↔
      (touch (wrap32 (r.svCount + r.svStatusGnss.numSvs)) 1 pf.gnssMaxSvs).All good ∧
      (snr.floatRecorded pf).All good ∧
        elevation.intRecorded.All good ∧ azimuth.intRecorded.All good ∧
          (touch prn 1 svUsedSize).All good := by
  obtain ⟨accepted, room, index⟩ := stored
  rw [nmeaReaderUpdateSvStatusGnssRecorded,
    if_neg (mt gnss_tests.mp (not_not_intro ⟨accepted, room⟩)), if_neg (not_le.mpr index)]
  simp only [Traced.all_bind, Traced.all_pure, and_true]

theorem nmeaReaderUpdateSvStatusGnssRecorded_stored (used : SvUsedInFix)
    (elevation azimuth snr : Token) (stored : storesGnss pf r.svStatusGnss.numSvs prn r.svCount) :
    ∃ svList,
      (nmeaReaderUpdateSvStatusGnssRecorded r used prn elevation azimuth snr).value = { r with
      svStatusGnss := { r.svStatusGnss with svList := svList }, svCount := wrap32 (r.svCount + 1) } := by
  obtain ⟨accepted, room, index⟩ := stored
  rw [nmeaReaderUpdateSvStatusGnssRecorded,
    if_neg (mt gnss_tests.mp (not_not_intro ⟨accepted, room⟩)), if_neg (not_le.mpr index)]
  exact ⟨_, rfl⟩

theorem nmeaReaderUpdateSvStatusGpsRecorded_skipped
    (skipped : ¬ storesGps r.svStatusGps.numSvs prn r.svCount) :
    nmeaReaderUpdateSvStatusGpsRecorded r prn elevation azimuth snr = pure r := by
  rw [nmeaReaderUpdateSvStatusGpsRecorded]
  by_cases passed : ¬ prnRejectedGps prn ∧ r.svCount < gpsMaxSvs
  · rw [if_neg (mt gps_tests.mp (not_not_intro passed))]
    exact if_pos (not_lt.mp fun index => skipped ⟨passed.1, passed.2, index⟩)
  · exact if_pos (gps_tests.mpr passed)

theorem nmeaReaderUpdateSvStatusGpsRecorded_all (stored : storesGps r.svStatusGps.numSvs prn r.svCount) :
    (nmeaReaderUpdateSvStatusGpsRecorded r prn elevation azimuth snr).All good ↔
      (touch (wrap32 (r.svCount + r.svStatusGps.numSvs)) 1 gpsMaxSvs).All good ∧
      (snr.floatRecorded pf).All good ∧
        elevation.intRecorded.All good ∧ azimuth.intRecorded.All good := by
  obtain ⟨accepted, room, index⟩ := stored
  rw [nmeaReaderUpdateSvStatusGpsRecorded,
    if_neg (mt gps_tests.mp (not_not_intro ⟨accepted, room⟩)), if_neg (not_le.mpr index)]
  simp only [Traced.all_bind, Traced.all_pure, and_true]

theorem nmeaReaderUpdateSvStatusGpsRecorded_stored (elevation azimuth snr : Token)
    (stored : storesGps r.svStatusGps.numSvs prn r.svCount) :
    ∃ svList, (nmeaReaderUpdateSvStatusGpsRecorded r prn elevation azimuth snr).value = { r with
      svStatusGps := { r.svStatusGps with svList := svList }, svCount := wrap32 (r.svCount + 1) } := by
  obtain ⟨accepted, room, index⟩ := stored
  rw [nmeaReaderUpdateSvStatusGpsRecorded,
    if_neg (mt gps_tests.mp (not_not_intro ⟨accepted, room⟩)), if_neg (not_le.mpr index)]
  exact ⟨_, rfl⟩

/-- How an update counts the satellites it stores, in the states in which it is used. -/
structure UpdateCounts (stores : Int → Int → Prop) (used : NmeaReader pf → Prop)
    (update : NmeaReader pf → Int → Token → Token → Token → Recorded (NmeaReader pf)) : Prop where
  stored : ∀ state prn elevation azimuth snr, used state → stores prn state.svCount →
    (update state prn elevation azimuth snr).value.svCount = wrap32 (state.svCount + 1)
  skipped : ∀ state prn elevation azimuth snr, used state → ¬ stores prn state.svCount →
    (update state prn elevation azimuth snr).value.svCount = state.svCount
  keeps : ∀ state prn elevation azimuth snr, used state →
    used (update state prn elevation azimuth snr).value

theorem updateGnss_counts (numSvs : Int) (used : SvUsedInFix) :
    UpdateCounts (storesGnss pf numSvs)
      (fun state : NmeaReader pf => state.svStatusGnss.numSvs = numSvs)
      fun state => nmeaReaderUpdateSvStatusGnssRecorded state used where
  stored state prn elevation azimuth snr inUse stores := by
    subst inUse
    obtain ⟨svList, next⟩ :=
      nmeaReaderUpdateSvStatusGnssRecorded_stored used elevation azimuth snr stores
    rw [next]
  skipped state prn elevation azimuth snr inUse stores := by
    subst inUse
    rw [nmeaReaderUpdateSvStatusGnssRecorded_skipped stores, Traced.value_pure]
  keeps state prn elevation azimuth snr inUse := by
    subst inUse
    by_cases stores : storesGnss pf state.svStatusGnss.numSvs prn state.svCount
    · obtain ⟨svList, next⟩ :=
        nmeaReaderUpdateSvStatusGnssRecorded_stored used elevation azimuth snr stores
      rw [next]
    · rw [nmeaReaderUpdateSvStatusGnssRecorded_skipped stores, Traced.value_pure]

theorem updateGps_counts (numSvs : Int) :
    UpdateCounts (storesGps numSvs) (fun state : NmeaReader pf => state.svStatusGps.numSvs = numSvs)
      nmeaReaderUpdateSvStatusGpsRecorded where
  stored state prn elevation azimuth snr inUse stores := by
    subst inUse
    obtain ⟨svList, next⟩ := nmeaReaderUpdateSvStatusGpsRecorded_stored elevation azimuth snr stores
    rw [next]
  skipped state prn elevation azimuth snr inUse stores := by
    subst inUse
    rw [nmeaReaderUpdateSvStatusGpsRecorded_skipped stores, Traced.value_pure]
  keeps state prn elevation azimuth snr inUse := by
    subst inUse
    by_cases stores : storesGps state.svStatusGps.numSvs prn state.svCount
    · obtain ⟨svList, next⟩ :=
        nmeaReaderUpdateSvStatusGpsRecorded_stored elevation azimuth snr stores
      rw [next]
    · rw [nmeaReaderUpdateSvStatusGpsRecorded_skipped stores, Traced.value_pure]

theorem gsvStart_sv (seq : Int) (r : NmeaReader pf) :
    (gsvStart seq r).svCount = (if seq = 1 then 0 else r.svCount) ∧
    (gsvStart seq r).svStatusGnss = r.svStatusGnss ∧
      (gsvStart seq r).svStatusGps = r.svStatusGps := by
  rw [gsvStart]
  split <;> exact ⟨rfl, rfl, rfl⟩

end Updates

end Mt6582.Gps

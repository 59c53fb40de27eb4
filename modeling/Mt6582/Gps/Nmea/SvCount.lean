import Mt6582.Gps.Thread

/-! # The satellite count and the bound of `sv_list`

`sv_count` counts the satellites of the group being received and `num_svs` those of finished groups.
A satellite is stored only while both together leave a slot, but closing a group adds the whole
`sv_count` without a check, and only the first sentence of a group or a report resets it. The count
stays inside the list exactly as long as no closing sentence of a longer group arrives when
`sv_count + num_svs` already exceeds `GNSS_MAX_SVS`, as a repeated closing sentence makes it do.
-/

namespace Mt6582.Gps

open Machine

variable {F : Type} {pf : Platform F}

/-- `num_svs` describes slots of `sv_list`. -/
def GnssSvStatus.Bounded (status : GnssSvStatus pf) : Prop := 0 ≤ status.numSvs ∧ status.numSvs ≤ pf.gnssMaxSvs

def NmeaReader.SvBounded (r : NmeaReader pf) : Prop := r.svStatusGnss.Bounded

/-- The invariant behind the bound: the group's count fits the list as well. -/
structure NmeaReader.SvInvariant (r : NmeaReader pf) : Prop where
  bounded : r.SvBounded
  count_nonneg : 0 ≤ r.svCount
  count_le : r.svCount ≤ pf.gnssMaxSvs

/-- The sentence closes a group of more than one sentence while the counts already exceed the list. -/
def GsvOverruns (r : NmeaReader pf) (line : List Byte) : Prop :=
  sentenceKind line = .gsv ∧ strToInt (field line 2) = strToInt (field line 1) ∧ strToInt (field line 2) ≠ 1 ∧
    r.svCount ≤ strToInt (field line 3) ∧ pf.gnssMaxSvs < r.svCount + r.svStatusGnss.numSvs

theorem nmeaReaderInit_svInvariant : (nmeaReaderInit pf).SvInvariant :=
  ⟨⟨le_rfl, Int.natCast_nonneg _⟩, le_rfl, Int.natCast_nonneg _⟩

section Sentence

/-- Storing satellites keeps `num_svs`; the group's count is unchanged or leaves room for both. -/
structure FillStep (r next : NmeaReader pf) : Prop where
  numSvs : next.svStatusGnss.numSvs = r.svStatusGnss.numSvs
  grows : r.svCount ≤ next.svCount
  count_le : next.svCount ≤ pf.gnssMaxSvs
  room : next.svCount = r.svCount ∨ next.svCount + r.svStatusGnss.numSvs ≤ pf.gnssMaxSvs

theorem FillStep.trans {r middle next : NmeaReader pf} (first : FillStep r middle)
    (second : FillStep middle next) :
    FillStep r next := by
  refine ⟨second.numSvs.trans first.numSvs, first.grows.trans second.grows, second.count_le, ?_⟩
  have later := second.room
  rw [first.numSvs] at later
  rcases later with same | room
  · rw [same]
    exact first.room
  · exact .inr room

theorem NmeaReader.SvInvariant.fillStep_refl {r : NmeaReader pf} (inv : r.SvInvariant) :
    FillStep r r :=
  ⟨rfl, le_rfl, inv.count_le, .inl rfl⟩

variable {r : NmeaReader pf}

theorem nmeaReaderUpdateSvStatusGnss_fillStep (inv : r.SvInvariant) (used : SvUsedInFix) (prn : Int)
    (elevation azimuth snr : Token) :
    FillStep r (nmeaReaderUpdateSvStatusGnss used r prn elevation azimuth snr) := by
  have small := pf.gnssMaxSvs_lt
  obtain ⟨⟨lower, upper⟩, nonneg, bound⟩ := inv
  have index : wrap32 (r.svCount + r.svStatusGnss.numSvs) = r.svCount + r.svStatusGnss.numSvs :=
    wrap32_eq_self (by omega) (by omega)
  simp only [nmeaReaderUpdateSvStatusGnss, index]
  split_ifs with rejected full
  · exact ⟨rfl, le_rfl, bound, .inl rfl⟩
  · exact ⟨rfl, le_rfl, bound, .inl rfl⟩
  · have next : wrap32 (r.svCount + 1) = r.svCount + 1 := wrap32_eq_self (by omega) (by omega)
    exact ⟨rfl, by simp only [next]; omega, by simp only [next]; omega, .inr (by simp only [next]; omega)⟩

theorem FillStep.svInvariant {next : NmeaReader pf} (step : FillStep r next) (inv : r.SvInvariant) :
    next.SvInvariant :=
  ⟨by simpa only [NmeaReader.SvBounded, GnssSvStatus.Bounded, step.numSvs] using inv.bounded,
    inv.count_nonneg.trans step.grows, step.count_le⟩

theorem gsvFill_fillStep (inv : r.SvInvariant) (tzer : List Token) (bds : Bool) (used : SvUsedInFix)
    (svNum : Int) :
    FillStep r (gsvFill tzer bds used svNum r) := by
  rw [gsvFill]
  generalize List.range svNum.toNat = indices
  induction indices generalizing r with
  | nil => exact inv.fillStep_refl
  | cons idx rest ih =>
    have first := nmeaReaderUpdateSvStatusGnss_fillStep inv used (gsvSvId tzer bds idx)
      (nmeaTokenizerGet tzer (4 * (idx + 1) + 1)) (nmeaTokenizerGet tzer (4 * (idx + 1) + 2))
      (nmeaTokenizerGet tzer (4 * (idx + 1) + 3))
    exact first.trans (ih (first.svInvariant inv))

/-- A GSV sentence keeps the invariant unless it overruns; if it overruns, the bound is lost. -/
theorem parseGsv_svInvariant (inv : r.SvInvariant) (tzer : List Token) (bds : Bool)
    (used : SvUsedInFix) :
    (parseGsv tzer bds used r).SvInvariant ∧
      ¬ ((nmeaTokenizerGet tzer 2).int = (nmeaTokenizerGet tzer 1).int ∧
        (nmeaTokenizerGet tzer 2).int ≠ 1 ∧ r.svCount ≤ (nmeaTokenizerGet tzer 3).int ∧
        pf.gnssMaxSvs < r.svCount + r.svStatusGnss.numSvs) ∨
      ¬ (parseGsv tzer bds used r).SvBounded ∧
        (nmeaTokenizerGet tzer 2).int = (nmeaTokenizerGet tzer 1).int ∧
        (nmeaTokenizerGet tzer 2).int ≠ 1 ∧ r.svCount ≤ (nmeaTokenizerGet tzer 3).int ∧
        pf.gnssMaxSvs < r.svCount + r.svStatusGnss.numSvs := by
  have small := pf.gnssMaxSvs_lt
  simp only [parseGsv]
  generalize (nmeaTokenizerGet tzer 1).int = num
  generalize (nmeaTokenizerGet tzer 2).int = seq
  generalize (nmeaTokenizerGet tzer 3).int = cnt
  have started : (gsvStart seq r).SvInvariant ∧ (gsvStart seq r).svStatusGnss = r.svStatusGnss ∧
      (gsvStart seq r).svCount = if seq = 1 then 0 else r.svCount := by
    rw [gsvStart]
    split_ifs
    · exact ⟨⟨inv.bounded, le_rfl, Int.natCast_nonneg _⟩, rfl, rfl⟩
    · exact ⟨inv, rfl, rfl⟩
  obtain ⟨begun, status, count⟩ := started
  have fill := gsvFill_fillStep begun tzer bds used (gsvSvNum seq cnt)
  have filled := fill.svInvariant begun
  generalize gsvFill tzer bds used (gsvSvNum seq cnt) (gsvStart seq r) = full at *
  have room := fill.room
  have sum := fill.numSvs
  have grows := fill.grows
  rw [status] at room sum
  rw [count] at room grows
  obtain ⟨⟨lower, upper⟩, nonneg, bound⟩ := filled
  obtain ⟨⟨lower', upper'⟩, nonneg', bound'⟩ := inv
  have total :
      wrap32 (full.svStatusGnss.numSvs + full.svCount) = full.svStatusGnss.numSvs + full.svCount :=
    wrap32_eq_self (by omega) (by omega)
  rw [gsvClose]
  split_ifs with last complete
  · simp only [total]
    split_ifs at room grows with single
    · exact .inl ⟨⟨⟨by dsimp only; omega, by dsimp only; omega⟩, nonneg, bound⟩,
        fun given => given.2.1 single⟩
    · by_cases fitting : full.svCount + full.svStatusGnss.numSvs ≤ pf.gnssMaxSvs
      · refine .inl ⟨⟨⟨by dsimp only; omega, by dsimp only; omega⟩, nonneg, bound⟩, fun given => ?_⟩
        omega
      · refine .inr ⟨fun bounded => ?_, last, single, by omega, by omega⟩
        have := bounded.2
        dsimp only at this
        omega
  · refine .inl ⟨⟨⟨le_rfl, Int.natCast_nonneg _⟩, le_rfl, Int.natCast_nonneg _⟩, fun given => ?_⟩
    rw [if_neg given.2.1] at room grows
    omega
  · exact .inl ⟨⟨⟨lower, upper⟩, nonneg, bound⟩, fun given => last given.1⟩

theorem sentenceEffect_svInvariant (env : ParseEnv) {s : NmeaState pf} (holds : s.reader.HoldsLine)
    (inv : s.reader.SvInvariant) :
    (sentenceEffect env s).reader.SvInvariant ∧ ¬ GsvOverruns s.reader s.reader.line ∨
      ¬ (sentenceEffect env s).reader.SvBounded ∧ GsvOverruns s.reader s.reader.line := by
  by_cases gsv : sentenceKind s.reader.line = .gsv
  · have parsed := parseGsv_svInvariant inv s.reader.tokens (isBds s.reader.line) s.svUsedInFix
    rw [holds.int, holds.int, holds.int] at parsed
    simpa only [sentenceEffect, gsv, GsvOverruns, true_and] using parsed
  · obtain ⟨count, status⟩ := sentenceEffect_sv env holds gsv
    refine .inl ⟨⟨?_, ?_, ?_⟩, fun overruns => gsv overruns.1⟩
    · rw [NmeaReader.SvBounded, status]
      exact inv.bounded
    · rw [count]
      exact inv.count_nonneg
    · rw [count]
      exact inv.count_le

end Sentence

section Report

/-- The satellite report: it is made of the current `num_svs` and resets both counts. -/
theorem nmeaReaderReport_sv {env : ParseEnv}
    (registered : env.callbacksSize = pf.sizeofGpsCallbacksMtk) (s : NmeaState pf) :
    ((∀ status, .gnssSvStatus status ∉ (nmeaReaderReport env s).2) ∧
      (nmeaReaderReport env s).1.reader.svCount = s.reader.svCount ∧
      (nmeaReaderReport env s).1.reader.svStatusGnss = s.reader.svStatusGnss) ∨
    ((∀ status, .gnssSvStatus status ∈ (nmeaReaderReport env s).2 ↔ status = s.reader.svStatusGnss) ∧
      (nmeaReaderReport env s).1.reader.svCount = 0 ∧
        (nmeaReaderReport env s).1.reader.svStatusGnss.numSvs = 0) := by
  have fix : (∀ status, .gnssSvStatus status ∉ (nmeaReaderReportFix env s).2) ∧
      (nmeaReaderReportFix env s).1.reader.svCount = s.reader.svCount ∧
      (nmeaReaderReportFix env s).1.reader.svStatusGnss = s.reader.svStatusGnss := by
    obtain ⟨flags, changed, calls⟩ := nmeaReaderReportFix_frame env s
    rw [changed]
    exact ⟨fun status member => calls _ member, rfl, rfl⟩
  obtain ⟨none, count, status⟩ := fix
  simp only [nmeaReaderReport, nmeaReaderReportSv, registered, ↓reduceIte, List.mem_append,
    none, false_or]
  split_ifs
  · right
    simp [status]
  · left
    simp [count, status]

end Report

section Thread

/-- A satellite report describes slots of `sv_list`. -/
def ReportBounded (_ : List (ThreadEvent pf)) (e : ThreadEvent pf) : Prop :=
  ∀ status, e = .call (.gnssSvStatus status) → status.Bounded

/-- The byte to be added next is a newline that hands an overrunning sentence to the parser. -/
def ThreadState.OverrunsSvs (s : ThreadState pf) (a : ThreadAction) : Prop :=
  (∃ now mnlProp, a = .byte now mnlProp) ∧ ∃ c rest, s.mode = .feed (c :: rest) ∧ s.nmea.reader.Completes c ∧
    GsvOverruns s.nmea.reader (s.nmea.reader.line ++ [lf])

theorem reportBounded_calls {history : List (ThreadEvent pf)} {calls : List (Call pf)} :
    Always ReportBounded history (calls.map .call) ↔
      ∀ status, .gnssSvStatus status ∈ calls → status.Bounded := by
  constructor
  · intro bounded status member
    obtain ⟨before, after, rfl⟩ := List.append_of_mem member
    exact bounded (before.map .call) _ (after.map .call) (by simp) status rfl
  · intro bounded
    apply always_of_forall
    rintro e member _ status rfl
    obtain ⟨c, inside, equal⟩ := List.mem_map.mp member
    cases equal
    exact bounded status inside

/-- One byte keeps the invariant and reports inside the list, unless it overruns: then the bound is
lost in the next state or in the report. -/
theorem nmeaReaderAddc_sv {env : ParseEnv}
    (registered : env.callbacksSize = pf.sizeofGpsCallbacksMtk) {s : NmeaState pf}
    (inv : s.reader.SvInvariant) (c : Byte) :
    ((nmeaReaderAddc env s c).1.reader.SvInvariant ∧
      (∀ status, .gnssSvStatus status ∈ (nmeaReaderAddc env s c).2 → status.Bounded) ∧
      ¬ (s.reader.Completes c ∧ GsvOverruns s.reader (s.reader.line ++ [lf]))) ∨
    (¬ ((nmeaReaderAddc env s c).1.reader.SvBounded ∧
      ∀ status, .gnssSvStatus status ∈ (nmeaReaderAddc env s c).2 → status.Bounded) ∧
      s.reader.Completes c ∧ GsvOverruns s.reader (s.reader.line ++ [lf])) := by
  obtain ⟨inside, pos, overflow, inBuf, added⟩ | ⟨completes, holds, line, parsed, calls, ran, rfl, added⟩ :=
    nmeaReaderAddc_registered registered s c <;> rw [added]
  · exact .inl ⟨⟨inv.bounded, inv.count_nonneg, inv.count_le⟩, by simp, fun given => inside given.1⟩
  · have pushed : (s.reader.push lf).SvInvariant := ⟨inv.bounded, inv.count_nonneg, inv.count_le⟩
    split_ifs at ran with ignored
    · subst ran
      refine .inl ⟨⟨inv.bounded, inv.count_nonneg, inv.count_le⟩, by simp, fun given => ?_⟩
      have kind := given.2.1
      rw [ignored] at kind
      contradiction
    · have effect :=
        sentenceEffect_svInvariant env (s := { s with reader := s.reader.push lf }) holds pushed
      dsimp only at effect
      rw [line] at effect
      change _ ∧ ¬ GsvOverruns s.reader _ ∨ _ ∧ GsvOverruns s.reader _ at effect
      subst ran
      generalize sentenceEffect env { s with reader := s.reader.push lf } = middle at *
      have made (status : GnssSvStatus pf) :
          .gnssSvStatus status ∈ (.parse (s.reader.line ++ [lf]) ::
          (nmeaReaderReport env middle).2 ++ [.nmea (nmeaReaderReport env middle).1.reader.fix.timestamp
            (s.reader.line ++ [lf])]) ↔
              .gnssSvStatus status ∈ (nmeaReaderReport env middle).2 := by simp
      simp only [made]
      obtain ⟨silent, count, same⟩ | ⟨reported, count, zero⟩ :=
        nmeaReaderReport_sv registered middle
      · -- Without a report the next state carries the sentence's effect.
        rcases effect with ⟨kept, fits⟩ | ⟨lost, overruns⟩
        · refine .inl ⟨⟨?_, count.symm ▸ kept.count_nonneg, count.symm ▸ kept.count_le⟩, ?_, fun given => fits given.2⟩
          · exact show (nmeaReaderReport env middle).1.reader.svStatusGnss.Bounded from same.symm ▸ kept.bounded
          · exact fun status member => absurd member (silent status)
        · refine .inr ⟨fun given => lost ?_, completes, overruns⟩
          exact show middle.reader.svStatusGnss.Bounded from same ▸ given.1
      · -- The report shows the sentence's effect and resets the counts.
        simp only [reported, forall_eq]
        rcases effect with ⟨kept, fits⟩ | ⟨lost, overruns⟩
        · refine .inl ⟨⟨?_, count.ge, count.trans_le (Int.natCast_nonneg _)⟩, kept.bounded, fun given => fits given.2⟩
          exact ⟨zero.ge, zero.trans_le (Int.natCast_nonneg _)⟩
        · exact .inr ⟨fun given => lost given.2, completes, overruns⟩

theorem ThreadState.command_svInvariant {s : ThreadState pf} (inv : s.nmea.reader.SvInvariant)
    (cmd : Command) :
    (s.command cmd).1.nmea.reader.SvInvariant := by
  cases cmd with
  | start =>
    simp only [ThreadState.command]
    split
    · exact inv
    · exact ⟨⟨le_rfl, Int.natCast_nonneg _⟩, le_rfl, Int.natCast_nonneg _⟩
  | stop =>
    simp only [ThreadState.command]
    split <;> exact inv
  | restart => exact ⟨inv.bounded, inv.count_nonneg, inv.count_le⟩
  | quit => exact inv
  | download => exact inv
  | other => exact inv

/-- In a run of the thread, `num_svs` stays inside `sv_list` in every state and in every report if and
only if no sentence overruns the counts. -/
theorem gpsStateThread_svBounded_iff {s t : ThreadState pf} {tape : List ThreadAction} {trace : List (ThreadEvent pf)}
    (initial : s.Initial) (ran : (gpsStateThread pf).run s tape = some (t, trace)) :
    ((gpsStateThread pf).Throughout (fun s => s.nmea.reader.SvBounded) s tape ∧ Always ReportBounded [] trace) ↔
      (gpsStateThread pf).Permitted (fun s _ a => ¬ s.OverrunsSvs a) s [] tape := by
  have step : ∀ (s : ThreadState pf) history a next out, s.nmea.reader.SvInvariant →
      (gpsStateThread pf).step s a = some (next, out) →
      (next.nmea.reader.SvInvariant ∧ Always ReportBounded history out ∧ ¬ s.OverrunsSvs a) ∨
      (¬ (next.nmea.reader.SvBounded ∧ Always ReportBounded history out) ∧ s.OverrunsSvs a) := by
    intro s history a next out inv stepped
    obtain ⟨cmd, rfl, -, rfl, rfl⟩ | ⟨c, rest, now, mnlProp, rfl, feeding, rfl, rfl⟩ | ⟨-, notByte, reader, -, -, -, rfl⟩ :=
      gpsStateThread_cases stepped
    · exact .inl ⟨s.command_svInvariant inv cmd, always_cons.mpr ⟨fun _ => nofun, always_nil⟩,
        fun given => by simpa using given.1⟩
    · have byte := nmeaReaderAddc_sv (show (s.parseEnv now mnlProp).callbacksSize = _ from rfl)
        (s := { s.nmea with gpsNmeaEndTag := rest.isEmpty || s.nmea.gpsNmeaEndTag }) inv c
      have overruns : s.OverrunsSvs (.byte now mnlProp) ↔ s.nmea.reader.Completes c ∧
          GsvOverruns s.nmea.reader (s.nmea.reader.line ++ [lf]) := by
        simp [ThreadState.OverrunsSvs, feeding]
      rw [overruns, reportBounded_calls]
      exact byte
    · refine .inl ⟨reader ▸ inv, always_nil, fun given => ?_⟩
      obtain ⟨now, mnlProp, same⟩ := given.1
      exact notByte now mnlProp same
  have kept : ∀ (s : ThreadState pf) (history : List (ThreadEvent pf)) a next out,
      s.nmea.reader.SvInvariant →
      ¬ s.OverrunsSvs a → (gpsStateThread pf).step s a = some (next, out) →
        next.nmea.reader.SvInvariant :=
    fun s history a next out inv fits stepped =>
      (step s history a next out inv stepped).elim And.left (fun lost => absurd lost.2 fits)
  have exactly : ∀ (s : ThreadState pf) history a next out, s.nmea.reader.SvInvariant →
      (gpsStateThread pf).step s a = some (next, out) →
      (¬ s.OverrunsSvs a ↔ next.nmea.reader.SvBounded ∧ Always ReportBounded history out) := by
    intro s history a next out inv stepped
    rcases step s history a next out inv stepped with ⟨kept, reports, fits⟩ | ⟨lost, overruns⟩
    · exact iff_of_true fits ⟨kept.bounded, reports⟩
    · exact iff_of_false (not_not_intro overruns) lost
  have safe : ∀ (s : ThreadState pf) (history : List (ThreadEvent pf)), s.nmea.reader.SvInvariant →
      s.nmea.reader.SvBounded := fun s history inv => inv.bounded
  have start : s.nmea.reader.SvInvariant := initial.reader ▸ nmeaReaderInit_svInvariant
  exact (System.run_permitted_iff safe kept exactly start ran).symm

/-- The first sentence of a group of four satellites, then its second sentence `times` times. -/
def repeatedClosing (times : Nat) : List Byte :=
  lit ['$', 'G', 'P', 'G', 'S', 'V', ',', '2', ',', '1', ',', '4', ',', '1', ',', ',', ',', ',', '2', ',', ',', ',', ',',
    '3', ',', ',', ',', ',', '4', '\n'] ++
  (List.replicate times (lit ['$', 'G', 'P', 'G', 'S', 'V', ',', '2', ',', '2', ',', '4', '\n'])).flatten

/-- A read of the group whose second sentence comes `times` times. -/
def readRepeatedClosing (times : Nat) : List ThreadAction :=
  [.gpsFd, .read (repeatedClosing times)] ++ List.replicate (repeatedClosing times).length (.byte 0 [])

/-- A report of exactly as many satellites as the list has slots. -/
def ThreadEvent.isFull : ThreadEvent pf → Bool
  | .call (.gnssSvStatus status) => decide (status.numSvs = pf.gnssMaxSvs)
  | _ => false

/-- Sixteen closing sentences fill the list and report all of it. -/
theorem gpsStateThread_svBounded_iff_filled : ∃ t trace,
    (gpsStateThread _).run freshThread (readRepeatedClosing 16) = some (t, trace) ∧
    trace.any ThreadEvent.isFull = true ∧
    (((gpsStateThread _).Throughout (fun s => s.nmea.reader.SvBounded) freshThread (readRepeatedClosing 16) ∧
        Always ReportBounded [] trace) ↔
      (gpsStateThread _).Permitted (fun s _ a => ¬ s.OverrunsSvs a) freshThread [] (readRepeatedClosing 16)) := by
  have full : ((gpsStateThread _).run freshThread (readRepeatedClosing 16)).any
      (fun last => last.2.any ThreadEvent.isFull) = true := by decide +kernel
  obtain ⟨⟨t, trace⟩, ran, full⟩ := (Option.any_eq_true _ _).mp full
  exact ⟨t, trace, ran, full, gpsStateThread_svBounded_iff ⟨rfl, rfl⟩ ran⟩

/-- A report of more satellites than the list has slots. -/
def ThreadEvent.isOverlong : ThreadEvent pf → Bool
  | .call (.gnssSvStatus status) => decide ((pf.gnssMaxSvs : Int) < status.numSvs)
  | _ => false

/-- The repeated closing sentence makes the report claim more satellites than `sv_list` has. -/
theorem gpsStateThread_reports_past_list :
    ¬ ∀ (tape : List ThreadAction) t trace, (gpsStateThread _).run freshThread tape = some (t, trace) →
      Always ReportBounded [] trace := by
  intro bounded
  have reports : ((gpsStateThread _).run freshThread (readRepeatedClosing 17)).any
      (fun last => last.2.any ThreadEvent.isOverlong) = true := by decide +kernel
  obtain ⟨⟨t, trace⟩, ran, reports⟩ := (Option.any_eq_true _ _).mp reports
  obtain ⟨e, member, large⟩ := List.any_eq_true.mp reports
  obtain ⟨before, after, rfl⟩ := List.append_of_mem member
  have good := bounded _ t _ ran before e after rfl
  unfold ThreadEvent.isOverlong at large
  split at large
  · next status => exact absurd (good status rfl).2 (not_le.mpr (of_decide_eq_true large))
  · exact absurd large Bool.false_ne_true

end Thread

end Mt6582.Gps

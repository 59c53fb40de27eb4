import Mt6582.Gps.Thread

/-! # What a location report says, and when it is made

The reader's fix mode and fix flags are functions of the thread's history: the mode of the last GSA
sentence unless a restart came after it, and the fields supplied since the flags were last cleared.
`Tracks` states this, and every step of the thread keeps it. Hence each report is exact. Nothing in
the reader depends on `started`, so stopping does not end the reports: the last section determines
which steps report a fix while the thread is stopped.
-/

namespace Mt6582.Gps

open Machine

variable {F : Type} {pf : Platform F}

section History

/-- A GSA sentence whose mode field reads 2 or 3. -/
def isFixingGsa (line : List Byte) : Prop :=
  sentenceKind line = .gsa ∧ (strToInt (field line 2) = 2 ∨ strToInt (field line 2) = 3)

/-- The events that set the fix mode: a GSA sentence parsed, or `CMD_RESTART`. -/
def ThreadEvent.SetsMode : ThreadEvent pf → Prop
  | .call (.parse line) => sentenceKind line = .gsa
  | .command .restart _ => True
  | _ => False

/-- The last event that set the fix mode was a GSA sentence with mode 2 or 3. -/
def FixedAt (history : List (ThreadEvent pf)) : Prop :=
  Since (fun _ e => ∃ line, e = .call (.parse line) ∧ isFixingGsa line) ThreadEvent.SetsMode history

/-- The events that clear the flags: a report, or a `CMD_START` that changed `started`. -/
def ThreadEvent.ClearsFlags : ThreadEvent pf → Prop
  | .call (.location _) => True
  | .command .start changed => changed = true
  | _ => False

/-- A sentence parsed since the flags were last cleared supplied the data of a flag. -/
def SuppliedAt (flag : LocationFlag) (history : List (ThreadEvent pf)) : Prop :=
  Since (fun before e => ∃ line, e = .call (.parse line) ∧ Supplies line (FixedAt before) flag)
    ThreadEvent.ClearsFlags history

/-- Calls other than a parse or a location report. -/
def Call.IsPlain : Call pf → Prop
  | .parse _ => False
  | .location _ => False
  | _ => True

theorem fixedAt_plain {history : List (ThreadEvent pf)} {calls : List (Call pf)}
    (plain : ∀ c ∈ calls, c.IsPlain) :
    FixedAt (history ++ calls.map .call) ↔ FixedAt history := by
  apply since_append_neutral
  intro e member
  obtain ⟨c, inside, rfl⟩ := List.mem_map.mp member
  have := plain c inside
  cases c <;> simp_all [Call.IsPlain, ThreadEvent.SetsMode]

theorem suppliedAt_plain {history : List (ThreadEvent pf)} {calls : List (Call pf)}
    (flag : LocationFlag) (plain : ∀ c ∈ calls, c.IsPlain) :
    SuppliedAt flag (history ++ calls.map .call) ↔ SuppliedAt flag history := by
  apply since_append_neutral
  intro e member
  obtain ⟨c, inside, rfl⟩ := List.mem_map.mp member
  have := plain c inside
  cases c <;> simp_all [Call.IsPlain, ThreadEvent.ClearsFlags]

end History

section Tracks

/-- The reader's fix mode and flags are those of the history. -/
structure Tracks (r : NmeaReader pf) (history : List (ThreadEvent pf)) : Prop where
  fixed : r.locFixed = true ↔ FixedAt history
  flags : ∀ i, r.fix.flags.getLsbD i = true ↔ ∃ flag, LocationFlag.bit flag = i ∧ SuppliedAt flag history

variable {r : NmeaReader pf} {history : List (ThreadEvent pf)}

theorem Tracks.init : Tracks (nmeaReaderInit pf) [] where
  fixed := iff_of_false (by simp [NmeaReader.locFixed, nmeaReaderInit]) not_since_nil
  flags i :=
    iff_of_false (by simp [nmeaReaderInit]) (by rintro ⟨_, -, supplied⟩; exact not_since_nil supplied)

theorem Tracks.has_iff (tracks : Tracks r history) (flag : LocationFlag) :
    r.fix.has flag = true ↔ SuppliedAt flag history := by
  have injective : ∀ other, LocationFlag.bit other = flag.bit ↔ other = flag := by
    intro other
    cases other <;> cases flag <;> decide
  simp only [GpsLocation.has, tracks.flags, injective, exists_eq_left]

theorem Tracks.of_eq (tracks : Tracks r history) {next : NmeaReader pf}
    (mode : next.fixMode = r.fixMode) (fix : next.fix = r.fix) : Tracks next history := by
  refine ⟨?_, fun i => ?_⟩
  · rw [← tracks.fixed, NmeaReader.locFixed, NmeaReader.locFixed, mode]
  · rw [fix, tracks.flags]

theorem Tracks.plain (tracks : Tracks r history) {calls : List (Call pf)}
    (plain : ∀ c ∈ calls, c.IsPlain) :
    Tracks r (history ++ calls.map .call) := by
  refine ⟨?_, fun i => ?_⟩
  · rw [fixedAt_plain plain, tracks.fixed]
  · simp only [tracks.flags, suppliedAt_plain _ plain]

/-- Parsing a sentence and recording it are the same step. -/
theorem Tracks.parse (env : ParseEnv) {s : NmeaState pf} (holds : s.reader.HoldsLine)
    (tracks : Tracks s.reader history) :
    Tracks (sentenceEffect env s).reader (history ++ [.call (.parse s.reader.line)]) := by
  obtain ⟨mode, flags⟩ := sentenceEffect_fix env holds
  refine ⟨?_, fun i => ?_⟩
  · have parsed :
        (∃ line, (.call (.parse s.reader.line) : ThreadEvent pf) = .call (.parse line) ∧ isFixingGsa line) ↔
        isFixingGsa s.reader.line := by simp
    rw [FixedAt, since_concat, parsed, ← FixedAt, ← tracks.fixed]
    simp only [NmeaReader.locFixed, mode, fixModeAfter, isFixingGsa, ThreadEvent.SetsMode,
      Bool.or_eq_true, beq_iff_eq]
    split_ifs with gsa <;> simp [gsa]
  · have parsed (flag : LocationFlag) :
        SuppliedAt flag (history ++ [.call (.parse s.reader.line)]) ↔
        Supplies s.reader.line (FixedAt history) flag ∨ SuppliedAt flag history := by
      rw [SuppliedAt, since_concat]
      simp [ThreadEvent.ClearsFlags, SuppliedAt]
    rw [flags, tracks.flags]
    simp only [parsed, tracks.fixed, and_or_left, exists_or]
    exact or_comm

/-- Clearing the flags and recording the event that clears them are the same step. -/
theorem Tracks.clear (tracks : Tracks r history) {e : ThreadEvent pf} (clears : e.ClearsFlags)
    {next : NmeaReader pf} (mode : next.fixMode = r.fixMode) (flags : next.fix.flags = 0) :
    Tracks next (history ++ [e]) := by
  have neither : ¬ e.SetsMode ∧ ∀ line, e ≠ .call (.parse line) := by
    cases e with
    | call c => cases c <;> simp_all [ThreadEvent.ClearsFlags, ThreadEvent.SetsMode]
    | command cmd changed => cases cmd <;> simp_all [ThreadEvent.ClearsFlags, ThreadEvent.SetsMode]
  refine ⟨?_, fun i => ?_⟩
  · rw [FixedAt, since_concat, ← FixedAt, ← tracks.fixed, NmeaReader.locFixed,
      NmeaReader.locFixed, mode]
    simp [neither]
  · simp [SuppliedAt, since_concat, neither, clears, flags]

end Tracks

section Report

variable (env : ParseEnv) (s : NmeaState pf)

/-- The parser reports a fix in this state. -/
def NmeaState.ReportsFix (s : NmeaState pf) : Prop :=
  s.reader.locFixed = true ∧ s.reader.fix.flags ≠ 0 ∧ s.gpsNmeaEndTag = true

theorem nmeaReaderReportFix_cases :
    (¬ s.ReportsFix ∧ nmeaReaderReportFix env s = (s, [])) ∨
    (s.ReportsFix ∧ ∃ log context, (∀ c ∈ log, c.IsPlain) ∧ nmeaReaderReportFix env s =
      ({ s with reader := { s.reader with fix := { s.reader.fix with flags := 0 } } },
        log ++ [.location s.reader.fix, .updateLocation context])) := by
  simp only [nmeaReaderReportFix, NmeaState.ReportsFix]
  split_ifs with unfixed reports logs
  · exact .inl ⟨fun given => by simp [unfixed] at given, rfl⟩
  · exact .inr ⟨⟨by simpa using unfixed, reports⟩, _, _, by simp [Call.IsPlain], rfl⟩
  · exact .inr ⟨⟨by simpa using unfixed, reports⟩, [], _, by simp, rfl⟩
  · exact .inl ⟨fun given => reports given.2, rfl⟩

theorem nmeaReaderReportSv_plain :
    (nmeaReaderReportSv env s).1.reader.fix = s.reader.fix ∧
      (nmeaReaderReportSv env s).1.reader.fixMode = s.reader.fixMode ∧
      ∀ c ∈ (nmeaReaderReportSv env s).2, c.IsPlain := by
  obtain ⟨count, gnss, gps, used, changed, calls⟩ := nmeaReaderReportSv_frame env s
  rw [changed]
  refine ⟨rfl, rfl, ?_⟩
  intro c member
  cases c with
  | parse sentence => exact calls _ member
  | location fix => exact calls _ member
  | _ => trivial

/-- Both reports: the only location is the reader's fix, whose flags are then zero. -/
theorem nmeaReaderReport_cases :
    (¬ s.ReportsFix ∧ (nmeaReaderReport env s).1.reader.fix = s.reader.fix ∧
      (nmeaReaderReport env s).1.reader.fixMode = s.reader.fixMode ∧
      ∀ c ∈ (nmeaReaderReport env s).2, c.IsPlain) ∨
    (s.ReportsFix ∧ (nmeaReaderReport env s).1.reader.fix.flags = 0 ∧
      (nmeaReaderReport env s).1.reader.fixMode = s.reader.fixMode ∧
      ∃ log later, (∀ c ∈ log, c.IsPlain) ∧ (∀ c ∈ later, c.IsPlain) ∧
        (nmeaReaderReport env s).2 = log ++ .location s.reader.fix :: later) := by
  simp only [nmeaReaderReport]
  obtain ⟨silent, same⟩ | ⟨reports, log, context, plain, reported⟩ :=
    nmeaReaderReportFix_cases env s
  · rw [same]
    obtain ⟨fix, mode, calls⟩ := nmeaReaderReportSv_plain env s
    exact .inl ⟨silent, fix, mode, calls⟩
  · rw [reported]
    obtain ⟨fix, mode, calls⟩ := nmeaReaderReportSv_plain env
      { s with reader := { s.reader with fix := { s.reader.fix with flags := 0 } } }
    refine .inr ⟨reports, by rw [fix], mode, log, _, plain, ?_, List.append_assoc ..⟩
    intro c member
    rcases List.mem_append.mp member with first | second
    · obtain rfl := List.mem_singleton.mp first
      trivial
    · exact calls c second

end Report

section Byte

/-- A newline now would end a sentence after which the fix mode is 2 or 3 and some field has been
supplied, by this sentence or since the flags were cleared. -/
def NmeaReader.CompletesFix (r : NmeaReader pf) : Prop :=
  r.overflow = false ∧ r.pos < nmeaMaxSize ∧ sentenceKind (r.line ++ [lf]) ≠ .ignored ∧
    (fixModeAfter r (r.line ++ [lf]) = 2 ∨ fixModeAfter r (r.line ++ [lf]) = 3) ∧
    (r.fix.flags ≠ 0 ∨ ∃ flag, Supplies (r.line ++ [lf]) (r.locFixed = true) flag)

private theorem flags_ne_zero_iff (flags : BitVec 16) :
    flags ≠ 0 ↔ ∃ i, flags.getLsbD i = true := by
  constructor
  · intro nonzero
    by_contra none
    apply nonzero
    apply BitVec.eq_of_getLsbD_eq
    intro i _
    simpa using not_exists.mp none i
  · rintro ⟨i, set⟩ rfl
    simp at set

variable {env : ParseEnv} {s : NmeaState pf}

theorem sentenceEffect_reportsFix_iff (holds : s.reader.HoldsLine) :
    (sentenceEffect env s).ReportsFix ↔
      (fixModeAfter s.reader s.reader.line = 2 ∨ fixModeAfter s.reader s.reader.line = 3) ∧
      (s.reader.fix.flags ≠ 0 ∨ ∃ flag, Supplies s.reader.line (s.reader.locFixed = true) flag) ∧
      s.gpsNmeaEndTag = true := by
  obtain ⟨mode, flags⟩ := sentenceEffect_fix env holds
  have supplied :
      (∃ i, ∃ flag, LocationFlag.bit flag = i ∧ Supplies s.reader.line (s.reader.locFixed = true) flag) ↔
      ∃ flag, Supplies s.reader.line (s.reader.locFixed = true) flag := by
    rw [exists_comm]
    simp only [exists_eq_left']
  have fixed : (sentenceEffect env s).reader.locFixed = true ↔
      fixModeAfter s.reader s.reader.line = 2 ∨ fixModeAfter s.reader s.reader.line = 3 := by
    simp only [NmeaReader.locFixed, mode, Bool.or_eq_true, beq_iff_eq]
  simp only [NmeaState.ReportsFix, fixed, sentenceEffect_endTag, flags_ne_zero_iff, flags,
    exists_or, supplied]

/-- The sentence a newline ends reports a fix exactly when the newline completes one at the end of a read. -/
theorem sentenceEffect_push_reportsFix_iff (fills : s.reader.overflow = false)
    (room : s.reader.pos < nmeaMaxSize)
    (holds : (s.reader.push lf).HoldsLine) (line : (s.reader.push lf).line = s.reader.line ++ [lf])
    (known : sentenceKind (s.reader.line ++ [lf]) ≠ .ignored) :
    (sentenceEffect env { s with reader := s.reader.push lf }).ReportsFix ↔
      s.gpsNmeaEndTag = true ∧ s.reader.CompletesFix := by
  rw [sentenceEffect_reportsFix_iff holds]
  simp only [line, NmeaReader.CompletesFix, fills, room, known, ne_eq, not_false_eq_true, true_and]
  exact ⟨fun given => ⟨given.2.2, given.1, given.2.1⟩, fun given => ⟨given.2.1, given.2.2, given.1⟩⟩

variable {history : List (ThreadEvent pf)}

/-- A location report is right about the history before it. -/
def LocationExact (before : List (ThreadEvent pf)) (e : ThreadEvent pf) : Prop :=
  ∀ fix, e = .call (.location fix) →
    FixedAt before ∧ ∀ flag, fix.has flag = true ↔ SuppliedAt flag before

theorem locationExact_plain {calls : List (Call pf)} (plain : ∀ c ∈ calls, c.IsPlain) :
    Always LocationExact history (calls.map .call) := by
  apply always_of_forall
  rintro e member before fix rfl
  obtain ⟨c, inside, equal⟩ := List.mem_map.mp member
  cases equal
  exact (plain _ inside).elim

/-- What one byte does to the tracked history. -/
structure ByteStep (s next : NmeaState pf) (c : Byte) (history : List (ThreadEvent pf)) (calls : List (Call pf)) : Prop where
  tracks : Tracks next.reader (history ++ calls.map .call)
  exact_ : Always LocationExact history (calls.map .call)
  reports : (∃ fix, .location fix ∈ calls) ↔ c = lf ∧ s.gpsNmeaEndTag = true ∧ s.reader.CompletesFix
  cleared : (∃ fix, .location fix ∈ calls) → next.reader.fix.flags = 0

private theorem tracks_report {middle : NmeaState pf} {line : List Byte} {timestamp : Int}
    {calls : List (Call pf)} (tracks : Tracks middle.reader (history ++ [.call (.parse line)]))
    (made : calls = .parse line :: (nmeaReaderReport env middle).2 ++ [.nmea timestamp line]) :
    Tracks (nmeaReaderReport env middle).1.reader (history ++ calls.map .call) ∧
      Always LocationExact history (calls.map .call) ∧
      ((∃ fix, .location fix ∈ calls) ↔ middle.ReportsFix) ∧
      (middle.ReportsFix → (nmeaReaderReport env middle).1.reader.fix.flags = 0) := by
  have parse : LocationExact history (.call (.parse line) : ThreadEvent pf) := nofun
  have ended {first : List (Call pf)} (plain : ∀ c ∈ first, c.IsPlain) :
      ∀ c ∈ first ++ [.nmea timestamp line], c.IsPlain := by
    intro c member
    rcases List.mem_append.mp member with first | second
    · exact plain c first
    · obtain rfl := List.mem_singleton.mp second
      trivial
  obtain ⟨silent, fix, mode, plain⟩ | ⟨reports, flags, mode, log, later, plainLog, plainLater, inner⟩ :=
    nmeaReaderReport_cases env middle
  · subst made
    refine ⟨?_, ?_, ?_, fun reports => absurd reports silent⟩
    · rw [List.cons_append, List.map_cons, ← List.singleton_append, ← List.append_assoc]
      exact (tracks.of_eq mode fix).plain (ended plain)
    · rw [List.cons_append, List.map_cons, always_cons]
      exact ⟨parse, locationExact_plain (ended plain)⟩
    · refine iff_of_false ?_ silent
      rintro ⟨fix, member⟩
      rcases List.mem_cons.mp member with same | member
      · contradiction
      · exact ended plain _ member
  · have before := tracks.plain plainLog
    have shape :
        calls = .parse line :: log ++ .location middle.reader.fix :: (later ++ [.nmea timestamp line]) := by
      rw [made, inner]
      simp
    subst shape
    refine ⟨?_, ?_, ?_, fun _ => flags⟩
    · have cleared := before.clear (e := .call (.location middle.reader.fix)) trivial mode flags
      simpa using cleared.plain (ended plainLater)
    · rw [List.cons_append, List.map_cons, List.map_append, List.map_cons, always_cons,
        always_append, always_cons]
      refine ⟨parse, locationExact_plain plainLog, ?_, locationExact_plain (ended plainLater)⟩
      rintro fix ⟨rfl⟩
      exact ⟨before.fixed.mp reports.1, before.has_iff⟩
    · exact iff_of_true ⟨middle.reader.fix, by simp⟩ reports

theorem nmeaReaderAddc_byteStep (registered : env.callbacksSize = pf.sizeofGpsCallbacksMtk)
    (c : Byte) (tracks : Tracks s.reader history) :
    ByteStep s (nmeaReaderAddc env s c).1 c history (nmeaReaderAddc env s c).2 := by
  obtain ⟨inside, pos, overflow, inBuf, added⟩ | ⟨completes, holds, line, parsed, calls, ran, rfl, added⟩ :=
    nmeaReaderAddc_registered registered s c <;> rw [added]
  · refine ⟨?_, always_nil, ?_, ?_⟩
    · rw [List.map_nil, List.append_nil]
      exact tracks.of_eq rfl rfl
    · exact iff_of_false (by simp) (fun given => inside ⟨given.2.2.1, given.2.2.2.1, given.1⟩)
    · simp
  · have pushed : Tracks (s.reader.push lf) history := tracks.of_eq rfl rfl
    have sentence := pushed.parse env (s := { s with reader := s.reader.push lf }) holds
    dsimp only at sentence
    rw [line] at sentence
    split_ifs at ran with ignored
    · -- An ignored line has no effect of its own and makes no report.
      have unchanged :
          sentenceEffect env { s with reader := s.reader.push lf } =
          { s with reader := s.reader.push lf } := by
        simp only [sentenceEffect, line, ignored]
      rw [unchanged] at sentence
      subst ran
      have plain :
          ∀ c ∈ [(.nmea (s.reader.push lf).fix.timestamp (s.reader.line ++ [lf]) : Call pf)],
          c.IsPlain := by
        simp [Call.IsPlain]
      have next := sentence.plain plain
      refine ⟨?_, ?_, iff_of_false ?_ (fun given => given.2.2.2.2.1 ignored), ?_⟩
      · rw [List.append_assoc] at next
        exact next.of_eq rfl rfl
      · exact always_cons.mpr ⟨fun fix located => (by cases located), locationExact_plain plain⟩
      · simp
      · simp
    · subst ran
      obtain ⟨next, exact_, reports, flags⟩ := tracks_report sentence rfl
      have completesIff : (sentenceEffect env { s with reader := s.reader.push lf }).ReportsFix ↔
          c = lf ∧ s.gpsNmeaEndTag = true ∧ s.reader.CompletesFix := by
        obtain ⟨fills, room, rfl⟩ := completes
        rw [sentenceEffect_push_reportsFix_iff fills room holds line ignored]
        exact (and_iff_right rfl).symm
      exact ⟨next.of_eq rfl rfl, exact_, reports.trans completesIff,
        fun found => flags (reports.mp found)⟩

end Byte

section Run

variable {s next : ThreadState pf} {history out : List (ThreadEvent pf)} {a : ThreadAction}

theorem Tracks.neutral {r next : NmeaReader pf} (tracks : Tracks r history) {e : ThreadEvent pf}
    (quiet : ¬ e.SetsMode ∧ ¬ e.ClearsFlags ∧ ∀ line, e ≠ .call (.parse line))
    (mode : next.fixMode = r.fixMode) (fix : next.fix = r.fix) : Tracks next (history ++ [e]) := by
  refine ⟨?_, fun i => ?_⟩
  · rw [FixedAt, since_concat, ← FixedAt, ← tracks.fixed, NmeaReader.locFixed,
      NmeaReader.locFixed, mode]
    simp [quiet]
  · rw [fix, tracks.flags]
    simp [SuppliedAt, since_concat, quiet]

/-- A command records exactly what it does to fix mode and flags. -/
theorem ThreadState.command_tracks (tracks : Tracks s.nmea.reader history) (cmd : Command) :
    Tracks (s.command cmd).1.nmea.reader (history ++ [.command cmd (s.command cmd).2]) := by
  cases cmd with
  | quit => exact tracks.neutral ⟨id, id, fun _ => nofun⟩ rfl rfl
  | download => exact tracks.neutral ⟨id, id, fun _ => nofun⟩ rfl rfl
  | other => exact tracks.neutral ⟨id, id, fun _ => nofun⟩ rfl rfl
  | start =>
    cases running : s.started with
    | true =>
      simp only [ThreadState.command, running, ↓reduceIte]
      exact tracks.neutral ⟨id, Bool.false_ne_true, fun _ => nofun⟩ rfl rfl
    | false =>
      simp only [ThreadState.command, running, Bool.false_eq_true, ↓reduceIte]
      exact tracks.clear (show ThreadEvent.ClearsFlags (.command .start true) from rfl) rfl rfl
  | stop =>
    cases running : s.started with
    | true =>
      simp only [ThreadState.command, running, ↓reduceIte]
      exact tracks.neutral ⟨id, id, fun _ => nofun⟩ rfl rfl
    | false =>
      simp only [ThreadState.command, running, Bool.false_eq_true, ↓reduceIte]
      exact tracks.neutral ⟨id, id, fun _ => nofun⟩ rfl rfl
  | restart =>
    refine ⟨?_, fun i => ?_⟩
    · rw [FixedAt, since_concat]
      simp [ThreadState.command, NmeaReader.locFixed, ThreadEvent.SetsMode]
    · simp [ThreadState.command, tracks.flags, SuppliedAt, since_concat, ThreadEvent.ClearsFlags]

/-- What one step of the thread does to the tracked history. -/
theorem gpsStateThread_tracks (tracks : Tracks s.nmea.reader history)
    (stepped : (gpsStateThread pf).step s a = some (next, out)) :
    Tracks next.nmea.reader (history ++ out) ∧ Always LocationExact history out ∧
      ((∃ fix, .call (.location fix) ∈ out) → next.nmea.reader.fix.flags = 0) := by
  obtain ⟨cmd, rfl, -, rfl, rfl⟩ | ⟨c, rest, now, mnlProp, rfl, feeding, rfl, rfl⟩ | ⟨-, -, reader, -, -, -, rfl⟩ :=
    gpsStateThread_cases stepped
  · exact ⟨s.command_tracks tracks cmd, always_cons.mpr ⟨fun _ => nofun, always_nil⟩, by simp⟩
  · have byte :=
      nmeaReaderAddc_byteStep (show (s.parseEnv now mnlProp).callbacksSize = _ from rfl) c
      (s := { s.nmea with gpsNmeaEndTag := rest.isEmpty || s.nmea.gpsNmeaEndTag }) tracks
    refine ⟨byte.tracks, byte.exact_, ?_⟩
    rintro ⟨fix, member⟩
    obtain ⟨c, inside, equal⟩ := List.mem_map.mp member
    cases equal
    exact byte.cleared ⟨fix, inside⟩
  · refine ⟨?_, always_nil, by simp⟩
    rw [List.append_nil]
    exact tracks.of_eq (by rw [reader]) (by rw [reader])

/-- Each location report of a run comes when the last event among GSA sentences and restarts was a GSA
sentence with mode 2 or 3, carries exactly the flags supplied since the last clear, and clears them. -/
theorem gpsStateThread_location_exact {first : ThreadState pf} {tape : List ThreadAction} (initial : first.Initial)
    (ran : (gpsStateThread pf).run first tape = some (s, history))
    (stepped : (gpsStateThread pf).step s a = some (next, out))
    {before after : List (ThreadEvent pf)} {fix : GpsLocation F}
    (reported : out = before ++ .call (.location fix) :: after) :
    FixedAt (history ++ before) ∧ (∀ flag, fix.has flag = true ↔ SuppliedAt flag (history ++ before)) ∧
      next.nmea.reader.fix.flags = 0 := by
  have kept : ∀ (s : ThreadState pf) history a next out, Tracks s.nmea.reader history →
      (gpsStateThread pf).step s a = some (next, out) → Tracks next.nmea.reader (history ++ out) :=
    fun s history a next out tracks stepped => (gpsStateThread_tracks tracks stepped).1
  have tracks := System.run_invariant_of_step kept (initial.reader ▸ Tracks.init) ran
  obtain ⟨-, exact_, cleared⟩ := gpsStateThread_tracks tracks stepped
  obtain ⟨fixed, flags⟩ := exact_ before _ after reported fix rfl
  exact ⟨fixed, flags, cleared ⟨fix, by simp [reported]⟩⟩

/-- A GSA sentence with mode 3 and a GGA sentence with an altitude. -/
def gsaThenGga : List Byte :=
  lit ['$', 'G', 'P', 'G', 'S', 'A', ',', 'A', ',', '3', '\n', '$', 'G', 'P', 'G', 'G', 'A', ',', ',', ',', ',',
    ',', ',', ',', ',', ',', '5', '\n']

def ThreadEvent.isLocation : ThreadEvent pf → Bool
  | .call (.location _) => true
  | _ => false

theorem ThreadEvent.exists_split_of_isLocation {events : List (ThreadEvent pf)}
    (found : events.any ThreadEvent.isLocation = true) :
    ∃ before fix after, events = before ++ .call (.location fix) :: after := by
  obtain ⟨e, member, location⟩ := List.any_eq_true.mp found
  obtain ⟨before, after, rfl⟩ := List.append_of_mem member
  cases e with
  | command cmd changed => contradiction
  | call c => cases c <;> first | contradiction | exact ⟨before, _, after, rfl⟩

theorem gpsStateThread_location_exact_at_gga : ∃ s history next out before fix after,
    (gpsStateThread _).run freshThread
      ([.gpsFd, .read gsaThenGga] ++ List.replicate 27 (.byte 0 [])) = some (s, history) ∧
    (gpsStateThread _).step s (.byte 0 []) = some (next, out) ∧
    out = before ++ .call (.location fix) :: after ∧ FixedAt (history ++ before) ∧
    (∀ flag, fix.has flag = true ↔ SuppliedAt flag (history ++ before)) ∧ next.nmea.reader.fix.flags = 0 := by
  have reports : (((gpsStateThread _).run freshThread
      ([.gpsFd, .read gsaThenGga] ++ List.replicate 27 (.byte 0 []))).any fun last =>
        ((gpsStateThread _).step last.1 (.byte 0 [])).any fun next =>
          next.2.any ThreadEvent.isLocation) = true := by
    decide +kernel
  obtain ⟨⟨s, history⟩, ran, reports⟩ := (Option.any_eq_true _ _).mp reports
  obtain ⟨⟨next, out⟩, stepped, reports⟩ := (Option.any_eq_true _ _).mp reports
  obtain ⟨before, fix, after, reported⟩ := ThreadEvent.exists_split_of_isLocation reports
  exact ⟨s, history, next, out, before, fix, after, ran, stepped, reported,
    gpsStateThread_location_exact ⟨rfl, rfl⟩ ran stepped reported⟩

end Run

section Stopped

variable {s next : ThreadState pf} {history out : List (ThreadEvent pf)} {a : ThreadAction}

/-- A `CMD_STOP` cleared `started`, and no `CMD_START` has come since. -/
def StoppedAt (history : List (ThreadEvent pf)) : Prop :=
  Since (fun _ e => e = .command .stop true) (fun e => ∃ changed, e = .command .start changed) history

/-- No location is reported while the thread is stopped. -/
def SilentWhileStopped (before : List (ThreadEvent pf)) (e : ThreadEvent pf) : Prop :=
  StoppedAt before → ∀ fix, e ≠ .call (.location fix)

/-- The step adds the last byte of a read, and this byte completes a fix. -/
def ThreadState.CompletesFix (s : ThreadState pf) (a : ThreadAction) : Prop :=
  (∃ now mnlProp, a = .byte now mnlProp) ∧ s.mode = .feed [lf] ∧ s.nmea.reader.CompletesFix

/-- The end tag is down while bytes of a read remain. -/
def ThreadState.TagDown (s : ThreadState pf) : Prop := ∀ bytes, s.mode = .feed bytes → s.nmea.gpsNmeaEndTag = false

theorem nmeaReaderReport_endTag (env : ParseEnv) (s : NmeaState pf) :
    (nmeaReaderReport env s).1.gpsNmeaEndTag = s.gpsNmeaEndTag := by
  obtain ⟨_, _, _, _, _, changed, -⟩ := nmeaReaderReport_frame env s
  rw [changed]

theorem nmeaReaderAddc_endTag {env : ParseEnv}
    (registered : env.callbacksSize = pf.sizeofGpsCallbacksMtk)
    (s : NmeaState pf) (c : Byte) : (nmeaReaderAddc env s c).1.gpsNmeaEndTag = s.gpsNmeaEndTag := by
  obtain ⟨-, pos, overflow, inBuf, added⟩ | ⟨-, -, -, parsed, calls, rfl, rfl, added⟩ :=
    nmeaReaderAddc_registered registered s c <;> rw [added]
  dsimp only
  split_ifs
  · rfl
  · rw [nmeaReaderReport_endTag, sentenceEffect_endTag]

theorem gpsStateThread_tagDown (down : s.TagDown)
    (stepped : (gpsStateThread pf).step s a = some (next, out)) :
    next.TagDown := by
  obtain ⟨cmd, -, polling, rfl, -⟩ | ⟨c, rest, now, mnlProp, -, feeding, rfl, -⟩ | ⟨-, -, -, -, -, feeds, -⟩ :=
    gpsStateThread_cases stepped
  · have waits : (s.command cmd).1.mode = .exited ∨ (s.command cmd).1.mode = s.mode := by
      cases cmd <;> cases running : s.started <;> simp [ThreadState.command, running]
    intro bytes fed
    rcases waits with gone | same
    · cases gone.symm.trans fed
    · cases (same.trans polling).symm.trans fed
  · intro bytes fed
    have lowered := down _ feeding
    cases rest with
    | nil => contradiction
    | cons d rest => exact (nmeaReaderAddc_endTag rfl _ c).trans (by simp [lowered])
  · intro bytes fed
    rcases feeds bytes fed with lowered | ⟨still, same⟩
    · exact lowered
    · rw [same]
      exact down bytes still

/-- A step reports a location exactly when it completes a fix. -/
theorem gpsStateThread_location_iff (tracks : Tracks s.nmea.reader history) (down : s.TagDown)
    (stepped : (gpsStateThread pf).step s a = some (next, out)) :
    (∃ fix, .call (.location fix) ∈ out) ↔ s.CompletesFix a := by
  obtain ⟨cmd, rfl, -, rfl, rfl⟩ | ⟨c, rest, now, mnlProp, rfl, feeding, rfl, rfl⟩ | ⟨-, notByte, -, -, -, -, rfl⟩ :=
    gpsStateThread_cases stepped
  · exact iff_of_false (by simp) (fun given => by simpa using given.1)
  · have byte :=
      nmeaReaderAddc_byteStep (show (s.parseEnv now mnlProp).callbacksSize = _ from rfl) c
      (s := { s.nmea with gpsNmeaEndTag := rest.isEmpty || s.nmea.gpsNmeaEndTag }) tracks
    have calls :
        (∃ fix, (.call (.location fix) : ThreadEvent pf) ∈ (s.addByte c rest now mnlProp).2.map .call) ↔
        ∃ fix, .location fix ∈ (s.addByte c rest now mnlProp).2 := by simp
    rw [calls]
    apply byte.reports.trans
    simp only [down _ feeding, Bool.or_false, List.isEmpty_iff, ThreadState.CompletesFix, feeding,
      ThreadMode.feed.injEq, List.cons.injEq, and_assoc]
    exact ⟨fun given => ⟨⟨now, mnlProp, rfl⟩, given⟩, And.right⟩
  · refine iff_of_false (by simp) (fun given => ?_)
    obtain ⟨now, mnlProp, same⟩ := given.1
    exact notByte now mnlProp same

theorem stoppedAt_calls {calls : List (Call pf)} :
    StoppedAt (history ++ calls.map .call) ↔ StoppedAt history := by
  apply since_append_neutral
  intro e member
  obtain ⟨c, -, rfl⟩ := List.mem_map.mp member
  simp

/-- The calls of one step come all before or all after a stop. -/
theorem silentWhileStopped_calls {calls : List (Call pf)} :
    Always SilentWhileStopped history (calls.map .call) ↔
      (StoppedAt history → ¬ ∃ fix, (.call (.location fix) : ThreadEvent pf) ∈ calls.map .call) := by
  constructor
  · rintro silent stopped ⟨fix, member⟩
    obtain ⟨before, after, split⟩ := List.append_of_mem member
    obtain ⟨earlier, later, rfl, rfl, -⟩ := List.map_eq_append_iff.mp split
    exact silent _ _ _ split (stoppedAt_calls.mpr stopped) fix rfl
  · rintro none before e after split stopped fix rfl
    obtain ⟨earlier, later, rfl, rfl, -⟩ := List.map_eq_append_iff.mp split
    exact none (stoppedAt_calls.mp stopped) ⟨fix, by simp [split]⟩

/-- A run reports no location between a `CMD_STOP` that cleared `started` and the next `CMD_START` if
and only if no read of it ends, while stopped, on a byte that completes a fix. -/
theorem gpsStateThread_silent_iff {tape : List ThreadAction} {t : ThreadState pf} {trace : List (ThreadEvent pf)}
    (initial : s.Initial) (ran : (gpsStateThread pf).run s tape = some (t, trace)) :
    Always SilentWhileStopped [] trace ↔
      (gpsStateThread pf).Permitted (fun s history a => StoppedAt history → ¬ s.CompletesFix a) s [] tape := by
  have kept : ∀ (s : ThreadState pf) history a next out, Tracks s.nmea.reader history ∧ s.TagDown →
      (StoppedAt history → ¬ s.CompletesFix a) → (gpsStateThread pf).step s a = some (next, out) →
      Tracks next.nmea.reader (history ++ out) ∧ next.TagDown :=
    fun s history a next out inv _ stepped =>
      ⟨(gpsStateThread_tracks inv.1 stepped).1, gpsStateThread_tagDown inv.2 stepped⟩
  have exactly :
      ∀ (s : ThreadState pf) history a next out, Tracks s.nmea.reader history ∧ s.TagDown →
      (gpsStateThread pf).step s a = some (next, out) →
      ((StoppedAt history → ¬ s.CompletesFix a) ↔ True ∧ Always SilentWhileStopped history out) := by
    intro s history a next out inv stepped
    rw [← gpsStateThread_location_iff inv.1 inv.2 stepped, true_and]
    obtain ⟨cmd, rfl, -, rfl, rfl⟩ | ⟨c, rest, now, mnlProp, rfl, -, rfl, rfl⟩ | ⟨-, -, -, -, -, -, rfl⟩ :=
      gpsStateThread_cases stepped
    · exact iff_of_true (by simp) (always_cons.mpr ⟨fun _ _ => nofun, always_nil⟩)
    · exact silentWhileStopped_calls.symm
    · exact iff_of_true (by simp) always_nil
  have start : Tracks s.nmea.reader [] ∧ s.TagDown :=
    ⟨initial.reader ▸ Tracks.init, fun bytes feeding => by rw [initial.mode] at feeding; contradiction⟩
  rw [System.run_permitted_iff (fun _ _ _ => trivial) kept exactly start ran]
  exact ⟨fun silent => ⟨fun _ _ _ _ _ _ => trivial, silent⟩, And.right⟩

def ThreadEvent.isCall : ThreadEvent pf → Bool
  | .call _ => true
  | _ => false

/-- The trace is a `CMD_STOP` that takes effect, then calls only, one of them a location report. -/
def locatesAfterStop : List (ThreadEvent pf) → Bool
  | .command .stop true :: rest => rest.any ThreadEvent.isLocation && rest.all ThreadEvent.isCall
  | _ => false

/-- A read of a GSA and a GGA sentence after a `CMD_STOP`. -/
def stopThenRead : List ThreadAction :=
  [.control .stop, .gpsFd, .read gsaThenGga] ++ List.replicate gsaThenGga.length (.byte 0 [])

theorem gpsStateThread_silent_iff_at_read : ∃ t trace,
    (gpsStateThread _).run freshThread stopThenRead = some (t, trace) ∧ locatesAfterStop trace = true ∧
    (Always SilentWhileStopped [] trace ↔ (gpsStateThread _).Permitted
      (fun s history a => StoppedAt history → ¬ s.CompletesFix a) freshThread [] stopThenRead) := by
  have reports : ((gpsStateThread _).run freshThread stopThenRead).any
      (fun last => locatesAfterStop last.2) = true := by decide +kernel
  obtain ⟨⟨t, trace⟩, ran, located⟩ := (Option.any_eq_true _ _).mp reports
  exact ⟨t, trace, ran, located, gpsStateThread_silent_iff ⟨rfl, rfl⟩ ran⟩

private theorem not_silent_of_locatesAfterStop {trace : List (ThreadEvent pf)}
    (found : locatesAfterStop trace = true) :
    ¬ Always SilentWhileStopped [] trace := by
  intro silent
  unfold locatesAfterStop at found
  split at found
  · next rest =>
    obtain ⟨located, calls⟩ := Bool.and_eq_true_iff.mp found
    obtain ⟨before, fix, after, rfl⟩ := ThreadEvent.exists_split_of_isLocation located
    refine silent (.command .stop true :: before) (.call (.location fix)) after rfl ⟨[], _, before, rfl, rfl, ?_⟩ fix rfl
    rintro e member ⟨changed, rfl⟩
    exact absurd (List.all_eq_true.mp calls _ (List.mem_append_left _ member)) Bool.false_ne_true
  · exact absurd found Bool.false_ne_true

/-- After `CMD_STOP` the reader still turns a GSA and a GGA sentence into a location report. -/
theorem gpsStateThread_reports_after_stop :
    ¬ ∀ (tape : List ThreadAction) t trace, (gpsStateThread _).run freshThread tape = some (t, trace) →
      Always SilentWhileStopped [] trace := by
  intro silent
  have reports : ((gpsStateThread _).run freshThread stopThenRead).any
      (fun last => locatesAfterStop last.2) = true := by decide +kernel
  obtain ⟨⟨t, trace⟩, ran, reports⟩ := (Option.any_eq_true _ _).mp reports
  exact not_silent_of_locatesAfterStop reports (silent _ t _ ran)

end Stopped

end Mt6582.Gps

import Mt6582.Gps.Nmea.FixReport

/-! # The position that is persisted with a report

Every report of a fix writes the reader's coordinates to the file from which the daemon is later given a position.
The write asks for some flag of the fix, not for the one of the coordinates: altitude, speed, bearing or accuracy
alone make it write coordinates of an earlier report, or the initial zeros.
-/

namespace Mt6582.Gps

open Machine

variable {F : Type} {pf : Platform F}

/-! ## Coordinates of a sentence -/

def NmeaReader.position (r : NmeaReader pf) : F × F := (r.fix.latitude, r.fix.longitude)

/-- A coordinate and its hemisphere, negative when this is the one given. -/
def signedHhmm (pf : Platform F) (text hemisphere : List Byte) (negative : Byte) : F :=
  let value := convertFromHhmm pf (strToFloat pf text)
  if hemisphere.head? = some negative then pf.neg value else value

/-- The coordinates in four fields from `index` on. -/
def latLongAt (pf : Platform F) (line : List Byte) (index : Nat) : F × F :=
  (signedHhmm pf (field line index) (field line (index + 1)) 'S'.toUInt8,
    signedHhmm pf (field line (index + 2)) (field line (index + 3)) 'W'.toUInt8)

/-- The coordinates of a GGA or RMC sentence. -/
def latLongOf (pf : Platform F) (line : List Byte) : F × F :=
  latLongAt pf line (if sentenceKind line = .gga then 2 else 3)

/-- The sentence supplies coordinates. -/
def SuppliesPosition (line : List Byte) : Prop := Supplies line True .latLong

section Position

variable (r : NmeaReader pf) (now : Int)

theorem nmeaReaderUpdateTime_position (tok : Token) :
    (nmeaReaderUpdateTime r now tok).1.position = r.position := by
  rw [nmeaReaderUpdateTime]
  split
  · rfl
  · dsimp only
    split <;> rfl

theorem nmeaReaderUpdateDate_position (date time : Token) :
    (nmeaReaderUpdateDate r now date time).1.position = r.position := by
  rw [nmeaReaderUpdateDate]
  split
  · rfl
  · dsimp only
    split
    · rfl
    · rw [nmeaReaderUpdateTime_position]
      rfl

theorem nmeaReaderUpdateNumber_position (flag : LocationFlag) (tok : Token)
    {store : GpsLocation F → F → GpsLocation F}
    (keeps : ∀ fix value, (store fix value).latitude = fix.latitude ∧ (store fix value).longitude = fix.longitude) :
    (nmeaReaderUpdateNumber r flag tok store).1.position = r.position := by
  rw [nmeaReaderUpdateNumber]
  split
  · rfl
  · obtain ⟨latitude, longitude⟩ := keeps (r.setFlag flag).fix (tok.float pf)
    exact Prod.ext latitude longitude

variable {r}

/-- Coordinates of at least six characters each are stored, others leave the position alone. -/
theorem nmeaReaderUpdateLatlong_position (holds : r.HoldsLine) (next : NmeaReader pf)
    (index : Nat) :
    (nmeaReaderUpdateLatlong next (nmeaTokenizerGet r.tokens index) (nmeaTokenizerGet r.tokens (index + 1))
      (nmeaTokenizerGet r.tokens (index + 2)) (nmeaTokenizerGet r.tokens (index + 3))).1.position =
        if 6 ≤ (field r.line index).length ∧ 6 ≤ (field r.line (index + 2)).length then latLongAt pf r.line index
        else next.position := by
  have south := holds.first_iff (index + 1) (show 'S'.toUInt8 ∉ [0, comma, star, cr, lf] by decide)
  have west := holds.first_iff (index + 3) (show 'W'.toUInt8 ∉ [0, comma, star, cr, lf] by decide)
  simp only [nmeaReaderUpdateLatlong, holds.short_iff, holds.float, south, west]
  rcases Nat.lt_or_ge (field r.line index).length 6 with short | long
  · rw [if_pos short, if_neg (fun both => absurd both.1 (by omega))]
  · rw [if_neg (Nat.not_lt.mpr long)]
    rcases Nat.lt_or_ge (field r.line (index + 2)).length 6 with short | longToo
    · rw [if_pos short, if_neg (fun both => absurd both.2 (by omega))]
    · have both : 6 ≤ (field r.line index).length ∧ 6 ≤ (field r.line (index + 2)).length :=
        ⟨long, longToo⟩
      rw [if_neg (Nat.not_lt.mpr longToo), if_pos both]
      rfl

end Position

section Sentence

variable {s : NmeaState pf}

theorem not_suppliesPosition {line : List Byte}
    (kind : sentenceKind line ≠ .gga ∧ sentenceKind line ≠ .rmc) :
    ¬ SuppliesPosition line := by
  simp [SuppliesPosition, Supplies, isActiveRmc, kind]

theorem sentenceEffect_gga_position (env : ParseEnv) (holds : s.reader.HoldsLine)
    (kind : sentenceKind s.reader.line = .gga) :
    (sentenceEffect env s).reader.position =
      if 6 ≤ (field s.reader.line 2).length ∧ 6 ≤ (field s.reader.line 4).length then latLongAt pf s.reader.line 2
      else s.reader.position := by
  simp only [sentenceEffect, kind, parseGga, nmeaReaderUpdateAltitude]
  rw [nmeaReaderUpdateNumber_position, nmeaReaderUpdateLatlong_position holds,
    nmeaReaderUpdateTime_position]
  intro fix value
  exact ⟨rfl, rfl⟩

theorem sentenceEffect_rmc_position (env : ParseEnv) (holds : s.reader.HoldsLine)
    (kind : sentenceKind s.reader.line = .rmc) :
    (sentenceEffect env s).reader.position =
      if (field s.reader.line 2).head? = some 'A'.toUInt8 then
        if 6 ≤ (field s.reader.line 3).length ∧ 6 ≤ (field s.reader.line 5).length then latLongAt pf s.reader.line 3
        else s.reader.position
      else s.reader.position := by
  have status := holds.first_iff 2 (show 'A'.toUInt8 ∉ [0, comma, star, cr, lf] by decide)
  simp only [sentenceEffect, kind, parseRmc, status]
  split
  · rw [nmeaReaderUpdateSpeed, nmeaReaderUpdateNumber_position, nmeaReaderUpdateBearing,
      nmeaReaderUpdateNumber_position, nmeaReaderUpdateLatlong_position holds,
      nmeaReaderUpdateDate_position]
    · intro fix value
      exact ⟨rfl, rfl⟩
    · intro fix value
      exact ⟨rfl, rfl⟩
  · rfl

/-- Only GGA and RMC sentences touch the position. -/
theorem sentenceEffect_other_position (env : ParseEnv)
    (kind : sentenceKind s.reader.line ≠ .gga ∧ sentenceKind s.reader.line ≠ .rmc) :
    (sentenceEffect env s).reader.position = s.reader.position := by
  cases found : sentenceKind s.reader.line with
  | gga => exact absurd found kind.1
  | rmc => exact absurd found kind.2
  | accuracy =>
    simp only [sentenceEffect, found, parseAccuracy, nmeaReaderUpdateAccuracy]
    split
    · exact nmeaReaderUpdateNumber_position _ _ _ (fun _ _ => ⟨rfl, rfl⟩)
    · rfl
  | gsa =>
    obtain ⟨used, changed⟩ := parseGsa_frame s.reader.tokens (isBds s.reader.line) s
    simp only [sentenceEffect, found, changed]
    rfl
  | gsv =>
    obtain ⟨count, status, changed⟩ :=
      parseGsv_frame s.reader.tokens (isBds s.reader.line) s.svUsedInFix s.reader
    simp only [sentenceEffect, found, changed]
    rfl
  | ignored => simp only [sentenceEffect, found]
  | other => simp only [sentenceEffect, found]

/-- A sentence that supplies coordinates stores its own, every other one leaves the position alone. -/
theorem sentenceEffect_position (env : ParseEnv) (holds : s.reader.HoldsLine) :
    (SuppliesPosition s.reader.line → (sentenceEffect env s).reader.position = latLongOf pf s.reader.line) ∧
      (¬ SuppliesPosition s.reader.line → (sentenceEffect env s).reader.position = s.reader.position) := by
  rcases Decidable.em (sentenceKind s.reader.line = .gga) with gga | notGga
  · have supplied : SuppliesPosition s.reader.line ↔
        6 ≤ (field s.reader.line 2).length ∧ 6 ≤ (field s.reader.line 4).length := by
      simp [SuppliesPosition, Supplies, gga, isActiveRmc]
    rw [sentenceEffect_gga_position env holds gga, supplied, latLongOf, gga]
    exact ⟨fun given => if_pos given, fun absent => if_neg absent⟩
  rcases Decidable.em (sentenceKind s.reader.line = .rmc) with rmc | notRmc
  · have supplied : SuppliesPosition s.reader.line ↔
        (field s.reader.line 2).head? = some 'A'.toUInt8 ∧
        6 ≤ (field s.reader.line 3).length ∧ 6 ≤ (field s.reader.line 5).length := by
      simp [SuppliesPosition, Supplies, rmc, isActiveRmc]
    rw [sentenceEffect_rmc_position env holds rmc, supplied, latLongOf, rmc]
    refine ⟨fun given => ?_, fun absent => ?_⟩
    · rw [if_pos given.1, if_pos given.2]
      rfl
    · split_ifs with active long
      · exact absurd ⟨active, long⟩ absent
      · rfl
      · rfl
  · have none := not_suppliesPosition ⟨notGga, notRmc⟩
    exact ⟨fun given => absurd given none,
      fun _ => sentenceEffect_other_position env ⟨notGga, notRmc⟩⟩

end Sentence

/-! ## Persisted positions -/

section Fresh

/-- A position was written. -/
def ThreadEvent.Persists : ThreadEvent pf → Prop
  | .call (.updateLocation _) => True
  | _ => False

/-- A sentence that met `supplied` was parsed since the last write. -/
def ParsedSinceWrite (supplied : List Byte → Prop) (history : List (ThreadEvent pf)) : Prop :=
  Since (fun _ e => ∃ line, e = .call (.parse line) ∧ supplied line) ThreadEvent.Persists history

/-- Coordinates were received since the last write. -/
def FreshAt (history : List (ThreadEvent pf)) : Prop := ParsedSinceWrite SuppliesPosition history

/-- The coordinates given were received since the last write. -/
def ReceivedAt (pf : Platform F) (position : F × F) (history : List (ThreadEvent pf)) : Prop :=
  ParsedSinceWrite (fun line => SuppliesPosition line ∧ latLongOf pf line = position) history

/-- A position that is written is one received since the last write. -/
def PersistsFresh (before : List (ThreadEvent pf)) (e : ThreadEvent pf) : Prop :=
  ∀ context, e = .call (.updateLocation context) → ReceivedAt pf (context.latitude, context.longitude) before

/-- The reader's position is one received since the last write, if there is any. -/
def HoldsReceived (r : NmeaReader pf) (history : List (ThreadEvent pf)) : Prop :=
  FreshAt history → ReceivedAt pf r.position history

/-- Calls other than a parse or a write. -/
def Call.IsQuiet : Call pf → Prop
  | .parse _ => False
  | .updateLocation _ => False
  | _ => True

variable {supplied : List Byte → Prop} {history : List (ThreadEvent pf)}

theorem parsedSinceWrite_quiet {calls : List (Call pf)} (quiet : ∀ c ∈ calls, c.IsQuiet) :
    ParsedSinceWrite supplied (history ++ calls.map .call) ↔ ParsedSinceWrite supplied history := by
  apply since_append_neutral
  intro e member
  obtain ⟨c, inside, rfl⟩ := List.mem_map.mp member
  have := quiet c inside
  cases c <;> simp_all [Call.IsQuiet, ThreadEvent.Persists]

theorem parsedSinceWrite_parse {line : List Byte} :
    ParsedSinceWrite supplied (history ++ [.call (.parse line)]) ↔
      supplied line ∨ ParsedSinceWrite supplied history := by
  rw [ParsedSinceWrite, since_concat]
  simp [ThreadEvent.Persists, ParsedSinceWrite]

theorem not_parsedSinceWrite_write {context : NlpContext F} :
    ¬ ParsedSinceWrite supplied (history ++ [.call (.updateLocation context)] : List (ThreadEvent pf)) := by
  rw [ParsedSinceWrite, since_concat]
  simp [ThreadEvent.Persists]

theorem parsedSinceWrite_command {cmd : Command} {changed : Bool} :
    ParsedSinceWrite supplied (history ++ [.command cmd changed] : List (ThreadEvent pf)) ↔
      ParsedSinceWrite supplied history := by
  apply since_append_neutral
  intro e member
  obtain rfl := List.mem_singleton.mp member
  simp [ThreadEvent.Persists]

theorem ReceivedAt.fresh {position : F × F} (received : ReceivedAt pf position history) :
    FreshAt history := by
  obtain ⟨before, e, after, split, ⟨line, parsed, supplies, -⟩, quiet⟩ := received
  exact ⟨before, e, after, split, ⟨line, parsed, supplies⟩, quiet⟩

theorem persistsFresh_parse {line : List Byte} : PersistsFresh history (.call (.parse line)) := by
  intro context written
  cases written

theorem persistsFresh_quiet {calls : List (Call pf)} (quiet : ∀ c ∈ calls, c.IsQuiet) :
    Always PersistsFresh history (calls.map .call) := by
  apply always_of_forall
  rintro e member before context rfl
  obtain ⟨c, inside, equal⟩ := List.mem_map.mp member
  cases equal
  exact (quiet _ inside).elim

end Fresh

section Byte

variable {env : ParseEnv} {s : NmeaState pf} {history : List (ThreadEvent pf)}

theorem Call.OfSatellites.isQuiet {c : Call pf} (satellites : c.OfSatellites) : c.IsQuiet := by
  cases c with
  | parse sentence => exact satellites
  | updateLocation context => exact satellites
  | _ => trivial

/-- The reports keep the position; the only position written is the reader's, with a report of the fix. -/
theorem nmeaReaderReport_writes (env : ParseEnv) (s : NmeaState pf) :
    (nmeaReaderReport env s).1.reader.position = s.reader.position ∧
      ((¬ s.ReportsFix ∧ ∀ c ∈ (nmeaReaderReport env s).2, c.IsQuiet) ∨
        (s.ReportsFix ∧ ∃ log context later, (∀ c ∈ log, c.IsQuiet) ∧ (∀ c ∈ later, c.IsQuiet) ∧
          (context.latitude, context.longitude) = s.reader.position ∧
            (nmeaReaderReport env s).2 = log ++ .updateLocation context :: later)) := by
  obtain ⟨_, _, _, _, _, changed, -⟩ := nmeaReaderReport_frame env s
  obtain ⟨_, _, _, _, -, calls⟩ := nmeaReaderReportSv_frame env (nmeaReaderReportFix env s).1
  have satellites : ∀ c ∈ (nmeaReaderReportSv env (nmeaReaderReportFix env s).1).2, c.IsQuiet :=
    fun c member => (calls c member).isQuiet
  refine ⟨by rw [changed]; rfl, ?_⟩
  simp only [nmeaReaderReport]
  generalize (nmeaReaderReportSv env (nmeaReaderReportFix env s).1).2 = later at satellites
  simp only [nmeaReaderReportFix, NmeaState.ReportsFix]
  split_ifs with unfixed reports logs
  · exact .inl ⟨fun given => by simp [unfixed] at given, satellites⟩
  · refine .inr ⟨⟨by simpa using unfixed, reports⟩, [.logPosition _ _, .location s.reader.fix], _,
      later, ?_, satellites, rfl, rfl⟩
    simp [Call.IsQuiet]
  · refine .inr ⟨⟨by simpa using unfixed, reports⟩, [.location s.reader.fix], _, later, ?_,
      satellites, rfl, rfl⟩
    simp [Call.IsQuiet]
  · exact .inl ⟨fun given => reports given.2, satellites⟩

/-- A sentence and the reports after it, on the position and the history. -/
theorem HoldsReceived.parse (env : ParseEnv) (held : HoldsReceived s.reader history)
    (holds : s.reader.HoldsLine) :
    HoldsReceived (sentenceEffect env s).reader (history ++ [.call (.parse s.reader.line)]) := by
  obtain ⟨stores, keeps⟩ := sentenceEffect_position env holds
  intro fresh
  rcases Classical.em (SuppliesPosition s.reader.line) with supplies | none
  · exact parsedSinceWrite_parse.mpr (.inl ⟨supplies, (stores supplies).symm⟩)
  · have before := (parsedSinceWrite_parse.mp fresh).resolve_left none
    rw [keeps none]
    exact parsedSinceWrite_parse.mpr (.inr (held before))

theorem HoldsReceived.of_position {r next : NmeaReader pf} (held : HoldsReceived r history)
    (same : next.position = r.position) : HoldsReceived next history := by
  intro fresh
  rw [same]
  exact held fresh

theorem HoldsReceived.quiet {r : NmeaReader pf} (held : HoldsReceived r history)
    {calls : List (Call pf)} (quiet : ∀ c ∈ calls, c.IsQuiet) :
    HoldsReceived r (history ++ calls.map .call) := by
  intro fresh
  exact (parsedSinceWrite_quiet quiet).mpr (held ((parsedSinceWrite_quiet quiet).mp fresh))

/-- A write of the position the reader holds is fresh exactly when there is a fresh one. -/
theorem HoldsReceived.received_iff {r : NmeaReader pf} (held : HoldsReceived r history) :
    ReceivedAt pf r.position history ↔ FreshAt history := ⟨ReceivedAt.fresh, held⟩

/-- A line that is parsed without a write. -/
theorem HoldsReceived.silent {r : NmeaReader pf} {line : List Byte}
    (held : HoldsReceived r (history ++ [.call (.parse line)])) {calls : List (Call pf)}
    (quiet : ∀ c ∈ calls, c.IsQuiet) :
    HoldsReceived r (history ++ (.parse line :: calls).map .call) ∧
      Always PersistsFresh history ((.parse line :: calls).map .call) := by
  constructor
  · rw [List.map_cons, ← List.singleton_append, ← List.append_assoc]
    exact held.quiet quiet
  · rw [List.map_cons, always_cons]
    exact ⟨persistsFresh_parse, persistsFresh_quiet quiet⟩

/-- A line that is parsed and leads to a write of the reader's position. -/
theorem HoldsReceived.written {r : NmeaReader pf} {line : List Byte}
    (held : HoldsReceived r (history ++ [.call (.parse line)])) (next : NmeaReader pf)
    {log later : List (Call pf)} {context : NlpContext F} (quietLog : ∀ c ∈ log, c.IsQuiet)
    (quietLater : ∀ c ∈ later, c.IsQuiet)
    (position : (context.latitude, context.longitude) = r.position) :
    HoldsReceived next (history ++ (.parse line :: (log ++ .updateLocation context :: later)).map .call) ∧
      (Always PersistsFresh history ((.parse line :: (log ++ .updateLocation context :: later)).map .call) ↔
        SuppliesPosition line ∨ FreshAt history) := by
  have logged := held.quiet quietLog
  have split :
      (history ++ (.parse line :: (log ++ .updateLocation context :: later)).map .call : List (ThreadEvent pf)) =
      history ++ [.call (.parse line)] ++ log.map .call ++ [.call (.updateLocation context)] ++ later.map .call := by
    simp
  constructor
  · intro fresh
    rw [split] at fresh
    exact absurd ((parsedSinceWrite_quiet quietLater).mp fresh) not_parsedSinceWrite_write
  · have received :
        PersistsFresh (history ++ [.call (.parse line)] ++ log.map .call) (.call (.updateLocation context)) ↔
        SuppliesPosition line ∨ FreshAt history := by
      rw [FreshAt, ← parsedSinceWrite_parse, ← parsedSinceWrite_quiet quietLog, ← FreshAt,
        ← logged.received_iff, ← position]
      constructor
      · intro fresh
        exact fresh context rfl
      · rintro given _ same
        cases same
        exact given
    rw [List.map_cons, List.map_append, List.map_cons, always_cons, always_append,
      always_cons, ← received]
    constructor
    · rintro ⟨-, -, fresh, -⟩
      exact fresh
    · intro fresh
      exact ⟨persistsFresh_parse, persistsFresh_quiet quietLog, fresh, persistsFresh_quiet quietLater⟩

theorem isQuiet_nmea {calls : List (Call pf)} (quiet : ∀ c ∈ calls, c.IsQuiet) (timestamp : Int)
    (line : List Byte) :
    ∀ c ∈ calls ++ [.nmea timestamp line], c.IsQuiet := by
  intro c member
  rcases List.mem_append.mp member with first | last
  · exact quiet c first
  · obtain rfl := List.mem_singleton.mp last
    trivial

/-- The newline completes a fix at the end of a read. -/
def NmeaState.Writes (s : NmeaState pf) (c : Byte) : Prop :=
  c = lf ∧ s.gpsNmeaEndTag = true ∧ s.reader.CompletesFix

theorem nmeaReaderAddc_persists (registered : env.callbacksSize = pf.sizeofGpsCallbacksMtk)
    (c : Byte) (held : HoldsReceived s.reader history) :
    HoldsReceived (nmeaReaderAddc env s c).1.reader (history ++ (nmeaReaderAddc env s c).2.map .call) ∧
      (Always PersistsFresh history ((nmeaReaderAddc env s c).2.map .call) ↔
        (s.Writes c → SuppliesPosition (s.reader.line ++ [lf]) ∨ FreshAt history)) := by
  obtain ⟨inside, pos, overflow, inBuf, added⟩ | ⟨completes, holds, line, parsed, calls, ran, rfl, added⟩ :=
    nmeaReaderAddc_registered registered s c <;> rw [added]
  · refine ⟨?_, iff_of_true always_nil ?_⟩
    · rw [List.map_nil, List.append_nil]
      exact held
    · intro writes
      exact absurd ⟨writes.2.2.1, writes.2.2.2.1, writes.1⟩ inside
  · have sentence := HoldsReceived.parse (s := { s with reader := s.reader.push lf }) env held holds
    dsimp only at sentence
    rw [line] at sentence
    split_ifs at ran with ignored
    · -- An ignored line has no effect of its own and is not followed by a report.
      have unchanged :
          sentenceEffect env { s with reader := s.reader.push lf } =
          { s with reader := s.reader.push lf } := by
        simp only [sentenceEffect, line, ignored]
      rw [unchanged] at sentence
      subst ran
      have none : ∀ c ∈ ([] : List (Call pf)), c.IsQuiet := by simp
      obtain ⟨kept, fresh⟩ := sentence.silent
        (isQuiet_nmea none (s.reader.push lf).fix.timestamp (s.reader.line ++ [lf]))
      exact ⟨kept, iff_of_true fresh (fun writes => absurd ignored writes.2.2.2.2.1)⟩
    · subst ran
      obtain ⟨fills, room, rfl⟩ := completes
      have reportsIff := @sentenceEffect_push_reportsFix_iff _ _ env s fills room holds line ignored
      obtain ⟨same, ⟨silent, quiet⟩ | ⟨reports, log, context, later, quietLog, quietLater, position, made⟩⟩ :=
        nmeaReaderReport_writes env (sentenceEffect env { s with reader := s.reader.push lf })
      · obtain ⟨kept, fresh⟩ := sentence.silent (isQuiet_nmea quiet
          (nmeaReaderReport env (sentenceEffect env { s with reader := s.reader.push lf })).1.reader.fix.timestamp
          (s.reader.line ++ [lf]))
        refine ⟨kept.of_position same,
          iff_of_true fresh fun writes => absurd (reportsIff.mpr writes.2) silent⟩
      · have writes : s.Writes lf := ⟨rfl, reportsIff.mp reports⟩
        generalize nmeaReaderReport env (sentenceEffect env { s with reader := s.reader.push lf }) =
          reported at made ⊢
        obtain ⟨kept, fresh⟩ := sentence.written { reported.1.reader with pos := 0 } quietLog
          (isQuiet_nmea quietLater reported.1.reader.fix.timestamp (s.reader.line ++ [lf])) position
        rw [made, List.cons_append, List.append_assoc, List.cons_append]
        exact ⟨kept, fresh.trans ⟨fun given _ => given, fun given => given writes⟩⟩

end Byte

section Run

variable {s next : ThreadState pf} {history out : List (ThreadEvent pf)} {a : ThreadAction}

/-- If the step completes a fix, then its sentence or one before it since the last write supplies coordinates. -/
def ThreadState.WritesFresh (s : ThreadState pf) (history : List (ThreadEvent pf)) (a : ThreadAction) : Prop :=
  s.CompletesFix a → SuppliesPosition (s.nmea.reader.line ++ [lf]) ∨ FreshAt history

theorem ThreadState.command_position (s : ThreadState pf) (cmd : Command) :
    (s.command cmd).1.nmea.reader.position = s.nmea.reader.position := by
  cases cmd with
  | start | stop =>
    rw [ThreadState.command]
    split <;> rfl
  | _ => rfl

theorem gpsStateThread_persists (held : HoldsReceived s.nmea.reader history) (down : s.TagDown)
    (stepped : (gpsStateThread pf).step s a = some (next, out)) :
    HoldsReceived next.nmea.reader (history ++ out) ∧
      (Always PersistsFresh history out ↔ s.WritesFresh history a) := by
  obtain ⟨cmd, rfl, -, rfl, rfl⟩ | ⟨c, rest, now, mnlProp, rfl, feeding, rfl, rfl⟩ | ⟨-, notByte, reader, -, -, -, rfl⟩ :=
    gpsStateThread_cases stepped
  · have same := s.command_position cmd
    refine ⟨?_, iff_of_true (always_cons.mpr ⟨?_, always_nil⟩) ?_⟩
    · intro fresh
      rw [same]
      exact parsedSinceWrite_command.mpr (held (parsedSinceWrite_command.mp fresh))
    · intro context written
      cases written
    · rintro ⟨⟨now, mnlProp, other⟩, -⟩
      cases other
  · obtain ⟨kept, fresh⟩ :=
      nmeaReaderAddc_persists (show (s.parseEnv now mnlProp).callbacksSize = _ from rfl) c
      (s := { s.nmea with gpsNmeaEndTag := rest.isEmpty || s.nmea.gpsNmeaEndTag }) held
    refine ⟨kept, fresh.trans ?_⟩
    have writes :
        ({ s.nmea with gpsNmeaEndTag := rest.isEmpty || s.nmea.gpsNmeaEndTag } : NmeaState pf).Writes c ↔
        s.CompletesFix (.byte now mnlProp) := by
      simp only [NmeaState.Writes, down _ feeding, Bool.or_false, List.isEmpty_iff,
        ThreadState.CompletesFix, feeding, ThreadMode.feed.injEq, List.cons.injEq, and_assoc]
      exact ⟨fun given => ⟨⟨now, mnlProp, rfl⟩, given⟩, And.right⟩
    rw [writes, ThreadState.WritesFresh]
  · refine ⟨?_, iff_of_true always_nil ?_⟩
    · rw [List.append_nil, reader]
      exact held
    · rintro ⟨⟨now, mnlProp, same⟩, -⟩
      exact absurd same (notByte now mnlProp)

/-- Every position a run writes is one received since the last write if and only if each fix it completes comes with
coordinates, in the sentence that completes it or in one since the last write. -/
theorem gpsStateThread_persistsFresh_iff {tape : List ThreadAction} {t : ThreadState pf} {trace : List (ThreadEvent pf)}
    (initial : s.Initial) (ran : (gpsStateThread pf).run s tape = some (t, trace)) :
    Always PersistsFresh [] trace ↔ (gpsStateThread pf).Permitted ThreadState.WritesFresh s [] tape := by
  have kept : ∀ (s : ThreadState pf) history a next out, HoldsReceived s.nmea.reader history ∧
      s.TagDown →
      s.WritesFresh history a → (gpsStateThread pf).step s a = some (next, out) →
      HoldsReceived next.nmea.reader (history ++ out) ∧ next.TagDown :=
    fun s history a next out inv _ stepped =>
      ⟨(gpsStateThread_persists inv.1 inv.2 stepped).1, gpsStateThread_tagDown inv.2 stepped⟩
  have exactly : ∀ (s : ThreadState pf) history a next out, HoldsReceived s.nmea.reader history ∧
      s.TagDown →
      (gpsStateThread pf).step s a = some (next, out) →
      (s.WritesFresh history a ↔ True ∧ Always PersistsFresh history out) := by
    intro s history a next out inv stepped
    rw [true_and]
    exact (gpsStateThread_persists inv.1 inv.2 stepped).2.symm
  have start : HoldsReceived s.nmea.reader [] ∧ s.TagDown :=
    ⟨fun fresh => absurd fresh not_since_nil, fun bytes feeding => by rw [initial.mode] at feeding; cases feeding⟩
  rw [System.run_permitted_iff (fun _ _ _ => trivial) kept exactly start ran]
  exact ⟨fun fresh => ⟨fun _ _ _ _ _ _ => trivial, fresh⟩, And.right⟩

theorem gpsStateThread_persistsFresh_iff_altitude : ∃ t trace,
    (gpsStateThread _).run freshThread ([.gpsFd, .read gsaThenGga] ++ List.replicate 28 (.byte 0 [])) = some (t, trace) ∧
    (Always PersistsFresh [] trace ↔ (gpsStateThread _).Permitted ThreadState.WritesFresh freshThread []
      ([.gpsFd, .read gsaThenGga] ++ List.replicate 28 (.byte 0 []))) := by
  have runs : ((gpsStateThread _).run freshThread
      ([.gpsFd, .read gsaThenGga] ++ List.replicate 28 (.byte 0 []))).isSome = true := by
    decide +kernel
  obtain ⟨⟨t, trace⟩, ran⟩ := Option.isSome_iff_exists.mp runs
  exact ⟨t, trace, ran, gpsStateThread_persistsFresh_iff ⟨rfl, rfl⟩ ran⟩

instance (line : List Byte) : Decidable (SuppliesPosition line) := inferInstanceAs (Decidable ((_ ∧ _) ∨ (_ ∧ _)))

def ThreadEvent.isWrite : ThreadEvent pf → Bool
  | .call (.updateLocation _) => true
  | _ => false

def ThreadEvent.suppliesPosition : ThreadEvent pf → Bool
  | .call (.parse line) => decide (SuppliesPosition line)
  | _ => false

private theorem not_persistsFresh_of_write {trace : List (ThreadEvent pf)}
    (written : trace.any ThreadEvent.isWrite = true)
    (none : trace.any ThreadEvent.suppliesPosition = false) : ¬ Always PersistsFresh [] trace := by
  intro fresh
  obtain ⟨e, member, write⟩ := List.any_eq_true.mp written
  obtain ⟨before, after, rfl⟩ := List.append_of_mem member
  cases e with
  | command cmd changed => cases write
  | call c =>
    cases c with
    | updateLocation context =>
      obtain ⟨earlier, _, later, split, ⟨line, rfl, supplies⟩, -⟩ :=
        (fresh before _ after rfl context rfl).fresh
      rw [List.nil_append] at split
      have absent := List.any_eq_false.mp none (.call (.parse line)) (by simp [split])
      exact absent (decide_eq_true supplies)
    | _ => cases write

/-- A GSA sentence with mode 3 and a GGA sentence with an altitude only write the position of a fresh reader. -/
theorem gpsStateThread_persists_zeros :
    ¬ ∀ (tape : List ThreadAction) t trace, (gpsStateThread _).run freshThread tape = some (t, trace) →
      Always PersistsFresh [] trace := by
  intro fresh
  have writes : ((gpsStateThread _).run freshThread
      ([.gpsFd, .read gsaThenGga] ++ List.replicate 28 (.byte 0 []))).any (fun last =>
        last.2.any ThreadEvent.isWrite && !last.2.any ThreadEvent.suppliesPosition) = true := by
          decide +kernel
  obtain ⟨⟨t, trace⟩, ran, writes⟩ := (Option.any_eq_true _ _).mp writes
  obtain ⟨written, none⟩ := Bool.and_eq_true_iff.mp writes
  exact not_persistsFresh_of_write written (by simpa using none) (fresh _ t trace ran)

end Run

end Mt6582.Gps

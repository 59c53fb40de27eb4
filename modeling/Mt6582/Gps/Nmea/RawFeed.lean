import Mt6582.Gps.Nmea.Clock
import Mt6582.Gps.Nmea.Line
import Mt6582.Gps.Thread

/-! # The raw NMEA feed

Every complete line goes to `nmea_cb` with the timestamp the reader then holds. Lines and timestamps are
kept by the assembler and the stamp alone: no branch of the parser lets the fix, the satellites or the end
tag into either. So `RawFeed`, which has nothing else, predicts the calls from the bytes, and how the bytes
were cut into reads makes no difference to them.
-/

namespace Mt6582.Gps

open List Machine

variable {F : Type} {pf : Platform F}

section Line

/-- What a line does to the stamp. -/
def Stamp.afterLine (pf : Platform F) (now : Int) (stamp : Stamp) (line : List Byte) : Stamp :=
  match sentenceKind line with
  | .gga => stamp.updateTime pf now (field line 1)
  | .rmc =>
      if (field line 2).head? = some 'A'.toUInt8 then stamp.updateDate pf now (field line 9) (field line 1) else stamp
  | _ => stamp

theorem nmeaReaderUpdateLatlong_stamp (r : NmeaReader pf)
    (latitude latitudeHemi longitude longitudeHemi : Token) :
    (nmeaReaderUpdateLatlong r latitude latitudeHemi longitude longitudeHemi).1.stamp =
      r.stamp := by
  rw [nmeaReaderUpdateLatlong]
  split
  · rfl
  · dsimp only
    split <;> rfl

theorem nmeaReaderUpdateNumber_stamp (r : NmeaReader pf) (flag : LocationFlag) (tok : Token)
    (store : GpsLocation F → F → GpsLocation F)
    (keeps : ∀ fix value, (store fix value).timestamp = fix.timestamp) :
    (nmeaReaderUpdateNumber r flag tok store).1.stamp = r.stamp := by
  rw [nmeaReaderUpdateNumber]
  split
  · rfl
  · simp only [NmeaReader.stamp, keeps]
    rfl

variable {s : NmeaState pf} (env : ParseEnv)

/-- The branch of a sentence sets the stamp from the sentence's fields, or leaves it. -/
theorem sentenceEffect_stamp (holds : s.reader.HoldsLine) :
    (sentenceEffect env s).reader.stamp = s.reader.stamp.afterLine pf env.now s.reader.line := by
  cases kind : sentenceKind s.reader.line with
  | gga =>
    simp only [sentenceEffect, kind, Stamp.afterLine, parseGga, nmeaReaderUpdateAltitude]
    rw [nmeaReaderUpdateNumber_stamp, nmeaReaderUpdateLatlong_stamp,
      nmeaReaderUpdateTime_eq _ _ (holds.good 1), NmeaReader.stamp_withStamp, holds.text]
    intro fix value
    rfl
  | rmc =>
    have status := holds.first_iff 2 (c := 'A'.toUInt8) (by decide)
    simp only [sentenceEffect, kind, Stamp.afterLine, parseRmc, ← status]
    split
    · rw [nmeaReaderUpdateSpeed, nmeaReaderUpdateNumber_stamp, nmeaReaderUpdateBearing,
        nmeaReaderUpdateNumber_stamp, nmeaReaderUpdateLatlong_stamp,
        nmeaReaderUpdateDate_eq _ _ (holds.good 9) (holds.good 1), NmeaReader.stamp_withStamp,
        holds.text, holds.text]
      · intro fix value
        rfl
      · intro fix value
        rfl
    · rfl
  | accuracy =>
    simp only [sentenceEffect, kind, Stamp.afterLine, parseAccuracy, nmeaReaderUpdateAccuracy]
    split
    · exact nmeaReaderUpdateNumber_stamp _ _ _ _ (fun _ _ => rfl)
    · rfl
  | gsa =>
    obtain ⟨used, changed⟩ := parseGsa_frame s.reader.tokens (isBds s.reader.line) s
    simp only [sentenceEffect, kind, Stamp.afterLine, changed]
    rfl
  | gsv =>
    obtain ⟨count, status, changed⟩ :=
      parseGsv_frame s.reader.tokens (isBds s.reader.line) s.svUsedInFix s.reader
    simp only [sentenceEffect, kind, Stamp.afterLine, changed]
    rfl
  | ignored => simp only [sentenceEffect, kind, Stamp.afterLine]
  | other => simp only [sentenceEffect, kind, Stamp.afterLine]

/-- The reports leave the stamp alone, whatever the end tag. -/
theorem nmeaReaderReport_stamp (s : NmeaState pf) :
    (nmeaReaderReport env s).1.reader.stamp = s.reader.stamp := by
  obtain ⟨flags, count, gnss, gps, used, changed, -⟩ := nmeaReaderReport_frame env s
  rw [changed]
  rfl

end Line

section Feed

/-- Lines go out one by one, each with the timestamp after it. -/
def Stamp.report (pf : Platform F) (now : Int) : Stamp → List (List Byte) → Stamp × List (Int × List Byte)
  | stamp, [] => (stamp, [])
  | stamp, line :: rest =>
      let next := stamp.afterLine pf now line
      ((report pf now next rest).1, (next.timestamp, line) :: (report pf now next rest).2)

theorem Stamp.report_append (now : Int) (stamp : Stamp) (first second : List (List Byte)) :
    stamp.report pf now (first ++ second) = (((stamp.report pf now first).1.report pf now second).1,
      (stamp.report pf now first).2 ++ ((stamp.report pf now first).1.report pf now second).2) := by
  induction first generalizing stamp with
  | nil => rfl
  | cons line rest ih => simp only [cons_append, Stamp.report, ih]

/-- All that the calls of `nmea_cb` depend on. -/
structure RawFeed where
  assembler : Assembler
  stamp : Stamp

/-- The feed after some bytes, with the timestamps and sentences passed to `nmea_cb`. -/
def RawFeed.feed (pf : Platform F) (now : Int) (raw : RawFeed) (bytes : List Byte) : RawFeed × List (Int × List Byte) :=
  let assembled := raw.assembler.feed bytes
  let reported := raw.stamp.report pf now assembled.2
  (⟨assembled.1, reported.1⟩, reported.2)

theorem RawFeed.feed_append (now : Int) (raw : RawFeed) (first second : List Byte) :
    raw.feed pf now (first ++ second) = (((raw.feed pf now first).1.feed pf now second).1,
      (raw.feed pf now first).2 ++ ((raw.feed pf now first).1.feed pf now second).2) := by
  simp only [RawFeed.feed, Assembler.feed_append, Stamp.report_append]

/-- The reader holds this feed. -/
structure NmeaReader.Carries (r : NmeaReader pf) (raw : RawFeed) : Prop where
  inMode : r.InMode raw.assembler
  stamp : r.stamp = raw.stamp

def Call.raw : Call pf → Option (Int × List Byte)
  | .nmea timestamp sentence => some (timestamp, sentence)
  | _ => none

/-- The calls of `nmea_cb`, in order. -/
def rawCalls (calls : List (Call pf)) : List (Int × List Byte) := calls.filterMap Call.raw

theorem rawCalls_append (first second : List (Call pf)) :
    rawCalls (first ++ second) = rawCalls first ++ rawCalls second :=
  filterMap_append

theorem nmeaReaderReport_rawCalls (env : ParseEnv) (s : NmeaState pf) :
    rawCalls (nmeaReaderReport env s).2 = [] := by
  obtain ⟨_, _, _, _, _, -, calls⟩ := nmeaReaderReport_frame env s
  apply filterMap_eq_nil_iff.mpr
  intro c member
  cases c with
  | nmea timestamp sentence => exact (calls _ member).elim False.elim False.elim
  | _ => rfl

/-- The line in the buffer moves the stamp as `Stamp.afterLine` says, and the parser does not call `nmea_cb`. -/
theorem lineEffect_raw (env : ParseEnv) {s : NmeaState pf} (holds : s.reader.HoldsLine) :
    (lineEffect env s).1.reader.stamp = s.reader.stamp.afterLine pf env.now s.reader.line ∧
      rawCalls (lineEffect env s).2 = [] := by
  rw [lineEffect]
  split
  · next ignored =>
    refine ⟨?_, rfl⟩
    simp only [Stamp.afterLine, ignored]
  · rw [nmeaReaderReport_stamp, sentenceEffect_stamp env holds]
    exact ⟨rfl, nmeaReaderReport_rawCalls env _⟩

/-- A byte moves the reader as it moves the feed, and the calls of `nmea_cb` are the feed's. -/
theorem nmeaReaderAddc_raw {env : ParseEnv}
    (registered : env.callbacksSize = pf.sizeofGpsCallbacksMtk) {s : NmeaState pf} {raw : RawFeed}
    (carries : s.reader.Carries raw) (c : Byte) :
    (nmeaReaderAddc env s c).1.reader.Carries (raw.feed pf env.now [c]).1 ∧
      rawCalls (nmeaReaderAddc env s c).2 = (raw.feed pf env.now [c]).2 := by
  obtain ⟨inMode, lines⟩ := nmeaReaderAddc_assembler env carries.inMode c
  have single :
      raw.assembler.feed [c] = raw.assembler.add c := by simp only [Assembler.feed, append_nil]
  obtain ⟨-, pos, overflow, inBuf, added⟩ | ⟨-, holds, line, parsed, calls, ran, rfl, added⟩ :=
    nmeaReaderAddc_registered registered s c
  · rw [added] at inMode lines ⊢
    have none : (raw.assembler.add c).2 = [] := handoversOf_injective lines.symm
    simp only [RawFeed.feed, single, none, Stamp.report]
    exact ⟨⟨inMode, carries.stamp⟩, rfl⟩
  · have quiet : handovers parsed.2 = [] := by
      rw [ran]
      split
      · rfl
      · exact nmeaReaderReport_handovers env _
    have effect : parsed = lineEffect env { s with reader := s.reader.push lf } := by
      rw [ran, lineEffect, line]
    let loaded : NmeaState pf := { s with reader := s.reader.push lf }
    have holdsLine : loaded.reader.HoldsLine := holds
    obtain ⟨moved, none⟩ := lineEffect_raw env holdsLine
    rw [← effect] at moved none
    have stamp :
        parsed.1.reader.stamp = raw.stamp.afterLine pf env.now (s.reader.line ++ [lf]) := by
      rw [moved, line, ← carries.stamp]
      rfl
    rw [added] at inMode lines ⊢
    rw [← singleton_append, handovers_append, handovers_append, quiet] at lines
    have one : (raw.assembler.add c).2 = [s.reader.line ++ [lf]] := handoversOf_injective lines.symm
    simp only [RawFeed.feed, single, one, Stamp.report]
    refine ⟨⟨inMode, stamp⟩, ?_⟩
    rw [← singleton_append, rawCalls_append, rawCalls_append, none, ← stamp]
    rfl

end Feed

section Thread

/-- The bytes of a read. -/
def ThreadAction.bytes : ThreadAction → List Byte
  | .read bytes => bytes
  | _ => []

/-- The clock value the parser would get. -/
def ThreadAction.clock? : ThreadAction → Option Int
  | .byte now _ => some now
  | _ => none

/-- The bytes read that the byte loop has not reached. -/
def ThreadMode.pending : ThreadMode → List Byte
  | .feed bytes => bytes
  | _ => []

/-- The bytes of a read that is thrown away. -/
def ThreadState.dropped (s : ThreadState pf) (a : ThreadAction) : List Byte :=
  if s.mode = .discard then a.bytes else []

@[simp] theorem ThreadState.feedMode_pending (bytes : List Byte) :
    (ThreadState.feedMode bytes).pending = bytes := by
  cases bytes <;> rfl

/-- The reader's call among the events of the thread. -/
def ThreadEvent.call? : ThreadEvent pf → Option (Call pf)
  | .call made => some made
  | .command _ _ => none

/-- The calls of `nmea_cb` in a trace. -/
def rawTrace (trace : List (ThreadEvent pf)) : List (Int × List Byte) := rawCalls (trace.filterMap ThreadEvent.call?)

theorem rawTrace_append (first second : List (ThreadEvent pf)) :
    rawTrace (first ++ second) = rawTrace first ++ rawTrace second := by
  rw [rawTrace, filterMap_append, rawCalls_append]
  rfl

theorem rawTrace_calls (calls : List (Call pf)) : rawTrace (calls.map .call) = rawCalls calls := by
  rw [rawTrace, filterMap_map]
  exact congrArg rawCalls filterMap_some

variable {s next : ThreadState pf} {a : ThreadAction} {out : List (ThreadEvent pf)}

/-- Bytes that were pending or read are thrown away or pending afterwards, unless one of them is fed. -/
private theorem gpsStateThread_moves (stepped : (gpsStateThread pf).step s a = some (next, out))
    (notByte : ∀ now mnlProp, a ≠ .byte now mnlProp) :
    s.mode.pending ++ a.bytes = s.dropped a ++ next.mode.pending := by
  simp only [gpsStateThread] at stepped
  cases a with
  | byte now mnlProp => exact absurd rfl (notByte now mnlProp)
  | read bytes =>
    rw [gpsStateThreadStep] at stepped
    split_ifs at stepped
    split at stepped <;> cases stepped
    · next mode => simp [ThreadState.dropped, mode, ThreadMode.pending, ThreadAction.bytes]
    · next mode =>
      rw [ThreadState.dropped, mode, ThreadState.feedMode_pending]
      rfl
  | control cmd =>
    rw [gpsStateThreadStep] at stepped
    split_ifs at stepped with polling
    cases stepped
    cases cmd <;> simp only [ThreadState.command] <;> try split
    all_goals simp [ThreadState.dropped, polling, ThreadMode.pending, ThreadAction.bytes]
  | gpsFd =>
    rw [gpsStateThreadStep] at stepped
    split_ifs at stepped with polling
    · cases stepped
      simp [ThreadState.dropped, polling, ThreadMode.pending, ThreadAction.bytes]
    · cases stepped
      simp [ThreadState.dropped, polling, ThreadMode.pending, ThreadAction.bytes]
  | readFails =>
    rw [gpsStateThreadStep] at stepped
    split at stepped <;> cases stepped
    · next mode => simp [ThreadState.dropped, mode, ThreadMode.pending, ThreadAction.bytes]
    · next mode => simp [ThreadState.dropped, mode, ThreadMode.pending, ThreadAction.bytes]
  | hangUp =>
    rw [gpsStateThreadStep] at stepped
    split_ifs at stepped with polling
    cases stepped
    simp [ThreadState.dropped, polling, ThreadMode.pending, ThreadAction.bytes]
  | setPositionMode interval =>
    cases stepped
    simp [ThreadState.dropped, ThreadAction.bytes]

/-- A step feeds the next pending byte, or it leaves the feed alone and only moves bytes. -/
theorem gpsStateThread_bytes (stepped : (gpsStateThread pf).step s a = some (next, out)) :
    (∃ c now mnlProp, a = .byte now mnlProp ∧ s.mode.pending = c :: next.mode.pending ∧
      next.nmea = (s.addByte c next.mode.pending now mnlProp).1 ∧
      out = (s.addByte c next.mode.pending now mnlProp).2.map .call) ∨
    ((∀ now mnlProp, a ≠ .byte now mnlProp) ∧
      (∀ raw, s.nmea.reader.Carries raw → next.nmea.reader.Carries raw) ∧
      s.mode.pending ++ a.bytes = s.dropped a ++ next.mode.pending ∧
        out.filterMap ThreadEvent.call? = []) := by
  obtain ⟨cmd, rfl, polling, rfl, rfl⟩ | ⟨c, rest, now, mnlProp, rfl, feeding, rfl, rfl⟩ |
      ⟨notControl, notByte, reader, -, -, -, rfl⟩ := gpsStateThread_cases stepped
  · have notByte : ∀ now mnlProp, ThreadAction.control cmd ≠ .byte now mnlProp := by
      intro now mnlProp same
      cases same
    refine .inr ⟨notByte, ?_, gpsStateThread_moves stepped notByte, rfl⟩
    intro raw carries
    cases cmd <;> simp only [ThreadState.command, nmeaReaderSetCallback] <;> try split
    all_goals exact ⟨carries.inMode, carries.stamp⟩
  · refine .inl ⟨c, now, mnlProp, rfl, ?_, ?_, ?_⟩
    · rw [feeding, ThreadState.feedMode_pending]
      rfl
    · rw [ThreadState.feedMode_pending]
    · rw [ThreadState.feedMode_pending]
  · refine .inr ⟨notByte, ?_, gpsStateThread_moves stepped notByte, rfl⟩
    intro raw carries
    rw [reader]
    exact carries

theorem ThreadState.addByte_raw {raw : RawFeed} (carries : s.nmea.reader.Carries raw) (c : Byte)
    (rest : List Byte) (now : Int) (mnlProp : List Byte) :
    (s.addByte c rest now mnlProp).1.reader.Carries (raw.feed pf now [c]).1 ∧
      rawCalls (s.addByte c rest now mnlProp).2 = (raw.feed pf now [c]).2 := by
  have registered : (s.parseEnv now mnlProp).callbacksSize = pf.sizeofGpsCallbacksMtk := rfl
  let tagged : NmeaState pf := { s.nmea with gpsNmeaEndTag := rest.isEmpty || s.nmea.gpsNmeaEndTag }
  have shown : tagged.reader.Carries raw := carries
  exact nmeaReaderAddc_raw registered shown c

/-- No read is thrown away, and the clock stands at `now` whenever the parser asks for it. -/
def Unskipped (now : Int) (s : ThreadState pf) (_ : List (ThreadEvent pf)) (a : ThreadAction) : Prop :=
  s.dropped a = [] ∧ ∀ clock ∈ a.clock?, clock = now

instance (now : Int) (s : ThreadState pf) (history : List (ThreadEvent pf)) (a : ThreadAction) :
    Decidable (Unskipped now s history a) := inferInstanceAs (Decidable (_ ∧ _))

/-- In a run that throws nothing away, the reader and the calls of `nmea_cb` follow the feed. -/
theorem gpsStateThread_raw {now : Int} {raw : RawFeed} {t : ThreadState pf}
    {tape : List ThreadAction} {history trace : List (ThreadEvent pf)}
    (carries : s.nmea.reader.Carries raw)
    (unskipped : (gpsStateThread pf).Permitted (Unskipped now) s history tape)
    (ran : (gpsStateThread pf).run s tape = some (t, trace)) :
    ∃ fed, s.mode.pending ++ tape.flatMap ThreadAction.bytes = fed ++ t.mode.pending ∧
      t.nmea.reader.Carries (raw.feed pf now fed).1 ∧ rawTrace trace = (raw.feed pf now fed).2 := by
  induction tape generalizing s raw history trace with
  | nil =>
    cases ran
    exact ⟨[], append_nil _, carries, rfl⟩
  | cons a rest ih =>
    obtain ⟨next, out, later, stepped, afterwards, rfl⟩ := System.run_cons_iff.mp ran
    obtain ⟨⟨kept, clock⟩, permitted⟩ := unskipped
    obtain ⟨c, time, mnlProp, rfl, pending, nmea, rfl⟩ | ⟨-, unmoved, moved, quiet⟩ :=
      gpsStateThread_bytes stepped
    · obtain rfl := clock time rfl
      obtain ⟨shown, calls⟩ := s.addByte_raw carries c next.mode.pending time mnlProp
      obtain ⟨fed, split, final, traced⟩ := ih (nmea ▸ shown) (permitted _ _ stepped) afterwards
      have joined : raw.feed pf time (c :: fed) = _ := raw.feed_append time [c] fed
      refine ⟨c :: fed, ?_, ?_, ?_⟩
      · rw [pending, flatMap_cons, cons_append, cons_append, ← split]
        rfl
      · rw [joined]
        exact final
      · rw [rawTrace_append, rawTrace_calls, calls, traced, joined]
    · obtain ⟨fed, split, final, traced⟩ :=
        ih (unmoved raw carries) (permitted _ _ stepped) afterwards
      refine ⟨fed, ?_, final, ?_⟩
      · rw [flatMap_cons, ← append_assoc, moved, kept, nil_append, split]
      · rw [rawTrace_append, traced, rawTrace, quiet]
        rfl

/-- The reader of a running thread always carries some feed. -/
theorem gpsStateThread_carries {t : ThreadState pf} {tape : List ThreadAction}
    {trace : List (ThreadEvent pf)}
    (initial : s.Initial) (ran : (gpsStateThread pf).run s tape = some (t, trace)) :
    ∃ raw, t.nmea.reader.Carries raw := by
  let Inv (s : ThreadState pf) (_ : List (ThreadEvent pf)) : Prop :=
    ∃ raw, s.nmea.reader.Carries raw
  have start : Inv s [] := by
    refine ⟨⟨.filling [], (nmeaReaderInit pf).stamp⟩, ?_⟩
    rw [initial.reader]
    exact ⟨nmeaReaderInit_inMode, rfl⟩
  have kept :
      ∀ s history a next out, Inv s history → (gpsStateThread pf).step s a = some (next, out) →
      Inv next (history ++ out) := by
    rintro s history a next out ⟨raw, carries⟩ stepped
    obtain ⟨c, now, mnlProp, -, -, nmea, -⟩ | ⟨-, unmoved, -, -⟩ := gpsStateThread_bytes stepped
    · refine ⟨(raw.feed pf now [c]).1, ?_⟩
      rw [nmea]
      exact (s.addByte_raw carries c next.mode.pending now mnlProp).1
    · exact ⟨raw, unmoved raw carries⟩
  exact @System.run_invariant_of_step _ _ _ _ Inv kept s t [] trace tape start ran

end Thread

end Mt6582.Gps

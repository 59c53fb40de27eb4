import Mt6582.Gps.Nmea.RawFeed

/-! # Sentences under rate limiting

While `report_time_interval` is not reached, `gps_state_thread` reads from the device and throws the bytes
away, wherever they start and end; the reader keeps the part of a line it has. The thread below also emits
what it takes from the device, so that a sentence handed to the parser can be compared with the line that
ended there. The two agree in every run in which a read is only thrown away when the reader is skipping a line,
is about to, or holds just what the device's unfinished line is afterwards.
-/

namespace Mt6582.Gps

open List Machine

variable {F : Type} {pf : Platform F}

section Device

/-- What the thread takes from the device, and the reader's calls. -/
inductive DeviceEvent (pf : Platform F) where
  | taken (bytes : List Byte)
  | call (made : Call pf)

/-- The bytes that leave the device's stream with a step: the next byte fed, or a read thrown away. -/
def ThreadState.taken (s : ThreadState pf) : ThreadAction → List Byte
  | .byte _ _ => s.mode.pending.take 1
  | a => s.dropped a

def deviceThreadStep (s : ThreadState pf) (a : ThreadAction) : Option (ThreadState pf × List (DeviceEvent pf)) :=
  (gpsStateThreadStep s a).map fun next => (next.1, .taken (s.taken a) :: (next.2.filterMap ThreadEvent.call?).map .call)

/-- `gps_state_thread`, seen together with the device. -/
def deviceThread (pf : Platform F) : System (ThreadState pf) ThreadAction (DeviceEvent pf) := ⟨deviceThreadStep⟩

def DeviceEvent.bytes : DeviceEvent pf → List Byte
  | .taken bytes => bytes
  | .call _ => []

/-- The device's bytes so far. -/
def deviceStream (history : List (DeviceEvent pf)) : List Byte := history.flatMap DeviceEvent.bytes

/-- The sentence handed to the parser. -/
def DeviceEvent.sentence? : DeviceEvent pf → Option (List Byte)
  | .call (.parse sentence) => some sentence
  | _ => none

/-- A sentence handed to the parser is the line of the device that has just ended. -/
def IsDeviceLine (history : List (DeviceEvent pf)) (e : DeviceEvent pf) : Prop :=
  ∀ sentence ∈ e.sentence?, (terminated lf (deviceStream history)).getLast? = some sentence

instance (history : List (DeviceEvent pf)) (e : DeviceEvent pf) : Decidable (IsDeviceLine history e) :=
  inferInstanceAs (Decidable (∀ sentence ∈ e.sentence?, _))

/-- A read may be thrown away: the reader skips its line or is about to, or the device's unfinished line
is afterwards what the reader holds. -/
def SpliceFree (s : ThreadState pf) (_ : List (DeviceEvent pf)) (a : ThreadAction) : Prop :=
  s.mode = .discard → s.nmea.reader.overflow = true ∨ s.nmea.reader.pos = nmeaMaxSize ∨
    unterminated lf (s.nmea.reader.line ++ a.bytes) = s.nmea.reader.line

theorem deviceStream_append (first second : List (DeviceEvent pf)) :
    deviceStream (first ++ second) = deviceStream first ++ deviceStream second := flatMap_append

theorem deviceStream_calls (calls : List (Call pf)) : deviceStream (calls.map .call) = [] := by
  rw [deviceStream, flatMap_map]
  exact flatMap_eq_nil_iff.mpr (fun _ _ => rfl)

end Device

section Steps

/-- The reader's unfinished line, while it can still be completed, is the device's. -/
def Assembler.Follows (mode : Assembler) (stream : List Byte) : Prop :=
  ∀ text, mode = .filling text → text.length < nmeaMaxSize → text = unterminated lf stream

/-- A byte fed to both keeps them together, and a line finished by it is the device's last. -/
theorem Assembler.follows_add {mode : Assembler} {stream : List Byte}
    (follows : mode.Follows stream) (c : Byte) :
    (mode.add c).1.Follows (stream ++ [c]) ∧
      ∀ line ∈ (mode.add c).2, (terminated lf (stream ++ [c])).getLast? = some line := by
  cases mode with
  | skipping =>
    refine ⟨?_, fun _ member => absurd member not_mem_nil⟩
    intro text next _
    rw [Assembler.add] at next
    split at next
    · next ended =>
      cases next
      rw [ended, unterminated_concat_stop]
    · contradiction
  | filling text =>
    by_cases room : text.length < nmeaMaxSize
    · have same := follows text rfl room
      by_cases ended : c = lf
      · rw [Assembler.add, if_pos room, if_pos ended, ended, same]
        refine ⟨?_, ?_⟩
        · rintro _ ⟨⟩ -
          rw [unterminated_concat_stop]
        · intro line member
          rw [mem_singleton.mp member, terminated_concat_stop, getLast?_concat]
      · rw [Assembler.add, if_pos room, if_neg ended]
        refine ⟨?_, fun _ member => absurd member not_mem_nil⟩
        rintro _ ⟨⟩ -
        rw [unterminated_concat_ne ended, ← same]
    · rw [Assembler.add, if_neg room]
      refine ⟨?_, fun _ member => absurd member not_mem_nil⟩
      intro text next _
      contradiction

variable {s next : ThreadState pf} {a : ThreadAction} {out : List (DeviceEvent pf)}

/-- Everything a step can do: feed one byte of the device, or throw some away and leave the feed alone. -/
theorem deviceThread_cases (stepped : (deviceThread pf).step s a = some (next, out)) :
    (∃ c now mnlProp, a = .byte now mnlProp ∧ next.nmea = (s.addByte c next.mode.pending now mnlProp).1 ∧
      out = .taken [c] :: (s.addByte c next.mode.pending now mnlProp).2.map .call) ∨
    ((∀ now mnlProp, a ≠ .byte now mnlProp) ∧
      (∀ mode, s.nmea.reader.InMode mode → next.nmea.reader.InMode mode) ∧
        out = [.taken (s.dropped a)]) := by
  obtain ⟨⟨next, events⟩, ran, equal⟩ := Option.map_eq_some_iff.mp stepped
  cases equal
  obtain ⟨c, now, mnlProp, rfl, pending, nmea, rfl⟩ | ⟨notByte, unmoved, -, quiet⟩ :=
    gpsStateThread_bytes ran
  · refine .inl ⟨c, now, mnlProp, rfl, nmea, ?_⟩
    rw [ThreadState.taken, pending, filterMap_map]
    exact congrArg (fun calls => DeviceEvent.taken [c] :: calls.map DeviceEvent.call) filterMap_some
  · refine .inr ⟨notByte, ?_, ?_⟩
    · intro mode inMode
      exact (unmoved ⟨mode, s.nmea.reader.stamp⟩ ⟨inMode, rfl⟩).inMode
    · rw [quiet, map_nil]
      cases a with
      | byte now mnlProp => exact absurd rfl (notByte now mnlProp)
      | _ => rfl

/-- A byte moves the assembler, and the lines finished by it are the sentences handed to the parser. -/
theorem ThreadState.addByte_assembler {mode : Assembler} (inMode : s.nmea.reader.InMode mode)
    (c : Byte) (rest : List Byte) (now : Int) (mnlProp : List Byte) :
    (s.addByte c rest now mnlProp).1.reader.InMode (mode.add c).1 ∧
      ∀ sentence, .parse sentence ∈ (s.addByte c rest now mnlProp).2 ↔
      sentence ∈ (mode.add c).2 := by
  let tagged : NmeaState pf := { s.nmea with gpsNmeaEndTag := rest.isEmpty || s.nmea.gpsNmeaEndTag }
  have tagMode : tagged.reader.InMode mode := inMode
  obtain ⟨moved, handed⟩ := nmeaReaderAddc_assembler (s.parseEnv now mnlProp) tagMode c
  refine ⟨moved, fun sentence => ?_⟩
  have ofCalls (calls : List (Call pf)) : .parse sentence ∈ calls ↔
      .parse sentence ∈ handovers calls := by
    rw [handovers, mem_filterMap]
    constructor
    · exact fun member => ⟨_, member, rfl⟩
    · rintro ⟨call, member, found⟩
      cases call <;> cases found
      exact member
  rw [ofCalls]
  have listed : .parse sentence ∈ handoversOf (mode.add c).2 ↔
      sentence ∈ (mode.add c).2 := by simp [handoversOf]
  rw [← listed, ← handed]
  rfl

theorem always_isDeviceLine_calls {history : List (DeviceEvent pf)} {calls : List (Call pf)} :
    Always IsDeviceLine history (calls.map .call) ↔
      ∀ sentence, .parse sentence ∈ calls →
      (terminated lf (deviceStream history)).getLast? = some sentence := by
  constructor
  · intro all sentence member
    obtain ⟨before, after, rfl⟩ := append_of_mem member
    have line :=
      all (before.map .call) (.call (.parse sentence)) (after.map .call) (by simp) sentence rfl
    rwa [deviceStream_append, deviceStream_calls, append_nil] at line
  · intro all before e after split sentence found
    obtain ⟨first, second, rfl, rfl, later⟩ := map_eq_append_iff.mp split
    obtain ⟨call, rest, rfl, rfl, -⟩ := map_eq_cons_iff.mp later
    rw [deviceStream_append, deviceStream_calls, append_nil]
    cases call <;> cases found
    exact all sentence (by simp)

end Steps

section Runs

/-- All sentences were device lines, and the reader's unfinished line is the device's while it can be completed. -/
structure SpliceInvariant (s : ThreadState pf) (history : List (DeviceEvent pf)) : Prop where
  lines : Always IsDeviceLine [] history
  follows : ∃ mode, s.nmea.reader.InMode mode ∧ mode.Follows (deviceStream history)

variable {s next : ThreadState pf} {a : ThreadAction} {history out : List (DeviceEvent pf)}

theorem SpliceInvariant.step (inv : SpliceInvariant s history) (free : SpliceFree s history a)
    (stepped : (deviceThread pf).step s a = some (next, out)) :
    SpliceInvariant next (history ++ out) := by
  obtain ⟨mode, inMode, follows⟩ := inv.follows
  obtain ⟨c, now, mnlProp, rfl, nmea, rfl⟩ | ⟨-, unmoved, rfl⟩ := deviceThread_cases stepped
  · obtain ⟨moved, handed⟩ := s.addByte_assembler inMode c next.mode.pending now mnlProp
    obtain ⟨followed, line⟩ := mode.follows_add follows c
    have stream : deviceStream (history ++ [.taken [c]]) = deviceStream history ++ [c] := by
      rw [deviceStream_append]
      rfl
    constructor
    · refine always_append.mpr ⟨inv.lines, always_cons.mpr ⟨nofun, always_isDeviceLine_calls.mpr ?_⟩⟩
      intro sentence member
      rw [nil_append, stream]
      exact line sentence ((handed sentence).mp member)
    · refine ⟨(mode.add c).1, nmea ▸ moved, ?_⟩
      rw [append_cons, deviceStream_append, deviceStream_calls, append_nil, stream]
      exact followed
  · refine ⟨always_append.mpr ⟨inv.lines, always_cons.mpr ⟨nofun, always_nil⟩⟩, mode,
      unmoved mode inMode, ?_⟩
    have stream :
        deviceStream (history ++ [.taken (s.dropped a)]) = deviceStream history ++ s.dropped a := by
      rw [deviceStream_append]
      exact congrArg _ (append_nil _)
    rintro text rfl room
    have same := follows text rfl room
    rw [stream, ThreadState.dropped]
    split
    · next discarding =>
      rcases free discarding with skips | full | held
      · exact absurd skips (Bool.eq_false_iff.mp inMode.1)
      · rw [inMode.2.1] at full
        omega
      · rw [unterminated_append, ← same]
        rw [inMode.2.2.2] at held
        exact held.symm
    · rw [append_nil]
      exact same

/-- After a read was thrown away, the next one can end the line at once. -/
theorem deviceThread_completes (s : ThreadState pf) :
    let fed :=
  ({ s with reportTimeInterval := 1, count := 0, nmea.gpsNmeaEndTag := false, mode := .feed [lf] } : ThreadState pf)
    (deviceThread pf).run { s with mode := .poll } [.setPositionMode 1, .gpsFd, .read [lf],
      .byte 0 []] =
      some ({ fed with nmea := (fed.addByte lf [] 0 []).1, mode := .fetch },
        [.taken [], .taken [], .taken [],
          .taken [lf]] ++ (fed.addByte lf [] 0 []).2.map .call) := by
  intro fed
  have prompt : ¬ (1 : ℚ) > (s.count + 1 : Nat) := by
    rw [gt_iff_lt, not_lt]
    exact_mod_cast Nat.succ_le_succ (Nat.zero_le s.count)
  have accepted : gpsStateThreadStep { s with reportTimeInterval := 1, mode := .poll } .gpsFd =
      some ({ s with reportTimeInterval := 1, count := 0, mode := .fetch }, []) := by
    rw [gpsStateThreadStep, if_pos rfl, if_neg prompt]
  have calls : ((fed.addByte lf [] 0 []).2.map ThreadEvent.call).filterMap ThreadEvent.call? =
      (fed.addByte lf [] 0 []).2 := by
    rw [filterMap_map]
    exact filterMap_some
  refine System.run_cons_iff.mpr ⟨{ s with reportTimeInterval := 1, mode := .poll }, [.taken []], _, rfl, ?_, rfl⟩
  refine System.run_cons_iff.mpr
    ⟨{ s with reportTimeInterval := 1, count := 0, mode := .fetch }, [.taken []], _, ?_, ?_, rfl⟩
  · exact congrArg (Option.map _) accepted
  refine System.run_cons_iff.mpr ⟨fed, [.taken []], _, rfl, ?_, rfl⟩
  refine System.run_cons_iff.mpr ⟨_, _, [], ?_, rfl, (append_nil _).symm⟩
  refine Option.map_eq_some_iff.mpr ⟨_, rfl, ?_⟩
  dsimp only
  rw [calls]
  rfl

/-- A read in the discarding mode takes its bytes from the device, and the thread polls again. -/
theorem deviceThread_discards {bytes : List Byte} (discarding : s.mode = .discard)
    (stepped : (deviceThread pf).step s (.read bytes) = some (next, out)) :
    next = { s with mode := .poll } ∧ out = [.taken bytes] := by
  obtain ⟨⟨_, events⟩, ran, equal⟩ := Option.map_eq_some_iff.mp stepped
  rw [gpsStateThreadStep] at ran
  split_ifs at ran
  rw [discarding] at ran
  cases ran
  cases equal
  have taken : s.taken (.read bytes) = bytes := if_pos discarding
  rw [taken]
  exact ⟨rfl, rfl⟩

/-- A newline hands the parser the line that the reader holds. -/
theorem ThreadState.addByte_lf {text : List Byte} (holds : s.nmea.reader.InMode (.filling text))
    (room : text.length < nmeaMaxSize) (rest : List Byte) (now : Int) (mnlProp : List Byte) :
    .parse (text ++ [lf]) ∈ (s.addByte lf rest now mnlProp).2 := by
  apply ((s.addByte_assembler holds lf rest now mnlProp).2 _).mpr
  rw [Assembler.add, if_pos room, if_pos rfl]
  exact mem_singleton_self _

/-- A read thrown away otherwise is followed by a newline that completes a spliced line. -/
theorem SpliceInvariant.splices (inv : SpliceInvariant s history)
    (spliced : ¬ SpliceFree s history a)
    (stepped : (deviceThread pf).step s a = some (next, out)) :
    ∃ more u later, (deviceThread pf).run next more = some (u, later) ∧
      ¬ Always IsDeviceLine [] (history ++ out ++ later) := by
  obtain ⟨mode, inMode, follows⟩ := inv.follows
  simp only [SpliceFree, Classical.not_imp, not_or] at spliced
  obtain ⟨discarding, fills, notFull, differs⟩ := spliced
  cases mode with
  | skipping => exact absurd inMode.1 fills
  | filling text =>
    have line : s.nmea.reader.line = text := inMode.2.2.2
    have room : text.length < nmeaMaxSize := by
      have size := inMode.2.1
      have bound := inMode.2.2.1
      omega
    have same := follows text rfl room
    have fresh : unterminated lf text = text := by
      rw [same]
      exact unterminated_of_not_mem (unterminated_not_mem _)
    -- only a read has bytes to throw away
    obtain ⟨bytes, rfl⟩ : ∃ bytes, a = .read bytes := by
      cases a with
      | read bytes => exact ⟨bytes, rfl⟩
      | _ =>
        simp only [line, ThreadAction.bytes, append_nil] at differs
        exact absurd fresh differs
    obtain ⟨rfl, rfl⟩ := deviceThread_discards discarding stepped
    refine ⟨_, _, _, deviceThread_completes s, fun all => ?_⟩
    let fed : ThreadState pf :=
      { s with reportTimeInterval := 1, count := 0, nmea.gpsNmeaEndTag := false, mode := .feed [lf] }
    have holds : fed.nmea.reader.InMode (.filling text) := inMode
    have last :=
      always_isDeviceLine_calls.mp (always_append.mp (always_append.mp all).2).2 _ (fed.addByte_lf holds room [] 0 [])
    have stream : deviceStream ([] ++ (history ++ [.taken bytes]) ++
        [.taken [], .taken [], .taken [],
          .taken [lf]]) = deviceStream history ++ bytes ++ [lf] := by
      simp [deviceStream, DeviceEvent.bytes]
    rw [stream, terminated_concat_stop, getLast?_concat, unterminated_append, ← same,
      Option.some_inj] at last
    apply differs
    rw [line]
    exact append_cancel_right last

/-- Every sentence handed to the parser is a line of the device exactly as long as no read is thrown away that
the reader's unfinished line cannot do without. -/
theorem deviceThread_sentences (initial : s.Initial) :
    (deviceThread pf).Decides SpliceFree (fun _ history => Always IsDeviceLine [] history) s := by
  apply System.decides_of_invariant SpliceInvariant
  · exact fun _ _ inv => inv.lines
  · exact fun _ _ _ _ _ inv free stepped => inv.step free stepped
  · exact fun _ _ _ _ _ inv stepped spliced => inv.splices spliced stepped
  · refine ⟨always_nil, .filling [], ?_, ?_⟩
    · rw [initial.reader]
      exact nmeaReaderInit_inMode
    · rintro _ ⟨⟩ -
      rfl

theorem deviceThread_sentences_fresh :
    (deviceThread _).Decides SpliceFree (fun _ history => Always IsDeviceLine [] history) freshThread :=
  deviceThread_sentences ⟨rfl, rfl⟩

/-- Three reads of two sentences, the second of them thrown away. -/
def splitGsa : List ThreadAction :=
  [.gpsFd, .read (lit ['$', 'G', 'P', 'G', 'S', 'A', ',', 'A', ','])] ++ List.replicate 9 (.byte 0 []) ++
  [.readFails, .setPositionMode 2, .gpsFd, .read (lit ['1', '\n', '$', 'G', 'P', 'G', 'S', 'V', ',']),
    .gpsFd, .read (lit ['3', '\n']), .byte 0 [], .byte 0 []]

/-- The device reports no fix with `$GPGSA,A,1`; the second of its three reads is thrown away, and the parser gets
`$GPGSA,A,3`, which is no line of the device at all. -/
theorem deviceThread_splices_gsa : ∃ t trace, (deviceThread _).run freshThread splitGsa = some (t, trace) ∧
    ¬ Always IsDeviceLine [] trace ∧
    ∃ e ∈ trace, ∃ sentence ∈ e.sentence?, sentence ∉ terminated lf (deviceStream trace) := by
  have spliced :
      ((deviceThread _).run freshThread splitGsa).any (fun last => ¬ Always IsDeviceLine [] last.2 ∧
      ∃ e ∈ last.2, ∃ sentence ∈ e.sentence?,
        sentence ∉ terminated lf (deviceStream last.2)) = true := by
    decide +kernel
  obtain ⟨⟨t, trace⟩, ran, spliced⟩ := (Option.any_eq_true _ _).mp spliced
  exact ⟨t, trace, ran, of_decide_eq_true spliced⟩

end Runs

end Mt6582.Gps

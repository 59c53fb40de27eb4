import Mt6582.Gps.Session

/-! # The wakelock of a session

`mtk_gps_start` acquires the wakelock and then sets `start_flag`; the handler of `HAL_CMD_MNL_DIE` releases
it and then clears the flag, without looking at either. The two stay in step exactly when a death of the
daemon finds a session to end: the release must find the flag set, or the wakelock acquired by a start
that has not set the flag yet, and the flag must be set before the handler clears it.
-/

namespace Mt6582.Gps

open Machine

/-- The wakelock is held: acquired and not released since. -/
def Held (history : List SessionEvent) : Prop := Since (fun _ e => e = .acquireWakelock) (· = .releaseWakelock) history

/-- Acquire and release alternate, an acquire first. -/
def Alternates (history : List SessionEvent) (e : SessionEvent) : Prop :=
  (e = .acquireWakelock → ¬ Held history) ∧ (e = .releaseWakelock → Held history)

/-- The calls alternate, and between framework calls the wakelock is held exactly while `start_flag` is set;
the handler that has released it is then about to clear the flag. -/
structure WakelockBalanced (s : SessionState) (trace : List SessionEvent) : Prop where
  alternates : Always Alternates [] trace
  between : s.framework = .idle → (Held trace ↔ s.startFlag = true ∧ s.gps ≠ .dieClearFlag)

/-- `mtk_gps_start` has acquired the wakelock and not set `start_flag` yet. -/
def FrameworkMode.acquired : FrameworkMode → Bool
  | .startTestStop | .startClearStop | .startSetFlag => true
  | _ => false

/-- `mtk_gps_start` has seen `start_flag` clear and not set it yet. -/
def FrameworkMode.starting : FrameworkMode → Bool
  | .idle | .startWait | .stopWait | .stopSend | .stopWrite => false
  | _ => true

/-- A daemon death ends a session: its release finds the flag set or a start past its acquire, and its store
finds the flag set. -/
def DeathEndsSession (s : SessionState) (_ : List SessionEvent) (a : SessionAction) : Prop :=
  a = .gps → (s.gps = .dieReleaseWakelock → s.startFlag = true ∨ s.framework.acquired = true) ∧
    (s.gps = .dieClearFlag → s.startFlag = true)

structure WakelockInvariant (s : SessionState) (history : List SessionEvent) : Prop where
  alternates : Always Alternates [] history
  held : Held history ↔ (s.startFlag = true ∨ s.framework.acquired = true) ∧ s.gps ≠ .dieClearFlag
  starting : s.framework.starting = true → s.startFlag = false
  clearing : s.gps = .dieClearFlag → s.startFlag = true ∨ s.framework.acquired = true

theorem held_concat {history : List SessionEvent} {e : SessionEvent} :
    Held (history ++ [e]) ↔ e = .acquireWakelock ∨ (Held history ∧ e ≠ .releaseWakelock) :=
  since_concat

theorem FrameworkMode.starting_of_acquired {mode : FrameworkMode}
    (acquired : mode.acquired = true) : mode.starting = true := by
  cases mode <;> first | rfl | cases acquired

theorem WakelockInvariant.balanced {s : SessionState} {history : List SessionEvent}
    (inv : WakelockInvariant s history) :
    WakelockBalanced s history := by
  refine ⟨inv.alternates, fun idle => ?_⟩
  rw [inv.held, idle]
  simp [FrameworkMode.acquired]

/-- The event is neither an acquire nor a release. -/
def SessionEvent.quiet : SessionEvent → Prop
  | .acquireWakelock | .releaseWakelock => False
  | _ => True

section Steps

variable {s next : SessionState} {a : SessionAction} {history out : List SessionEvent}

private theorem held_append_quiet (quiet : ∀ e ∈ out, e.quiet) :
    Held (history ++ out) ↔ Held history := by
  apply since_append_neutral
  intro e member
  have calm := quiet e member
  refine ⟨?_, fun _ => ?_⟩ <;> rintro rfl <;> exact calm

private theorem alternates_quiet (quiet : ∀ e ∈ out, e.quiet) : Always Alternates history out := by
  apply always_of_forall
  intro e member history
  have calm := quiet e member
  constructor <;> rintro rfl <;> exact calm.elim

/-- A statement of the framework acquires the wakelock, sets the flag, or changes nothing that matters to either. -/
private theorem framework_cases (stepped : gpsSession.step s a = some (next, out))
    (mine : a.byFramework) :
    (s.framework = .startAcquire ∧ next = { s with framework := .startTestStop } ∧ out = [.acquireWakelock]) ∨
    (s.framework = .startSetFlag ∧ next = { s with startFlag := true, framework := .idle } ∧ out = []) ∨
    (next.startFlag = s.startFlag ∧ next.framework.acquired = s.framework.acquired ∧
      (next.framework.starting = true → s.framework.starting = true ∨ s.startFlag = false) ∧
      ∀ e ∈ out, e.quiet) := by
  cases a with
  | callStart | callStop =>
    simp only [gpsSession, SessionState.step] at stepped
    split_ifs at stepped with idle
    all_goals
      cases stepped
      refine .inr (.inr ⟨rfl, ?_, ?_, ?_⟩)
      · simp [idle, FrameworkMode.acquired]
      · simp [idle, FrameworkMode.starting]
      · simp [SessionEvent.quiet]
  | framework =>
    cases mode :
      s.framework <;> simp only [gpsSession, SessionState.step, SessionState.frameworkStep,
      mode] at stepped
    case startAcquire =>
      cases stepped
      exact .inl ⟨rfl, rfl, rfl⟩
    case startSetFlag =>
      cases stepped
      exact .inr (.inl ⟨rfl, rfl, rfl⟩)
    all_goals try split_ifs at stepped
    all_goals cases stepped
    all_goals exact .inr (.inr ⟨rfl, by simp_all [FrameworkMode.acquired], by simp_all [FrameworkMode.starting],
      by simp [SessionEvent.quiet]⟩)
  | send result =>
    simp only [gpsSession, SessionState.step, SessionState.sendStep] at stepped
    split at stepped <;> try split_ifs at stepped
    all_goals cases stepped
    all_goals exact .inr (.inr ⟨rfl, by simp_all [FrameworkMode.acquired], by simp_all [FrameworkMode.starting],
      by simp [SessionEvent.quiet]⟩)
  | write delivered =>
    simp only [gpsSession, SessionState.step, SessionState.writeStep] at stepped
    split at stepped
    all_goals cases stepped
    all_goals exact .inr (.inr ⟨rfl, by simp_all [FrameworkMode.acquired], by simp_all [FrameworkMode.starting],
      by simp [SessionEvent.quiet]⟩)
  | control | nmea | die | icon status | gps => exact mine.elim

private theorem kept_quiet (inv : WakelockInvariant s history) (flag : next.startFlag = s.startFlag)
    (acquired : next.framework.acquired = s.framework.acquired)
    (starting : next.framework.starting = true → s.framework.starting = true ∨ s.startFlag = false)
    (clearing : next.gps = .dieClearFlag ↔ s.gps = .dieClearFlag) (quiet : ∀ e ∈ out, e.quiet) :
    WakelockInvariant next (history ++ out) := by
  refine ⟨always_append.mpr ⟨inv.alternates, alternates_quiet quiet⟩, ?_, ?_, ?_⟩
  · rw [held_append_quiet quiet, flag, acquired, Ne, clearing]
    exact inv.held
  · rw [flag]
    intro started
    rcases starting started with before | clear
    · exact inv.starting before
    · exact clear
  · rw [flag, acquired, clearing]
    exact inv.clearing

private theorem kept_framework (inv : WakelockInvariant s history)
    (stepped : gpsSession.step s a = some (next, out)) (mine : a.byFramework) :
    WakelockInvariant next (history ++ out) := by
  have gps := (gpsSession_framework stepped mine).1
  obtain ⟨mode, rfl, rfl⟩ | ⟨mode, rfl, rfl⟩ | ⟨flag, acquired, starting, quiet⟩ :=
    framework_cases stepped mine
  · have clear : s.startFlag = false := inv.starting (by rw [mode]; rfl)
    have open_ :
        ¬ (s.startFlag = true ∨ s.framework.acquired = true) := by
      simp [clear, mode, FrameworkMode.acquired]
    have free : ¬ Held history := fun held => open_ (inv.held.mp held).1
    refine ⟨always_append.mpr ⟨inv.alternates, always_cons.mpr ⟨⟨fun _ => free, nofun⟩, always_nil⟩⟩, ?_, ?_, ?_⟩
    · rw [held_concat]
      exact iff_of_true (.inl rfl) ⟨.inr rfl, fun clearing => open_ (inv.clearing clearing)⟩
    · exact fun _ => clear
    · exact fun _ => .inr rfl
  · rw [List.append_nil]
    have held := inv.held
    simp only [mode, FrameworkMode.acquired, or_true, true_and] at held
    exact ⟨inv.alternates, by rw [held]; simp, nofun, fun _ => .inl rfl⟩
  · exact kept_quiet inv flag acquired starting (by rw [gps]) quiet

private theorem kept_gps (inv : WakelockInvariant s history) (ends : DeathEndsSession s history a)
    (stepped : gpsSession.step s a = some (next, out)) (notMine : ¬ a.byFramework) :
    WakelockInvariant next (history ++ out) := by
  have ends' : s.gps = .dieReleaseWakelock ∨ s.gps = .dieClearFlag → a = .gps := by
    rintro (mode | mode) <;> cases a <;> simp_all [gpsSession, SessionState.step,
      SessionAction.byFramework]
  obtain ⟨same, ⟨rfl, rfl, mode⟩ | ⟨rfl, mode, rfl⟩ | ⟨rfl, mode, rfl⟩ | ⟨shown, flag, -, -, notClear, notClear'⟩⟩ :=
    gpsSession_gps stepped notMine
  · have still : s.nmeaStep.startFlag = s.startFlag ∧ s.nmeaStep.gps = s.gps := by
      rw [SessionState.nmeaStep]
      split <;> exact ⟨rfl, rfl⟩
    exact kept_quiet inv still.1 (by rw [same]) (fun started => .inl (same ▸ started))
      (by rw [still.2])
      (by simp [SessionEvent.quiet])
  · have justified := (ends (ends' (.inl mode))).1 mode
    have held : Held history := inv.held.mpr ⟨justified, by simp [mode]⟩
    refine ⟨always_append.mpr ⟨inv.alternates, always_cons.mpr ⟨⟨by simp, fun _ => held⟩, always_nil⟩⟩, ?_, ?_, ?_⟩
    · rw [held_concat]
      simp
    · exact inv.starting
    · exact fun _ => justified
  · have set := (ends (ends' (.inr mode))).2 mode
    have idle : ¬ s.framework.acquired = true := fun acquired =>
      absurd (set.symm.trans (inv.starting (FrameworkMode.starting_of_acquired acquired))) (by decide)
    have free : ¬ Held history := fun held => (inv.held.mp held).2 mode
    rw [List.append_nil]
    refine ⟨inv.alternates, iff_of_false free ?_, fun _ => rfl, by simp⟩
    rintro ⟨flag | acquired, -⟩
    · cases flag
    · exact idle acquired
  · refine kept_quiet inv flag (by rw [same]) (fun started => .inl (same ▸ started)) (iff_of_false notClear' notClear) ?_
    rcases shown with rfl | ⟨value, rfl⟩ <;> simp [SessionEvent.quiet]

/-- A start that is past its acquire returns by the framework's statements alone. -/
private theorem start_returns (acquired : s.framework.acquired = true) :
    ∃ more u, gpsSession.run s more = some (u, []) ∧ u.framework = .idle ∧ u.startFlag = true ∧
      u.gps = s.gps := by
  have setFlag (s : SessionState) (mode : s.framework = .startSetFlag) :
      gpsSession.run s [.framework] =
        some ({ s with startFlag := true, framework := .idle }, []) := by
    simp [System.run, gpsSession, SessionState.step, SessionState.frameworkStep, mode]
  have clearStop (s : SessionState) (mode : s.framework = .startClearStop) :
      gpsSession.run s [.framework] =
        some ({ s with conditionStop := false, framework := .startSetFlag }, []) := by
    simp [System.run, gpsSession, SessionState.step, SessionState.frameworkStep, mode]
  have testStop (mode : s.framework = .startTestStop) : gpsSession.run s [.framework] =
      some ({ s with framework := if s.conditionStop then .startClearStop else .startSetFlag }, []) := by
    simp [System.run, gpsSession, SessionState.step, SessionState.frameworkStep, mode]
  cases mode : s.framework <;> rw [mode] at acquired <;> try cases acquired
  case startTestStop =>
    have first := testStop mode
    cases condition :
      s.conditionStop <;> simp only [condition, Bool.false_eq_true, ↓reduceIte] at first
    · exact ⟨_, _, System.run_append first (setFlag _ rfl), rfl, rfl, rfl⟩
    · exact ⟨_, _, System.run_append (System.run_append first (clearStop _ rfl)) (setFlag _ rfl),
        rfl, rfl, rfl⟩
  case startClearStop =>
    exact ⟨_, _, System.run_append (clearStop s mode) (setFlag _ rfl), rfl, rfl, rfl⟩
  case startSetFlag => exact ⟨_, _, setFlag s mode, rfl, rfl, rfl⟩

private theorem balanced_broken (inv : WakelockInvariant s history)
    (stepped : gpsSession.step s a = some (next, out)) (stray : ¬ DeathEndsSession s history a) :
    ∃ more u later, gpsSession.run next more = some (u, later) ∧
      ¬ WakelockBalanced u (history ++ out ++ later) := by
  simp only [DeathEndsSession, Classical.not_imp, not_and_or] at stray
  obtain ⟨rfl, ⟨mode, unheld⟩ | ⟨mode, clear⟩⟩ := stray
  · simp only [gpsSession, SessionState.step, SessionState.gpsStep, mode] at stepped
    cases stepped
    refine ⟨[], _, [], rfl, fun balanced => unheld ?_⟩
    rw [List.append_nil] at balanced
    have held := (balanced.alternates history _ [] rfl).2 rfl
    exact (inv.held.mp held).1
  · simp only [gpsSession, SessionState.step, SessionState.gpsStep, mode] at stepped
    cases stepped
    obtain ⟨more, u, ran, idle, flag, gps⟩ :=
      start_returns (s := { s with startFlag := false, gps := .poll })
      ((inv.clearing mode).resolve_left clear)
    refine ⟨more, u, [], ran, fun balanced => ?_⟩
    have held := (balanced.between idle).mpr ⟨flag, by simp [gps]⟩
    rw [List.append_nil, List.append_nil] at held
    exact (inv.held.mp held).2 mode

end Steps

/-- In every run in which each daemon death ends a session, the wakelock calls alternate, and between framework
calls the wakelock is held exactly while `start_flag` is set. A death that does not end a session has a
continuation that breaks this. -/
theorem gpsSession_wakelock_decided {s : SessionState} (initial : s.Initial) :
    gpsSession.Decides DeathEndsSession WakelockBalanced s := by
  refine System.decides_of_invariant WakelockInvariant ?_ ?_ ?_ ?_
  · exact fun _ _ inv => inv.balanced
  · intro s history a next out inv ends stepped
    by_cases mine : a.byFramework
    · exact kept_framework inv stepped mine
    · exact kept_gps inv ends stepped mine
  · exact fun s history a next out inv stepped stray => balanced_broken inv stepped stray
  · refine ⟨always_nil, ?_, ?_, ?_⟩
    · simp [Held, not_since_nil, initial.startFlag, initial.framework, FrameworkMode.acquired]
    · exact fun _ => initial.startFlag
    · simp [initial.gps]

theorem gpsSession_wakelock_decided_fresh :
    freshSession.Initial ∧ gpsSession.Decides DeathEndsSession WakelockBalanced freshSession :=
  ⟨freshSession_initial, gpsSession_wakelock_decided freshSession_initial⟩

/-- A daemon death before the first session releases a wakelock that was never acquired. -/
theorem gpsSession_releases_unacquired :
    ¬ ∀ tape t trace, gpsSession.run freshSession tape = some (t, trace) → Always Alternates [] trace := by
  intro always
  have ran : gpsSession.run freshSession [.die, .gps, .gps, .gps, .gps, .gps] =
      some (⟨true, false, false, true, false, false, .engineOff, [], .idle, .dieClearFlag⟩,
        [.status .gps .sessionEnd, .status .gps .engineOff, .releaseWakelock]) := by decide
  have held := (always _ _ _ ran [.status .gps .sessionEnd, .status .gps .engineOff] _ [] rfl).2 rfl
  have free : ¬ Held ([.status .gps .sessionEnd] ++ [.status .gps .engineOff]) := by
    rw [held_concat,
      show [SessionEvent.status .gps .sessionEnd] = [] ++ [.status .gps .sessionEnd] from rfl,
      held_concat]
    simp [Held, not_since_nil]
  exact free held

end Mt6582.Gps

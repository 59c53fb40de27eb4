import Mt6582.Machine.System

/-! # Life cycle of the HAL: who releases what the framework waits for

`mtk_gps_init` waits on `M_INIT` for the gps thread, `mtk_gps_cleanup` on `M_CLEANUP` for the gps thread and
on `M_THREAD_EXIT` for the EPO thread that `mtk_gps_epo_interface_init` creates. Every call that can fail on
the way has an outcome of its own. Threads are counted by the stage they have reached, so that nothing is
assumed about how many of them there are. The build is the one without AT commands.
-/

namespace Mt6582.Gps

open Machine

/-- The framework's next statement; `initAbandon` and `cleanupWait` are the wait of `gps_state_done` on the
failure path of `gps_state_init` and in `mtk_gps_cleanup`. -/
inductive LifecycleMode where
  | idle
  | initOpen
  | initDaemon
  | initSocketpair
  | initCreateThread
  | initAbandon
  | initWait
  | initFinish
  | epoCreateThread
  | epoClearExitFlag
  | cleanupTestStart
  | cleanupStopWait
  | cleanupResetStop
  | cleanupTestInit
  | cleanupWait
  | cleanupFinish
  | cleanupSetExitFlag
  | cleanupExitWait
deriving DecidableEq, Repr

/-- The stages of a gps thread are its setup up to the codec socket, the release of `M_INIT`, the event loop,
and the release of `M_CLEANUP`; those of an EPO thread its loop and the release of `M_THREAD_EXIT`. -/
structure LifecycleState where
  init : Bool
  startFlag : Bool
  conditionInit : Bool
  conditionStop : Bool
  conditionCleanup : Bool
  conditionThreadExit : Bool
  quit : Bool
  threadEpoExitFlag : Bool
  gpsSetup : Nat
  gpsReady : Nat
  gpsLooping : Nat
  gpsExiting : Nat
  epoLooping : Nat
  epoExiting : Nat
  framework : LifecycleMode
deriving DecidableEq, Repr

/-- Calls of the framework (`accepted` is the check of the callbacks' size), its next statement with or
without an outcome, and the steps of the gps and EPO threads. -/
inductive LifecycleAction where
  | callInit (accepted : Bool)
  | callEpoInterfaceInit
  | callCleanup
  | framework
  | outcome (succeeded : Bool)
  | gpsCodec (listening : Bool)
  | gpsReleaseInit
  | gpsQuit
  | gpsHangUp
  | gpsReleaseCleanup
  | epoLeave
  | epoReleaseExit
deriving DecidableEq, Repr

namespace LifecycleState

variable (s : LifecycleState)

/-- The framework's statements without an outcome. -/
def frameworkStep : Option LifecycleState :=
  match s.framework with
  | .initAbandon =>
      if s.conditionCleanup then some { s with conditionCleanup := false, init := false, framework := .initWait } else none
  | .initWait => if s.conditionInit then some { s with conditionInit := false, framework := .initFinish } else none
  | .initFinish => some { s with init := true, framework := .idle }
  | .epoClearExitFlag => some { s with threadEpoExitFlag := false, framework := .idle }
  | .cleanupTestStart => some { s with framework := if s.startFlag then .cleanupStopWait else .cleanupResetStop }
  | .cleanupStopWait =>
      if s.conditionStop then some { s with conditionStop := false, framework := .cleanupResetStop } else none
  | .cleanupResetStop => some { s with conditionStop := false, framework := .cleanupTestInit }
  | .cleanupTestInit =>
      if s.init then some { s with quit := true, framework := .cleanupWait }
      else some { s with framework := .cleanupSetExitFlag }
  | .cleanupWait =>
      if s.conditionCleanup then some { s with conditionCleanup := false, framework := .cleanupFinish } else none
  | .cleanupFinish => some { s with init := false, framework := .cleanupSetExitFlag }
  | .cleanupSetExitFlag => some { s with threadEpoExitFlag := true, framework := .cleanupExitWait }
  | .cleanupExitWait =>
      if s.conditionThreadExit then some { s with conditionThreadExit := false, framework := .idle } else none
  | _ => none

/-- The calls that can fail: `open` (whose failure returns to the wait of `mtk_gps_init`), then `mtk_init`,
`socketpair` and `create_thread_cb` (whose failure goes to `gps_state_done`), and `pthread_create`. -/
def outcomeStep (succeeded : Bool) : Option LifecycleState :=
  match s.framework with
  | .initOpen => some { s with framework := if succeeded then .initDaemon else .initWait }
  | .initDaemon => some { s with framework := if succeeded then .initSocketpair else .initAbandon }
  | .initSocketpair =>
      if succeeded then some { s with quit := false, framework := .initCreateThread }
      else some { s with framework := .initAbandon }
  | .initCreateThread =>
      if succeeded then some { s with gpsSetup := s.gpsSetup + 1, framework := .initWait }
      else some { s with quit := true, framework := .initAbandon }
  | .epoCreateThread =>
      if succeeded then some { s with epoLooping := s.epoLooping + 1, framework := .epoClearExitFlag }
      else some { s with framework := .idle }
  | _ => none

def step : LifecycleAction → Option LifecycleState
  | .callInit accepted =>
      if s.framework = .idle then some (if s.init = false ∧ accepted then { s with framework := .initOpen } else s) else none
  | .callEpoInterfaceInit => if s.framework = .idle then some { s with framework := .epoCreateThread } else none
  | .callCleanup => if s.framework = .idle then some { s with framework := .cleanupTestStart } else none
  | .framework => s.frameworkStep
  | .outcome succeeded => s.outcomeStep succeeded
  | .gpsCodec listening =>
      if 0 < s.gpsSetup then
        some { s with gpsSetup := s.gpsSetup - 1, gpsReady := if listening then s.gpsReady + 1 else s.gpsReady }
      else none
  | .gpsReleaseInit =>
      if 0 < s.gpsReady then
        some { s with gpsReady := s.gpsReady - 1, gpsLooping := s.gpsLooping + 1, conditionInit := true }
      else none
  | .gpsQuit =>
      if 0 < s.gpsLooping ∧ s.quit then
        some { s with gpsLooping := s.gpsLooping - 1, gpsExiting := s.gpsExiting + 1, quit := false }
      else none
  | .gpsHangUp =>
      if 0 < s.gpsLooping then some { s with gpsLooping := s.gpsLooping - 1, gpsExiting := s.gpsExiting + 1 } else none
  | .gpsReleaseCleanup =>
      if 0 < s.gpsExiting then some { s with gpsExiting := s.gpsExiting - 1, conditionCleanup := true } else none
  | .epoLeave =>
      if 0 < s.epoLooping ∧ s.threadEpoExitFlag then
        some { s with epoLooping := s.epoLooping - 1, epoExiting := s.epoExiting + 1 }
      else none
  | .epoReleaseExit =>
      if 0 < s.epoExiting then some { s with epoExiting := s.epoExiting - 1, conditionThreadExit := true } else none

/-- A process in which nothing has been called yet. -/
def Initial : Prop := s = ⟨false, false, false, false, false, false, false, false, 0, 0, 0, 0, 0, 0, .idle⟩

/-- The framework waits for a condition that is clear, and no live thread can release it any more. -/
def Stuck : Prop :=
  (s.framework = .initWait ∧ s.conditionInit = false ∧ s.gpsSetup + s.gpsReady = 0) ∨
  ((s.framework = .initAbandon ∨ s.framework = .cleanupWait) ∧ s.conditionCleanup = false ∧
    s.gpsSetup + s.gpsReady + s.gpsLooping + s.gpsExiting = 0) ∨
  (s.framework = .cleanupExitWait ∧ s.conditionThreadExit = false ∧ s.epoLooping + s.epoExiting = 0)

/-- An EPO thread is alive, or one has left its release behind. -/
def EpoReleases : Prop := 0 < s.epoLooping + s.epoExiting ∨ s.conditionThreadExit = true

end LifecycleState

/-- The system has nothing to observe but its states. -/
def gpsLifecycle : System LifecycleState LifecycleAction Empty := ⟨fun s a => (s.step a).map fun next => (next, [])⟩

/-- Nothing fails on the way to a running gps thread, and `mtk_gps_cleanup` is called only when an EPO thread
releases its last wait. -/
def Releasable (s : LifecycleState) (_ : List Empty) : LifecycleAction → Prop
  | .outcome succeeded => s.framework = .epoCreateThread ∨ succeeded = true
  | .gpsCodec listening => listening = true
  | .callCleanup => s.EpoReleases
  | _ => True

/-- What is true of the gps threads at each statement of the framework. -/
inductive LifecyclePhase where
  | between | opening | waiting | opened | closing | closed

def LifecycleMode.phase : LifecycleMode → LifecyclePhase
  | .initOpen | .initDaemon | .initSocketpair | .initCreateThread | .initAbandon => .opening
  | .initWait => .waiting
  | .initFinish => .opened
  | .cleanupWait => .closing
  | .cleanupFinish => .closed
  | _ => .between

/-- `mtk_gps_cleanup` has not passed its last wait. -/
def LifecycleMode.cleaning : LifecycleMode → Bool
  | .cleanupTestStart | .cleanupStopWait | .cleanupResetStop | .cleanupTestInit | .cleanupWait | .cleanupFinish
  | .cleanupSetExitFlag | .cleanupExitWait => true
  | _ => false

namespace LifecycleState

variable (s : LifecycleState)

/-- No gps thread and nothing released. -/
structure Absent : Prop where
  gps : s.gpsSetup = 0 ∧ s.gpsReady = 0 ∧ s.gpsLooping = 0 ∧ s.gpsExiting = 0
  conditionInit : s.conditionInit = false
  conditionCleanup : s.conditionCleanup = false

/-- One gps thread on its way to the release of `M_INIT`. -/
structure Launching : Prop where
  gps : s.gpsSetup + s.gpsReady = 1 ∧ s.gpsLooping = 0 ∧ s.gpsExiting = 0
  conditionInit : s.conditionInit = false
  conditionCleanup : s.conditionCleanup = false

/-- One gps thread past the release of `M_INIT`: alive, or gone and `M_CLEANUP` released. -/
structure Launched (released : Bool) : Prop where
  gps : s.gpsSetup = 0 ∧ s.gpsReady = 0
  conditionInit : s.conditionInit = released
  cleanup : (s.gpsLooping + s.gpsExiting = 1 ∧ s.conditionCleanup = false) ∨
    (s.gpsLooping + s.gpsExiting = 0 ∧ s.conditionCleanup = true)

def GpsInvariant : Prop :=
  match s.framework.phase with
  | .between => if s.init then s.Launched false else s.Absent
  | .opening => s.init = false ∧ s.Absent
  | .waiting => s.init = false ∧ (s.Launching ∨ s.Launched true)
  | .opened => s.init = false ∧ s.Launched false
  | .closing => s.init = true ∧ s.Launched false
  | .closed => s.Absent

structure Invariant : Prop where
  startFlag : s.startFlag = false
  abandon : s.framework ≠ .initAbandon
  gps : s.GpsInvariant
  epo : s.framework.cleaning = true → s.EpoReleases

end LifecycleState

section Steps

variable {s next : LifecycleState} {a : LifecycleAction}

theorem LifecycleState.Invariant.not_stuck (inv : s.Invariant) : ¬ s.Stuck := by
  rintro (⟨mode, clear, none⟩ | ⟨mode | mode, clear, none⟩ | ⟨mode, clear, none⟩)
  · have gps := inv.gps
    simp only [LifecycleState.GpsInvariant, mode, LifecycleMode.phase] at gps
    obtain ⟨-, launching | launched⟩ := gps
    · have one := launching.gps.1
      omega
    · exact absurd (clear.symm.trans launched.conditionInit) nofun
  · exact inv.abandon mode
  · have gps := inv.gps
    simp only [LifecycleState.GpsInvariant, mode, LifecycleMode.phase] at gps
    rcases gps.2.cleanup with ⟨one, -⟩ | ⟨-, released⟩
    · omega
    · exact absurd (clear.symm.trans released) nofun
  · rcases inv.epo (by rw [mode]; rfl) with alive | released
    · omega
    · exact absurd (clear.symm.trans released) nofun

/-- A step within a phase of the framework carries over what it keeps of the gps threads. -/
private theorem gpsInvariant_frame (before : s.GpsInvariant)
    (phase : next.framework.phase = s.framework.phase) (init : next.init = s.init)
    (absent : s.Absent → next.Absent)
    (launching : s.Launching → next.Launching ∨ next.Launched true)
    (launched : ∀ released, s.Launched released → next.Launched released) : next.GpsInvariant := by
  rw [LifecycleState.GpsInvariant] at before ⊢
  rw [phase, init]
  cases atPhase : s.framework.phase <;> simp only [atPhase] at before ⊢
  case between =>
    split at before
    · next started =>
      rw [if_pos started]
      exact launched false before
    · next stopped =>
      rw [if_neg stopped]
      exact absent before
  case opening => exact ⟨before.1, absent before.2⟩
  case waiting =>
    refine ⟨before.1, ?_⟩
    rcases before.2 with onItsWay | released
    · exact launching onItsWay
    · exact .inr (launched true released)
  case opened => exact ⟨before.1, launched false before.2⟩
  case closing => exact ⟨before.1, launched false before.2⟩
  case closed => exact absent before

/-- The step touches no gps thread and none of their conditions. -/
structure SameGps (s next : LifecycleState) : Prop where
  threads : next.gpsSetup = s.gpsSetup ∧ next.gpsReady = s.gpsReady ∧ next.gpsLooping = s.gpsLooping ∧
    next.gpsExiting = s.gpsExiting
  conditionInit : next.conditionInit = s.conditionInit
  conditionCleanup : next.conditionCleanup = s.conditionCleanup

theorem SameGps.absent (same : SameGps s next) (absent : s.Absent) : next.Absent := by
  obtain ⟨⟨setup, ready, looping, exiting⟩, init, cleanup⟩ := same
  exact ⟨by rw [setup, ready, looping, exiting]; exact absent.gps, init.trans absent.conditionInit,
    cleanup.trans absent.conditionCleanup⟩

theorem SameGps.launching (same : SameGps s next) (launching : s.Launching) : next.Launching := by
  obtain ⟨⟨setup, ready, looping, exiting⟩, init, cleanup⟩ := same
  exact ⟨by rw [setup, ready, looping, exiting]; exact launching.gps, init.trans launching.conditionInit,
    cleanup.trans launching.conditionCleanup⟩

theorem SameGps.launched (same : SameGps s next) {released : Bool}
    (launched : s.Launched released) :
    next.Launched released := by
  obtain ⟨⟨setup, ready, looping, exiting⟩, init, cleanup⟩ := same
  exact ⟨by rw [setup, ready]; exact launched.gps, init.trans launched.conditionInit,
    by rw [looping, exiting, cleanup]; exact launched.cleanup⟩

/-- A statement of the framework that leaves the gps threads alone and stays within a phase. -/
private theorem kept_same (inv : s.Invariant) (same : SameGps s next)
    (phase : next.framework.phase = s.framework.phase) (init : next.init = s.init)
    (flag : next.startFlag = s.startFlag) (abandon : next.framework ≠ .initAbandon)
    (epo : next.framework.cleaning = true → next.EpoReleases) : next.Invariant := by
  refine ⟨flag.trans inv.startFlag, abandon, ?_, epo⟩
  exact gpsInvariant_frame inv.gps phase init same.absent
    (fun launching => .inl (same.launching launching))
    (fun _ launched => same.launched launched)

private theorem kept_gps_thread (inv : s.Invariant) (mode : next.framework = s.framework)
    (init : next.init = s.init) (flag : next.startFlag = s.startFlag)
    (epo : next.EpoReleases ↔ s.EpoReleases) (present : ¬ s.Absent)
    (launching : s.Launching → next.Launching ∨ next.Launched true)
    (launched : ∀ released, s.Launched released → next.Launched released) : next.Invariant := by
  refine ⟨flag.trans inv.startFlag, mode ▸ inv.abandon, ?_, ?_⟩
  · exact gpsInvariant_frame inv.gps (by rw [mode]) init (fun absent => (present absent).elim) launching launched
  · rw [mode, epo]
    exact inv.epo

private theorem kept_epo_thread (inv : s.Invariant) (looping exiting : Nat) (released : Bool)
    (releases : 0 < looping + exiting ∨ released = true) :
    ({ s with epoLooping := looping, epoExiting := exiting, conditionThreadExit := released } :
      LifecycleState).Invariant := by
  exact kept_same inv ⟨⟨rfl, rfl, rfl, rfl⟩, rfl, rfl⟩ rfl rfl rfl inv.abandon fun _ => releases

private theorem kept_gps_leaves (inv : s.Invariant) (looping : 0 < s.gpsLooping) (quit : Bool) :
    ({ s with gpsLooping := s.gpsLooping - 1, gpsExiting := s.gpsExiting + 1, quit := quit } :
      LifecycleState).Invariant := by
  refine kept_gps_thread inv rfl rfl rfl Iff.rfl ?_ ?_ ?_
  · rintro ⟨gps, -⟩
    omega
  · rintro ⟨gps, -⟩
    omega
  · rintro released ⟨gps, init, cleanup⟩
    have moved : s.gpsLooping - 1 + (s.gpsExiting + 1) = s.gpsLooping + s.gpsExiting := by omega
    exact ⟨gps, init, by dsimp only; rwa [moved]⟩

private theorem kept_threads (inv : s.Invariant) (stepped : s.step a = some next)
    (thread : a = .gpsCodec true ∨ a = .gpsReleaseInit ∨ a = .gpsQuit ∨ a = .gpsHangUp ∨ a = .gpsReleaseCleanup ∨
      a = .epoLeave ∨ a = .epoReleaseExit) : next.Invariant := by
  rcases thread with rfl | rfl | rfl | rfl | rfl | rfl | rfl
  all_goals
    simp only [LifecycleState.step] at stepped
    split_ifs at stepped with enabled
    cases stepped
  · refine kept_gps_thread inv rfl rfl rfl Iff.rfl ?_ ?_ ?_
    · rintro ⟨gps, -⟩
      omega
    · rintro ⟨gps, init, cleanup⟩
      exact .inl ⟨⟨by dsimp only [if_true]; omega, gps.2⟩, init, cleanup⟩
    · rintro released ⟨gps, -⟩
      omega
  · refine kept_gps_thread inv rfl rfl rfl Iff.rfl ?_ ?_ ?_
    · rintro ⟨gps, -⟩
      omega
    · rintro ⟨gps, init, cleanup⟩
      exact .inr ⟨⟨by dsimp only; omega, by dsimp only; omega⟩, rfl, .inl ⟨by dsimp only; omega, cleanup⟩⟩
    · rintro released ⟨gps, -⟩
      omega
  · exact kept_gps_leaves inv enabled.1 false
  · exact kept_gps_leaves inv enabled s.quit
  · refine kept_gps_thread inv rfl rfl rfl Iff.rfl ?_ ?_ ?_
    · rintro ⟨gps, -⟩
      omega
    · rintro ⟨gps, -⟩
      omega
    · rintro released ⟨gps, init, cleanup⟩
      exact ⟨gps, init, .inr ⟨by dsimp only; omega, rfl⟩⟩
  · exact kept_epo_thread inv _ _ _ (.inl (by omega))
  · exact kept_epo_thread inv _ _ _ (.inr rfl)

private theorem kept_call (inv : s.Invariant) (allowed : Releasable s [] a)
    (stepped : s.step a = some next)
    (call : (∃ accepted, a = .callInit accepted) ∨ a = .callEpoInterfaceInit ∨ a = .callCleanup) :
    next.Invariant := by
  obtain ⟨accepted, rfl⟩ | rfl | rfl := call
  · simp only [LifecycleState.step] at stepped
    split_ifs at stepped with idle fresh <;> cases stepped
    · have absent := inv.gps
      simp only [LifecycleState.GpsInvariant, idle, LifecycleMode.phase, fresh.1,
        Bool.false_eq_true, ↓reduceIte] at absent
      exact ⟨inv.startFlag, nofun, ⟨fresh.1, absent.1, absent.2, absent.3⟩, nofun⟩
    · exact inv
  · simp only [LifecycleState.step] at stepped
    split_ifs at stepped with idle
    cases stepped
    exact kept_same inv ⟨⟨rfl, rfl, rfl, rfl⟩, rfl, rfl⟩ (by rw [idle]; rfl) rfl rfl nofun nofun
  · simp only [LifecycleState.step] at stepped
    split_ifs at stepped with idle
    cases stepped
    exact kept_same inv ⟨⟨rfl, rfl, rfl, rfl⟩, rfl, rfl⟩ (by rw [idle]; rfl) rfl rfl nofun
      (fun _ => allowed)

private theorem kept_outcome (inv : s.Invariant) {succeeded : Bool}
    (allowed : Releasable s [] (.outcome succeeded))
    (stepped : s.outcomeStep succeeded = some next) : next.Invariant := by
  cases mode : s.framework <;> simp only [LifecycleState.outcomeStep, mode] at stepped
  case initOpen | initDaemon | initSocketpair =>
    obtain rfl := allowed.resolve_left (by rw [mode]; nofun)
    cases stepped
    exact kept_same inv ⟨⟨rfl, rfl, rfl, rfl⟩, rfl, rfl⟩ (by rw [mode]; rfl) rfl rfl nofun nofun
  case initCreateThread =>
    obtain rfl := allowed.resolve_left (by rw [mode]; nofun)
    cases stepped
    have gps := inv.gps
    simp only [LifecycleState.GpsInvariant, mode, LifecycleMode.phase] at gps
    obtain ⟨init, ⟨setup, ready, looping, exiting⟩, conditionInit, conditionCleanup⟩ := gps
    refine ⟨inv.startFlag, nofun, ⟨init, .inl ⟨⟨?_, looping, exiting⟩, conditionInit, conditionCleanup⟩⟩, nofun⟩
    dsimp only
    omega
  case epoCreateThread =>
    split_ifs at stepped <;> cases stepped
    all_goals
      exact kept_same inv ⟨⟨rfl, rfl, rfl, rfl⟩, rfl, rfl⟩ (by rw [mode]; rfl) rfl rfl nofun nofun
  all_goals cases stepped

private theorem kept_framework_statement (inv : s.Invariant)
    (stepped : s.frameworkStep = some next) : next.Invariant := by
  have gps := inv.gps
  cases mode : s.framework <;> simp only [LifecycleState.frameworkStep, mode] at stepped
  case initAbandon => exact absurd mode inv.abandon
  case initWait =>
    split_ifs at stepped with released
    cases stepped
    simp only [LifecycleState.GpsInvariant, mode, LifecycleMode.phase] at gps
    obtain ⟨init, launching | launched⟩ := gps
    · exact absurd (launching.conditionInit.symm.trans released) nofun
    · exact ⟨inv.startFlag, nofun, ⟨init, launched.gps, rfl, launched.cleanup⟩, nofun⟩
  case initFinish =>
    cases stepped
    simp only [LifecycleState.GpsInvariant, mode, LifecycleMode.phase] at gps
    exact ⟨inv.startFlag, nofun, ⟨gps.2.gps, gps.2.conditionInit, gps.2.cleanup⟩, nofun⟩
  case cleanupTestInit =>
    have cleaning : s.EpoReleases := inv.epo (by rw [mode]; rfl)
    simp only [LifecycleState.GpsInvariant, mode, LifecycleMode.phase] at gps
    split_ifs at stepped with started
    · cases stepped
      rw [if_pos started] at gps
      exact ⟨inv.startFlag, nofun, ⟨started, gps.gps, gps.conditionInit, gps.cleanup⟩,
        fun _ => cleaning⟩
    · cases stepped
      exact kept_same inv ⟨⟨rfl, rfl, rfl, rfl⟩, rfl, rfl⟩ (by rw [mode]; rfl) rfl rfl nofun
        (fun _ => cleaning)
  case cleanupWait =>
    have cleaning : s.EpoReleases := inv.epo (by rw [mode]; rfl)
    simp only [LifecycleState.GpsInvariant, mode, LifecycleMode.phase] at gps
    split_ifs at stepped with released
    cases stepped
    obtain ⟨-, ⟨setup, ready⟩, conditionInit, ⟨-, clear⟩ | ⟨gone, -⟩⟩ := gps
    · exact absurd (clear.symm.trans released) nofun
    · refine ⟨inv.startFlag, nofun, ⟨⟨setup, ready, ?_, ?_⟩, conditionInit, rfl⟩,
        fun _ => cleaning⟩ <;> dsimp only <;> omega
  case cleanupFinish =>
    have cleaning : s.EpoReleases := inv.epo (by rw [mode]; rfl)
    cases stepped
    simp only [LifecycleState.GpsInvariant, mode, LifecycleMode.phase] at gps
    exact ⟨inv.startFlag, nofun, ⟨gps.gps, gps.conditionInit, gps.conditionCleanup⟩,
      fun _ => cleaning⟩
  case epoClearExitFlag | cleanupExitWait =>
    try split_ifs at stepped
    cases stepped
    exact kept_same inv ⟨⟨rfl, rfl, rfl, rfl⟩, rfl, rfl⟩ (by rw [mode]; rfl) rfl rfl nofun nofun
  case cleanupTestStart =>
    have cleaning : s.EpoReleases := inv.epo (by rw [mode]; rfl)
    cases stepped
    rw [inv.startFlag]
    exact kept_same inv ⟨⟨rfl, rfl, rfl, rfl⟩, rfl,
      rfl⟩ (by rw [mode]; rfl) rfl inv.startFlag.symm nofun (fun _ => cleaning)
  case cleanupStopWait | cleanupResetStop | cleanupSetExitFlag =>
    have cleaning : s.EpoReleases := inv.epo (by rw [mode]; rfl)
    try split_ifs at stepped
    cases stepped
    exact kept_same inv ⟨⟨rfl, rfl, rfl, rfl⟩, rfl, rfl⟩ (by rw [mode]; rfl) rfl rfl nofun
      (fun _ => cleaning)
  all_goals cases stepped

private theorem kept_lifecycle (inv : s.Invariant) (allowed : Releasable s [] a)
    (stepped : s.step a = some next) :
    next.Invariant := by
  cases a with
  | callInit accepted => exact kept_call inv allowed stepped (.inl ⟨accepted, rfl⟩)
  | callEpoInterfaceInit => exact kept_call inv allowed stepped (.inr (.inl rfl))
  | callCleanup => exact kept_call inv allowed stepped (.inr (.inr rfl))
  | framework => exact kept_framework_statement inv stepped
  | outcome succeeded => exact kept_outcome inv allowed stepped
  | gpsCodec listening =>
    obtain rfl : listening = true := allowed
    exact kept_threads inv stepped (.inl rfl)
  | gpsReleaseInit | gpsQuit | gpsHangUp | gpsReleaseCleanup | epoLeave | epoReleaseExit =>
    exact kept_threads inv stepped (by simp)

end Steps

section Failures

variable {s next : LifecycleState}

private theorem step_some {a : LifecycleAction} (stepped : s.step a = some next) :
    gpsLifecycle.run s [a] = some (next, []) := by
  simp [System.run, gpsLifecycle, stepped]

/-- The run can get stuck. -/
def CanStick (s : LifecycleState) : Prop := ∃ more u, gpsLifecycle.run s more = some (u, []) ∧ u.Stuck

private theorem canStick_step {a : LifecycleAction} (stepped : s.step a = some next)
    (sticks : CanStick next) : CanStick s := by
  obtain ⟨more, u, ran, stuck⟩ := sticks
  exact ⟨a :: more, u, by simpa using System.run_append (step_some stepped) ran, stuck⟩

/-- Without an EPO thread, `mtk_gps_cleanup` sticks at its last wait. -/
private theorem canStick_setExitFlag (mode : s.framework = .cleanupSetExitFlag)
    (unreleased : ¬ s.EpoReleases) : CanStick s := by
  have stepped :
      s.step .framework =
      some { s with threadEpoExitFlag := true, framework := .cleanupExitWait } := by
    simp [LifecycleState.step, LifecycleState.frameworkStep, mode]
  simp only [LifecycleState.EpoReleases, not_or, Bool.not_eq_true] at unreleased
  apply canStick_step stepped
  exact ⟨[], _, rfl, .inr (.inr ⟨rfl, unreleased.2, by dsimp only; omega⟩)⟩

private theorem canStick_released (mode : s.framework = .cleanupWait)
    (released : s.conditionCleanup = true) (unreleased : ¬ s.EpoReleases) : CanStick s := by
  have waited :
      s.step .framework =
      some { s with conditionCleanup := false, framework := .cleanupFinish } := by
    simp [LifecycleState.step, LifecycleState.frameworkStep, mode, released]
  apply canStick_step waited
  apply canStick_step (a := .framework) rfl
  exact canStick_setExitFlag rfl unreleased

private theorem canStick_exiting (mode : s.framework = .cleanupWait) (exiting : 0 < s.gpsExiting)
    (unreleased : ¬ s.EpoReleases) : CanStick s := by
  have stepped : s.step .gpsReleaseCleanup =
      some { s with gpsExiting := s.gpsExiting - 1, conditionCleanup := true } := if_pos exiting
  apply canStick_step stepped
  exact canStick_released mode rfl unreleased

private theorem canStick_launched (mode : s.framework = .cleanupWait) (launched : s.Launched false)
    (unreleased : ¬ s.EpoReleases) : CanStick s := by
  obtain ⟨-, -, ⟨alive, -⟩ | ⟨-, released⟩⟩ := launched
  · rcases Nat.eq_zero_or_pos s.gpsExiting with none | exiting
    · have stepped : s.step .gpsHangUp =
          some { s with gpsLooping := s.gpsLooping - 1, gpsExiting := s.gpsExiting + 1 } :=
        if_pos (by omega)
      apply canStick_step stepped
      exact canStick_exiting mode (Nat.succ_pos _) unreleased
    · exact canStick_exiting mode exiting unreleased
  · exact canStick_released mode released unreleased

private theorem canStick_cleanup (inv : s.Invariant) (idle : s.framework = .idle)
    (unreleased : ¬ s.EpoReleases) :
    CanStick { s with framework := .cleanupTestStart } := by
  have tested : ({ s with framework := .cleanupTestStart } : LifecycleState).step .framework =
      some { s with framework := .cleanupResetStop } := by
    simp [LifecycleState.step, LifecycleState.frameworkStep, inv.startFlag]
  apply canStick_step tested
  apply canStick_step (a := .framework) rfl
  have gps := inv.gps
  simp only [LifecycleState.GpsInvariant, idle, LifecycleMode.phase] at gps
  rcases Bool.eq_false_or_eq_true s.init with started | started
  · rw [if_pos started] at gps
    have stepped :
        ({ s with conditionStop := false, framework := .cleanupTestInit } : LifecycleState).step .framework =
        some { s with conditionStop := false, quit := true, framework := .cleanupWait } := by
      simp [LifecycleState.step, LifecycleState.frameworkStep, started]
    apply canStick_step stepped
    exact canStick_launched rfl ⟨gps.gps, gps.conditionInit, gps.cleanup⟩ unreleased
  · have stepped :
        ({ s with conditionStop := false, framework := .cleanupTestInit } : LifecycleState).step .framework =
        some { s with conditionStop := false, framework := .cleanupSetExitFlag } := by
      simp [LifecycleState.step, LifecycleState.frameworkStep, started]
    apply canStick_step stepped
    exact canStick_setExitFlag rfl unreleased

/-- A failure on the way to a running gps thread leaves the framework stuck at once. -/
private theorem stuck_of_failed_outcome (inv : s.Invariant) (mode : s.framework ≠ .epoCreateThread)
    (stepped : s.outcomeStep false = some next) : next.Stuck := by
  have gps := inv.gps
  cases opening : s.framework <;> simp only [LifecycleState.outcomeStep, opening] at stepped
  case initOpen | initDaemon | initSocketpair | initCreateThread =>
    cases stepped
    simp only [LifecycleState.GpsInvariant, opening, LifecycleMode.phase] at gps
    obtain ⟨-, ⟨setup, ready, looping, exiting⟩, conditionInit, conditionCleanup⟩ := gps
    first
    | exact .inl ⟨rfl, conditionInit, by dsimp only; omega⟩
    | exact .inr (.inl ⟨.inl rfl, conditionCleanup, by dsimp only; omega⟩)
  case epoCreateThread => exact absurd opening mode
  all_goals cases stepped

private theorem stuck_of_failed_codec (inv : s.Invariant)
    (stepped : s.step (.gpsCodec false) = some next) : next.Stuck := by
  simp only [LifecycleState.step, Bool.false_eq_true, ↓reduceIte] at stepped
  split_ifs at stepped with enabled
  cases stepped
  have gps := inv.gps
  rw [LifecycleState.GpsInvariant] at gps
  have waiting : s.framework = .initWait ∧ s.Launching := by
    cases mode : s.framework <;> simp only [mode, LifecycleMode.phase] at gps
    case initWait =>
      obtain ⟨-, launching | launched⟩ := gps
      · exact ⟨rfl, launching⟩
      · have none := launched.gps.1
        omega
    all_goals
      exfalso
      try split at gps
    all_goals first
      | have none := gps.gps.1; omega
      | have none := gps.2.gps.1; omega
  obtain ⟨mode, gps, conditionInit, -⟩ := waiting
  exact .inl ⟨mode, conditionInit, by dsimp only; omega⟩

end Failures

/-- In every run in which no step to a running gps thread fails and `mtk_gps_cleanup` is called only when an EPO
thread is alive or has left its release behind, the framework never waits without a releaser. Any other step
has a continuation in which it does. -/
theorem gpsLifecycle_releaser_decided {s : LifecycleState} (initial : s.Initial) :
    gpsLifecycle.Decides Releasable (fun s _ => ¬ s.Stuck) s := by
  refine System.decides_of_invariant (fun s _ => s.Invariant) ?_ ?_ ?_ ?_
  · exact fun _ _ inv => inv.not_stuck
  · intro s history a next out inv allowed stepped
    obtain ⟨next, moved, equal⟩ := Option.map_eq_some_iff.mp stepped
    cases equal
    exact kept_lifecycle inv (by cases a <;> exact allowed) moved
  · intro s history a next out inv stepped refused
    obtain ⟨next, moved, equal⟩ := Option.map_eq_some_iff.mp stepped
    cases equal
    suffices sticks : CanStick next by
      obtain ⟨more, u, ran, stuck⟩ := sticks
      exact ⟨more, u, [], ran, not_not_intro stuck⟩
    cases a with
    | outcome succeeded =>
      simp only [Releasable, not_or, Bool.not_eq_true] at refused
      obtain ⟨mode, rfl⟩ := refused
      exact ⟨[], next, rfl, stuck_of_failed_outcome inv mode moved⟩
    | gpsCodec listening =>
      obtain rfl : listening = false := Bool.not_eq_true _ |>.mp refused
      exact ⟨[], next, rfl, stuck_of_failed_codec inv moved⟩
    | callCleanup =>
      simp only [LifecycleState.step] at moved
      split_ifs at moved with idle
      cases moved
      exact canStick_cleanup inv idle refused
    | callInit accepted => exact absurd trivial refused
    | callEpoInterfaceInit | framework | gpsReleaseInit | gpsQuit | gpsHangUp | gpsReleaseCleanup | epoLeave
    | epoReleaseExit => exact absurd trivial refused
  · rw [show s = _ from initial]
    exact ⟨rfl, nofun, ⟨⟨rfl, rfl, rfl, rfl⟩, rfl, rfl⟩, nofun⟩

/-- A fresh process. -/
def freshLifecycle : LifecycleState := ⟨false, false, false, false, false, false, false, false, 0, 0, 0, 0, 0, 0, .idle⟩

theorem gpsLifecycle_releaser_decided_fresh :
    freshLifecycle.Initial ∧ gpsLifecycle.Decides Releasable (fun s _ => ¬ s.Stuck) freshLifecycle :=
  ⟨rfl, gpsLifecycle_releaser_decided rfl⟩

/-- When `open` fails, `mtk_gps_init` waits for a gps thread that was never created. -/
theorem gpsLifecycle_stuck_without_device :
    ¬ ∀ tape t trace, gpsLifecycle.run freshLifecycle tape = some (t, trace) → ¬ t.Stuck := by
  intro never
  have ran : gpsLifecycle.run freshLifecycle [.callInit true, .outcome false] =
      some ({ freshLifecycle with framework := .initWait }, []) := by decide
  exact never _ _ _ ran (.inl ⟨rfl, rfl, rfl⟩)

end Mt6582.Gps

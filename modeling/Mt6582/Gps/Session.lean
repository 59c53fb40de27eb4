import Mt6582.Gps.Thread

/-! # Sessions: the framework's start and stop against the gps thread

`mtk_gps_start` and `mtk_gps_stop` run on the framework's thread, the NMEA events, control commands and
daemon messages on the gps thread. Each statement that touches a variable of both threads (`start_flag`,
`sta`, the conditions of `lock_for_sync`) or calls back is a step of its own, so that the two threads
interleave at every such point. `flag_unlock` and `started` belong to the gps thread alone. The EPO
requests inside `mtk_gps_start` touch none of these variables.
-/

namespace Mt6582.Gps

open Machine

inductive GpsStatusValue where
  | none | sessionBegin | sessionEnd | engineOn | engineOff
deriving DecidableEq, Repr

/-- The outcome of `mtk_daemon_send`: sent, failed with `EPIPE`, failed otherwise. -/
inductive SendResult where
  | sent | brokenPipe | failed
deriving DecidableEq, Repr

/-- The framework's next statement. -/
inductive FrameworkMode where
  | idle
  | startWait
  | startSend (idx : Nat)
  | startCondition
  | startWrite
  | startEngineOn
  | startReportOn
  | startSessionBegin
  | startReportBegin
  | startAcquire
  | startTestStop
  | startClearStop
  | startSetFlag
  | stopWait
  | stopSend
  | stopWrite
deriving DecidableEq, Repr

/-- The gps thread's next statement: the rest of `HAL_CMD_MNL_DIE` or of `HAL_CMD_GPS_ICON`, which has
stored the first of its two statuses when it starts. -/
inductive GpsMode where
  | poll
  | dieReportEnd
  | dieEngineOff
  | dieReportOff
  | dieReleaseStop
  | dieReleaseWakelock
  | dieClearFlag
  | iconReport (second : GpsStatusValue)
  | iconStore (second : GpsStatusValue)
  | iconReportSecond
deriving DecidableEq, Repr

structure SessionState where
  init : Bool
  startFlag : Bool
  conditionStart : Bool
  conditionStop : Bool
  flagUnlock : Bool
  started : Bool
  sta : GpsStatusValue
  control : List Command
  framework : FrameworkMode
  gps : GpsMode
deriving DecidableEq, Repr

/-- Calls of the framework and its next statement, with the outcome of a send or write where there is
one; then the events of the gps thread and its next statement. -/
inductive SessionAction where
  | callStart
  | callStop
  | framework
  | send (result : SendResult)
  | write (delivered : Bool)
  | control
  | nmea
  | die
  | icon (status : Int)
  | gps
deriving DecidableEq, Repr

inductive Caller where
  | framework | gps
deriving DecidableEq, Repr

inductive SessionEvent where
  | enterStart
  | sentStart
  | nmea
  | status (caller : Caller) (value : GpsStatusValue)
  | acquireWakelock
  | releaseWakelock
deriving DecidableEq, Repr

/-- The retries of `mtk_start` after a broken pipe. -/
def startRetries : Nat := 5

namespace SessionState

variable (s : SessionState)

/-- A statement of `mtk_gps_start` or `mtk_gps_stop`; `get_condition` blocks until its condition is set. -/
def frameworkStep : Option (SessionState × List SessionEvent) :=
  match s.framework with
  | .startWait => some ({ s with framework := if s.startFlag then .startWait else .startSend 0 }, [])
  | .startCondition =>
      if s.conditionStart then some ({ s with conditionStart := false, framework := .startWrite }, []) else none
  | .startEngineOn => some ({ s with sta := .engineOn, framework := .startReportOn }, [])
  | .startReportOn => some ({ s with framework := .startSessionBegin }, [.status .framework s.sta])
  | .startSessionBegin => some ({ s with sta := .sessionBegin, framework := .startReportBegin }, [])
  | .startReportBegin => some ({ s with framework := .startAcquire }, [.status .framework s.sta])
  | .startAcquire => some ({ s with framework := .startTestStop }, [.acquireWakelock])
  | .startTestStop => some ({ s with framework := if s.conditionStop then .startClearStop else .startSetFlag }, [])
  | .startClearStop => some ({ s with conditionStop := false, framework := .startSetFlag }, [])
  | .startSetFlag => some ({ s with startFlag := true, framework := .idle }, [])
  | .stopWait => some ({ s with framework := if s.startFlag then .stopSend else .stopWait }, [])
  | _ => none

/-- `mtk_start` retries a broken pipe; any other failure ends the call. -/
def sendStep (result : SendResult) : Option (SessionState × List SessionEvent) :=
  match s.framework, result with
  | .startSend _, .sent => some ({ s with framework := .startCondition }, [.sentStart])
  | .startSend idx, .brokenPipe =>
      some ({ s with framework := if idx < startRetries then .startSend (idx + 1) else .idle }, [])
  | .startSend _, .failed => some ({ s with framework := .idle }, [])
  | .stopSend, .sent => some ({ s with framework := .stopWrite }, [])
  | .stopSend, _ => some ({ s with framework := .idle }, [])
  | _, _ => none

/-- `gps_state_start` and `gps_state_stop`: a write that fails is only logged. -/
def writeStep (delivered : Bool) : Option (SessionState × List SessionEvent) :=
  match s.framework with
  | .startWrite =>
      some ({ s with control := if delivered then s.control ++ [.start] else s.control, framework := .startEngineOn }, [])
  | .stopWrite =>
      some ({ s with control := if delivered then s.control ++ [.stop] else s.control, framework := .idle }, [])
  | _ => none

/-- `started` after a command. -/
def commandStarted (started : Bool) : Command → Bool
  | .start => true
  | .stop => false
  | _ => started

/-- A statement of the handlers of `HAL_CMD_MNL_DIE` and `HAL_CMD_GPS_ICON`. -/
def gpsStep : Option (SessionState × List SessionEvent) :=
  match s.gps with
  | .poll => none
  | .dieReportEnd => some ({ s with gps := .dieEngineOff }, [.status .gps s.sta])
  | .dieEngineOff => some ({ s with sta := .engineOff, gps := .dieReportOff }, [])
  | .dieReportOff => some ({ s with gps := .dieReleaseStop }, [.status .gps s.sta])
  | .dieReleaseStop => some ({ s with conditionStop := true, gps := .dieReleaseWakelock }, [])
  | .dieReleaseWakelock => some ({ s with gps := .dieClearFlag }, [.releaseWakelock])
  | .dieClearFlag => some ({ s with startFlag := false, gps := .poll }, [])
  | .iconReport second => some ({ s with gps := .iconStore second }, [.status .gps s.sta])
  | .iconStore second => some ({ s with sta := second, gps := .iconReportSecond }, [])
  | .iconReportSecond => some ({ s with gps := .poll }, [.status .gps s.sta])

/-- `HAL_CMD_GPS_ICON`: statuses are reported only while no session is started. -/
def iconStep (status : Int) : SessionState :=
  if s.started = true then s
  else if status = 1 then { s with sta := .engineOn, gps := .iconReport .sessionBegin }
  else if status = 0 then { s with sta := .engineOff, gps := .iconReport .sessionEnd }
  else s

/-- An event on `gps_fd`: the first one since `flag_unlock` was cleared releases the start. -/
def nmeaStep : SessionState :=
  if s.flagUnlock then s else { s with conditionStart := true, flagUnlock := true }

def step : SessionAction → Option (SessionState × List SessionEvent)
  | .callStart =>
      if s.framework = .idle then some (if s.init then { s with framework := .startWait } else s, [.enterStart]) else none
  | .callStop => if s.framework = .idle then some (if s.init then { s with framework := .stopWait } else s, []) else none
  | .framework => s.frameworkStep
  | .send result => s.sendStep result
  | .write delivered => s.writeStep delivered
  | .control =>
      match s.gps, s.control with
      | .poll, cmd :: rest => some ({ s with started := commandStarted s.started cmd, control := rest }, [])
      | _, _ => none
  | .nmea => if s.gps = .poll then some (s.nmeaStep, [.nmea]) else none
  | .die =>
    if s.gps = .poll then some ({ s with flagUnlock := false, sta := .sessionEnd, gps := .dieReportEnd }, []) else none
  | .icon status => if s.gps = .poll then some (s.iconStep status, []) else none
  | .gps => s.gpsStep

/-- The state after `mtk_gps_init` in a fresh process. -/
structure Initial : Prop where
  startFlag : s.startFlag = false
  conditionStart : s.conditionStart = false
  conditionStop : s.conditionStop = false
  flagUnlock : s.flagUnlock = false
  started : s.started = false
  control : s.control = []
  framework : s.framework = .idle
  gps : s.gps = .poll

end SessionState

def gpsSession : System SessionState SessionAction SessionEvent := ⟨SessionState.step⟩

/-- An initialised process before its first session. -/
def freshSession : SessionState := ⟨true, false, false, false, false, false, .none, [], .idle, .poll⟩

theorem freshSession_initial : freshSession.Initial := ⟨rfl, rfl, rfl, rfl, rfl, rfl, rfl, rfl⟩

/-- The actions of the framework's thread. -/
def SessionAction.byFramework : SessionAction → Prop
  | .callStart | .callStop | .framework | .send _ | .write _ => True
  | _ => False

section Steps

variable {s next : SessionState} {a : SessionAction} {out : List SessionEvent}

/-- A step of the framework's thread leaves the gps thread and the release of the start alone, except that
the wait for the start takes the release. -/
theorem gpsSession_framework (stepped : gpsSession.step s a = some (next, out))
    (mine : a.byFramework) :
    next.gps = s.gps ∧ (next.conditionStart = true → s.conditionStart = true) := by
  cases a with
  | callStart | callStop =>
    simp only [gpsSession, SessionState.step] at stepped
    split_ifs at stepped <;> cases stepped <;> exact ⟨rfl, id⟩
  | framework =>
    simp only [gpsSession, SessionState.step, SessionState.frameworkStep] at stepped
    split at stepped <;> try split_ifs at stepped
    all_goals cases stepped
    all_goals exact ⟨rfl, by simp⟩
  | send result =>
    simp only [gpsSession, SessionState.step, SessionState.sendStep] at stepped
    split at stepped <;> cases stepped <;> exact ⟨rfl, id⟩
  | write delivered =>
    simp only [gpsSession, SessionState.step, SessionState.writeStep] at stepped
    split at stepped <;> cases stepped <;> exact ⟨rfl, id⟩
  | control | nmea | die | icon status | gps => exact mine.elim

/-- A step of the gps thread leaves the framework's thread alone. It handles an NMEA event, releases the
wakelock, clears `start_flag`, or touches none of what the other thread waits for. -/
theorem gpsSession_gps (stepped : gpsSession.step s a = some (next, out))
    (notMine : ¬ a.byFramework) :
    next.framework = s.framework ∧
    ((out = [.nmea] ∧ next = s.nmeaStep ∧ s.gps = .poll) ∨
      (out = [.releaseWakelock] ∧ s.gps = .dieReleaseWakelock ∧ next = { s with gps := .dieClearFlag }) ∨
      (out = [] ∧ s.gps = .dieClearFlag ∧ next = { s with startFlag := false, gps := .poll }) ∨
      ((out = [] ∨ ∃ value, out = [.status .gps value]) ∧ next.startFlag = s.startFlag ∧
        next.conditionStart = s.conditionStart ∧ s.gps ≠ .dieReleaseWakelock ∧
          s.gps ≠ .dieClearFlag ∧
        next.gps ≠ .dieClearFlag)) := by
  cases a with
  | callStart | callStop | framework | send result | write delivered => exact absurd trivial notMine
  | control =>
    simp only [gpsSession, SessionState.step] at stepped
    split at stepped
    · next atPoll _ =>
      cases stepped
      exact ⟨rfl,
        .inr (.inr (.inr ⟨.inl rfl, rfl, rfl, by simp [atPoll], by simp [atPoll], by simp [atPoll]⟩))⟩
    · contradiction
  | nmea =>
    simp only [gpsSession, SessionState.step] at stepped
    split_ifs at stepped with atPoll
    cases stepped
    refine ⟨?_, .inl ⟨rfl, rfl, atPoll⟩⟩
    rw [SessionState.nmeaStep]
    split <;> rfl
  | die =>
    simp only [gpsSession, SessionState.step] at stepped
    split_ifs at stepped with atPoll
    cases stepped
    exact ⟨rfl, .inr (.inr (.inr ⟨.inl rfl, rfl, rfl, by simp [atPoll], by simp [atPoll], nofun⟩))⟩
  | icon status =>
    simp only [gpsSession, SessionState.step, SessionState.iconStep] at stepped
    split_ifs at stepped with atPoll
    all_goals cases stepped
    all_goals exact ⟨rfl, .inr (.inr (.inr ⟨.inl rfl, rfl, rfl, by simp [atPoll], by simp [atPoll], by simp [atPoll]⟩))⟩
  | gps =>
    simp only [gpsSession, SessionState.step, SessionState.gpsStep] at stepped
    split at stepped
    · contradiction
    all_goals next atMode =>
      cases stepped
      first
      | exact ⟨rfl, .inr (.inl ⟨rfl, atMode, rfl⟩)⟩
      | exact ⟨rfl, .inr (.inr (.inl ⟨rfl, atMode, rfl⟩))⟩
      | exact ⟨rfl, .inr (.inr (.inr ⟨by simp, rfl, rfl, by simp [atMode], by simp [atMode], nofun⟩))⟩

end Steps

end Mt6582.Gps

import Mt6582.Machine.Looper
import Mt6582.Machine.System

/-! # The YGPS activity, its handlers and its auto-test threads

The activity lives on the main looper: lifecycle callbacks, clicks and the messages of `mHandler` and `mAutoTestHandler`
run there one after another. Auto-test threads run beside it, at most one of their blocks at a time, and post to both
handlers. The state keeps what decides the registration of the view listener and of the location updates, and what decides
which step comes next; texts, dialogs and log files are left out.
-/

namespace Mt6582.Ygps

open Machine

/-- The keys of the bundle that `delete_aiding_data` is sent with. -/
inductive GpsExtra where
  | position | ephemeris | time | iono | utc | health | all | rti | almanac
deriving DecidableEq, Repr

/-- The buttons that restart the receiver. -/
inductive RestartButton where
  | hotStart | warmStart | coldStart | fullStart | reStart
deriving DecidableEq, Repr

def RestartButton.extras : RestartButton → List GpsExtra
  | .hotStart => [.rti]
  | .warmStart => [.ephemeris]
  | .coldStart => [.ephemeris, .position, .time, .iono, .utc, .health]
  | .fullStart => [.all]
  | .reStart => [.ephemeris, .almanac, .position, .time, .iono, .utc]

/-- `mTestType`, chosen in the spinner. -/
inductive TestType where
  | hotStart | warmStart | coldStart | fullStart
deriving DecidableEq, Repr

def TestType.extras : TestType → List GpsExtra
  | .hotStart => [.rti]
  | .warmStart => [.ephemeris]
  | .coldStart => [.ephemeris, .position, .time, .iono, .utc, .health]
  | .fullStart => [.all]

/-- The messages of `mHandler`, then those of `mAutoTestHandler`. -/
inductive Message where
  | counter | clear | checkSatereport | enableButton | removeUpdate | deleteData (extras : List GpsExtra) | requestUpdate
  | setCurrentTimes (times : Nat) | startButtonUpdate (enable : Bool) | setCountdown (num : Nat)
  | exceedPeriod (period : Nat) | setParamReconnect
deriving DecidableEq, Repr

/-- Between `onCreate` or `onRestart` and `onStop` the activity is started. -/
inductive Lifecycle where
  | started | stopped
deriving DecidableEq, Repr

/-- Where `AutoTestThread.run` stands: `i` is the loop variable of `reconnectTest`, `left` one more than that of
`waitAutoTestInterval`. -/
inductive TestPoint where
  | run | loop (i : Nat) | resetParam (i : Nat) | waitInterval (i left : Nat) | waitFix (i : Nat)
  | wait3DFix (i begin : Nat) | stopTest | finish
deriving DecidableEq, Repr

/-- A thread sleeps until `wakeAt`. -/
structure AutoTestThread where
  point : TestPoint
  extras : List GpsExtra
  wakeAt : Nat
deriving DecidableEq, Repr

/-- `queue` is the main looper's, `now` its clock in milliseconds, `updatesRequested` says whether `mLocListener` receives
location updates, and `clickable` is the state `enableBtns` gives the restart buttons. `mListener` is the parser's list. -/
structure YgpsActivity (L : Type) where
  now : Nat
  queue : List (Timed Message)
  created : Bool
  lifecycle : Lifecycle
  mListener : List L
  mNmeaUpdateListener : L
  updatesRequested : Bool
  mIsRunInBg : Bool
  mFirstFix : Bool
  mSateReportTimeOut : Nat
  clickable : Bool
  btnGpsTestStart : Bool
  btnGpsTestStop : Bool
  mTestType : TestType
  mTotalTimes : Nat
  mCurrentTimes : Nat
  mTestInterval : Nat
  mIsNeed3DFix : Bool
  mIsTestRunning : Bool
  mIsForceStopGpsTest : Bool
  mStartPressedHandling : Bool
  mStopPressedHandling : Bool
  threads : List AutoTestThread
deriving DecidableEq, Repr

namespace YgpsActivity

variable {L : Type}

/-! ## The parser's listeners and the handlers -/

def addSVUpdateListener (s : YgpsActivity L) : YgpsActivity L :=
  { s with mListener := s.mListener ++ [s.mNmeaUpdateListener] }

/-- `ArrayList.remove` takes out the first occurrence. -/
def removeSVUpdateListener [DecidableEq L] (s : YgpsActivity L) : YgpsActivity L :=
  { s with mListener := s.mListener.erase s.mNmeaUpdateListener }

def requestLocationUpdates (s : YgpsActivity L) : YgpsActivity L := { s with updatesRequested := true }

def removeUpdates (s : YgpsActivity L) : YgpsActivity L := { s with updatesRequested := false }

def sendMessageDelayed (s : YgpsActivity L) (what : Message) (delay : Nat) : YgpsActivity L :=
  { s with queue := enqueue s.queue ⟨what, s.now + delay⟩ }

def sendMessage (s : YgpsActivity L) (what : Message) : YgpsActivity L := s.sendMessageDelayed what 0

def hasMessages (s : YgpsActivity L) (what : Message) : Bool := s.queue.any (·.what = what)

def setStartButtonEnable (s : YgpsActivity L) (enable : Bool) : YgpsActivity L := s.sendMessage (.startButtonUpdate enable)

def enableBtns (s : YgpsActivity L) (enable : Bool) : YgpsActivity L := { s with clickable := enable }

def setViewToStartState (s : YgpsActivity L) : YgpsActivity L :=
  { s with btnGpsTestStart := false, btnGpsTestStop := true }

def setViewToStopState (s : YgpsActivity L) : YgpsActivity L :=
  { s with btnGpsTestStop := false, btnGpsTestStart := true }

/-! ## Restarting the receiver -/

def resetParamForAutoTest (s : YgpsActivity L) (extras : List GpsExtra) : YgpsActivity L :=
  (((s.removeUpdates.sendMessage .removeUpdate).sendMessageDelayed (.deleteData extras) 300).sendMessageDelayed
    .requestUpdate 600)

/-- As `resetParamForAutoTest`, and the buttons follow. -/
def resetParamForRestart (s : YgpsActivity L) (extras : List GpsExtra) : YgpsActivity L :=
  ((((s.removeUpdates.sendMessage .removeUpdate).sendMessageDelayed (.deleteData extras) 300).sendMessageDelayed
    .requestUpdate 600).sendMessageDelayed .enableButton 900)

/-- What `clearRestartMsgs` takes off the queue. -/
def RestartMsg : Message → Bool
  | .removeUpdate | .deleteData _ | .requestUpdate => true
  | _ => false

def clearRestartMsgs (s : YgpsActivity L) : YgpsActivity L :=
  { s with queue := s.queue.filter fun p => !RestartMsg p.what }

/-! ## The auto test -/

def resetTestParam (s : YgpsActivity L) : YgpsActivity L :=
  { s with
    mIsNeed3DFix := false, mTotalTimes := 0, mCurrentTimes := 0, mTestInterval := 0, mIsTestRunning := false }

def setTestParam (s : YgpsActivity L) : YgpsActivity L := s.sendMessage .setParamReconnect

def stopGPSAutoTest (s : YgpsActivity L) : YgpsActivity L := s.resetTestParam.setTestParam

def forceStopGpsAutoTest (s : YgpsActivity L) : YgpsActivity L :=
  let s := ({ s with mIsForceStopGpsTest := true }.resetTestParam.clearRestartMsgs).setViewToStopState
  { s with mStartPressedHandling := false, mStopPressedHandling := false }

/-- The texts of the two input fields; a field that is empty or out of range ends the attempt. -/
def startGPSAutoTest (s : YgpsActivity L) (times interval : Option Nat) (need3DFix : Bool) : YgpsActivity L :=
  match times.filter (· ≤ 999) with
  | none => { s with btnGpsTestStart := true }
  | some times =>
    match interval.filter (· ≤ 999) with
    | none => { s with mTotalTimes := times, btnGpsTestStart := true }
    | some interval =>
      let s := { s with
        mTotalTimes := times, mTestInterval := interval, mIsNeed3DFix := need3DFix, mIsTestRunning := true,
        mIsForceStopGpsTest := false }
      if s.mStartPressedHandling then { s with btnGpsTestStart := false }
      else
        let s := { s with mStartPressedHandling := true }.setViewToStartState
        { s with threads := s.threads ++ [⟨.run, [], s.now⟩] }

/-- One block of a thread, up to the next point where another party may come in, and the thread after it; `none` while
`wait3DFix` keeps looking at the clock. -/
def testStep (s : YgpsActivity L) (thread : AutoTestThread) : Option (YgpsActivity L × Option AutoTestThread) :=
  let go (point : TestPoint) (sleep : Nat) : Option AutoTestThread := some { thread with point, wakeAt := s.now + sleep }
  match thread.point with
  | .run => some (s.setStartButtonEnable false, some ⟨.loop 1, s.mTestType.extras, s.now⟩)
  | .loop i =>
    if i ≤ s.mTotalTimes ∧ s.mIsTestRunning then
      some ({ s with mCurrentTimes := i }.sendMessage (.setCurrentTimes i), go (.resetParam i) 0)
    else some (s, go .stopTest 1000)
  | .resetParam i =>
    if s.mIsForceStopGpsTest then some (s, go .finish 0)
    else
      let s := s.resetParamForAutoTest thread.extras
      if s.mTestInterval ≠ 0 then some (s, go (.waitInterval i (s.mTestInterval + 1)) 0)
      else some (s, go (.waitFix i) 500)
  | .waitInterval i left =>
    if 0 < left ∧ s.mIsTestRunning then some (s.sendMessage (.setCountdown (left - 1)), go (.waitInterval i (left - 1)) 1000)
    else if s.mIsTestRunning then some (s, go (.waitFix i) 0)
    else some (s.sendMessage (.setCountdown 0), go (.waitFix i) 0)
  | .waitFix i =>
    if s.mIsNeed3DFix then some (s, go (.wait3DFix i (s.now / 1000)) 0)
    else some (s, go (.loop (i + 1)) 2000)
  | .wait3DFix i begin =>
    if ¬ s.mIsTestRunning ∨ s.mFirstFix then some (s, go (.loop (i + 1)) 500)
    else if s.now / 1000 - begin > 999 then some (s.sendMessage (.exceedPeriod 999), go (.loop (i + 1)) 0)
    else none
  | .stopTest =>
    if s.mIsForceStopGpsTest then some (s, go .finish 0)
    else some (s.stopGPSAutoTest, go .finish 0)
  | .finish => some (s.setStartButtonEnable true, none)

/-! ## Lifecycle and messages -/

variable [DecidableEq L]

def removeNmeaParser (s : YgpsActivity L) : YgpsActivity L := s.removeSVUpdateListener

def onCreate (s : YgpsActivity L) : YgpsActivity L :=
  { ((s.requestLocationUpdates.sendMessage .counter).sendMessage .checkSatereport).addSVUpdateListener with
    created := true, lifecycle := .started }

def onStop (s : YgpsActivity L) : YgpsActivity L :=
  let s := if s.mIsRunInBg then s else s.forceStopGpsAutoTest.removeUpdates.removeNmeaParser
  { s with lifecycle := .stopped }

def onRestart (s : YgpsActivity L) : YgpsActivity L :=
  let s := if s.mIsRunInBg then s else { s with mFirstFix := false }.requestLocationUpdates.addSVUpdateListener
  { s with lifecycle := .started }

/-- `handleMessage` of the handler a message belongs to, with the aiding data it asks the driver to delete. -/
def handleMessage (s : YgpsActivity L) : Message → YgpsActivity L × List (List GpsExtra)
  | .counter => (if s.mFirstFix then s else s.sendMessageDelayed .counter 500, [])
  | .clear => (s, [])
  | .checkSatereport =>
    let timeOut := s.mSateReportTimeOut + 1
    let s := if 3 < timeOut then { s with mSateReportTimeOut := 0 }.sendMessage .clear
      else { s with mSateReportTimeOut := timeOut }
    (s.sendMessageDelayed .checkSatereport 1000, [])
  | .enableButton => (s.enableBtns true, [])
  | .removeUpdate =>
    let s := { s.removeNmeaParser with mFirstFix := false }
    (if s.hasMessages .counter then s else s.sendMessage .counter, [])
  | .deleteData extras => (s, [extras])
  | .requestUpdate => (s.requestLocationUpdates.addSVUpdateListener, [])
  | .setCurrentTimes _ => (s, [])
  | .startButtonUpdate enable =>
    let s := { s with btnGpsTestStart := enable, btnGpsTestStop := !enable }
    (if enable then s.setViewToStopState else s, [])
  | .setCountdown _ => (s, [])
  | .exceedPeriod _ => (s, [])
  | .setParamReconnect =>
    let s := (s.enableBtns false).resetParamForRestart [.ephemeris]
    (if s.btnGpsTestStart then s
      else { s.setStartButtonEnable true with mStopPressedHandling := false, mStartPressedHandling := false }, [])

end YgpsActivity

/-- Who moves: the lifecycle, the user, the receiver (`viewUpdate` is the parser's notification of its listeners), a thread
by its place in the list, the looper with the first message that is due, or the clock. -/
inductive YgpsAction where
  | onCreate | onStop | onRestart | restartClick (button : RestartButton)
  | startClick (times interval : Option Nat) (need3DFix : Bool) | stopClick | selectTest (type : TestType)
  | firstFix | viewUpdate | thread (k : Nat) | dispatch | tick (elapsed : Nat)
deriving DecidableEq, Repr

variable {L : Type} [DecidableEq L]

/-- `onClick` for a restart button that is clickable. -/
def YgpsActivity.restartClick (s : YgpsActivity L) (button : RestartButton) : YgpsActivity L :=
  if s.mIsTestRunning then s else (s.enableBtns false).resetParamForRestart button.extras

/-- `onClick` for `mBtnGpsTestStart`. -/
def YgpsActivity.startClick (s : YgpsActivity L) (times interval : Option Nat) (need3DFix : Bool) : YgpsActivity L :=
  ({ s with btnGpsTestStart := false }.sendMessageDelayed .clear 200).startGPSAutoTest times interval need3DFix

/-- `onClick` for `mBtnGpsTestStop`. -/
def YgpsActivity.stopClick (s : YgpsActivity L) : YgpsActivity L :=
  let s := { s with btnGpsTestStop := false }
  if s.mStopPressedHandling then s else { s with mStopPressedHandling := true, mIsTestRunning := false }

/-- A thread that has slept long enough takes a block; a finished thread leaves the list. -/
def YgpsActivity.threadStep (s : YgpsActivity L) (k : Nat) : Option (YgpsActivity L) :=
  s.threads[k]?.bind fun thread =>
    if thread.wakeAt ≤ s.now then
      (s.testStep thread).map fun (next, thread) =>
        { next with threads := s.threads.take k ++ thread.toList ++ s.threads.drop (k + 1) }
    else none

/-- The looper takes the first message when it is due. -/
def YgpsActivity.dispatch (s : YgpsActivity L) : Option (YgpsActivity L × List (List GpsExtra)) :=
  match s.queue with
  | [] => none
  | p :: rest => if p.due ≤ s.now then some ({ s with queue := rest }.handleMessage p.what) else none

/-- Clicks reach a button of a started activity only, and only while it is enabled or clickable. -/
def YgpsActivity.step (s : YgpsActivity L) : YgpsAction → Option (YgpsActivity L × List (List GpsExtra))
  | .onCreate => if s.lifecycle = .stopped ∧ ¬ s.created then some (s.onCreate, []) else none
  | .onStop => if s.lifecycle = .started then some (s.onStop, []) else none
  | .onRestart => if s.lifecycle = .stopped ∧ s.created then some (s.onRestart, []) else none
  | .restartClick button =>
    if s.lifecycle = .started ∧ s.clickable then some (s.restartClick button, []) else none
  | .startClick times interval need3DFix =>
    if s.lifecycle = .started ∧ s.btnGpsTestStart then some (s.startClick times interval need3DFix, []) else none
  | .stopClick => if s.lifecycle = .started ∧ s.btnGpsTestStop then some (s.stopClick, []) else none
  | .selectTest type => if s.lifecycle = .started then some ({ s with mTestType := type }, []) else none
  | .firstFix => if s.lifecycle = .started then some ({ s with mFirstFix := true }, []) else none
  | .viewUpdate =>
    if s.mNmeaUpdateListener ∈ s.mListener then some ({ s with mSateReportTimeOut := 0 }, []) else none
  | .thread k => (s.threadStep k).map fun next => (next, [])
  | .dispatch => s.dispatch
  | .tick elapsed => some ({ s with now := s.now + elapsed }, [])

/-- The observations are the deletions of aiding data. -/
def ygps : System (YgpsActivity L) YgpsAction (List GpsExtra) where
  step := YgpsActivity.step

end Mt6582.Ygps

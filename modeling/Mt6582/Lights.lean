import Mathlib.Algebra.Group.Int.Defs
import Mathlib.Data.List.Basic
import Mathlib.Data.List.Induction

/-! # The lights device of `liblights`

The six `set_light` methods over the globals of `lights.c`, the three notification LEDs with the status
each `blink` function remembers, and the sysfs nodes they write. Calls hold `g_lock` throughout, so a
history is a sequence of calls. The LED class driver behind the nodes is a parameter; `LedDriver.Lawful`
says what its nodes are taken to do. Writes succeed, and the wait for the delay nodes is left out.

What the LEDs show after any history is a function of the last battery and the last notification state.
-/

namespace Mt6582.Lights

section Driver

inductive Trigger where
  | none | timer
deriving DecidableEq, Repr

/-- A write to a sysfs node of one LED. -/
inductive LedWrite where
  | brightness (value : Int)
  | trigger (trigger : Trigger)
  | delayOff (ms : Int)
  | delayOn (ms : Int)
deriving DecidableEq, Repr

/-- What can be seen of an LED. -/
inductive Light where
  | off
  | blinking (onMS offMS : Int)
  | solid (level : Int)
deriving DecidableEq, Repr

/-- The driver of an LED, with its state `σ`. -/
structure LedDriver (σ : Type) where
  write : σ → LedWrite → σ
  light : σ → Light

/-- The writes of `lights.c` have the effect they are made for. -/
structure LedDriver.Lawful {σ : Type} (driver : LedDriver σ) : Prop where
  off : ∀ node, driver.light (driver.write node (.brightness 0)) = .off
  blinking : ∀ node onMS offMS, onMS ≠ 0 → offMS ≠ 0 → driver.light
    (driver.write (driver.write (driver.write node (.trigger .timer)) (.delayOff offMS)) (.delayOn onMS)) =
      .blinking onMS offMS
  solid : ∀ node, driver.light (driver.write (driver.write node (.trigger .none)) (.brightness 255)) = .solid 255

end Driver

section Model

/-- `flashMode`; `other` is any value without a name in `hardware/lights.h`. -/
inductive FlashMode where
  | none | timed | hardware | other
deriving DecidableEq, Repr

/-- `struct light_state_t`, without the brightness mode. -/
structure LightState where
  color : BitVec 32
  flashMode : FlashMode
  flashOnMS : Int
  flashOffMS : Int
deriving DecidableEq, Repr

/-- `preStatus` of the `blink` functions. -/
inductive BlinkStatus where
  | off | blink | noBlink
deriving DecidableEq, Repr

/-- An LED with the status remembered for it. -/
structure Led (σ : Type) where
  preStatus : BlinkStatus
  node : σ

inductive LedColor where
  | red | green | blue
deriving DecidableEq, Repr

/-- The globals of `lights.c`, the LEDs, and the brightness nodes of the other lights. -/
structure Globals (σ : Type) where
  haveTrackballLight : Bool
  notification : LightState
  battery : LightState
  backlight : Int
  trackball : Int
  buttons : Int
  attention : Int
  red : Led σ
  green : Led σ
  blue : Led σ
  trackballFile : Int
  lcdFile : Int
  keyboardFile : Int
  buttonFile : Int

variable {σ : Type} (driver : LedDriver σ)

/-- `is_lit`. -/
def isLit (state : LightState) : Int := (state.color &&& 0x00ffffff).toNat

/-- The status a call asks for. -/
def blinkStatus (level onMS offMS : Int) : BlinkStatus :=
  if level = 0 then .off else if onMS ≠ 0 ∧ offMS ≠ 0 then .blink else .noBlink

/-- The `blink` functions on the LED they are for. -/
def blink (led : Led σ) (level onMS offMS : Int) : Led σ × Int :=
  let nowStatus := blinkStatus level onMS offMS
  if led.preStatus = nowStatus then (led, -1)
  else
    let node := match nowStatus with
      | .off => driver.write led.node (.brightness 0)
      | .blink =>
          driver.write (driver.write (driver.write led.node (.trigger .timer)) (.delayOff offMS)) (.delayOn onMS)
      | .noBlink => driver.write (driver.write led.node (.trigger .none)) (.brightness 255)
    (⟨nowStatus, node⟩, 0)

def blinkRed (s : Globals σ) (level onMS offMS : Int) : Globals σ × Int :=
  let blinked := blink driver s.red level onMS offMS
  ({ s with red := blinked.1 }, blinked.2)

def blinkGreen (s : Globals σ) (level onMS offMS : Int) : Globals σ × Int :=
  let blinked := blink driver s.green level onMS offMS
  ({ s with green := blinked.1 }, blinked.2)

def blinkBlue (s : Globals σ) (level onMS offMS : Int) : Globals σ × Int :=
  let blinked := blink driver s.blue level onMS offMS
  ({ s with blue := blinked.1 }, blinked.2)

/-- `(color >> shift) & 0xFF`. -/
def colorByte (color : BitVec 32) (shift : Nat) : Int := ((color >>> shift) &&& 0xff).toNat

/-- `set_speaker_light_locked`: all LEDs off, then those with a colour on. -/
def setSpeakerLightLocked (s : Globals σ) (state : LightState) : Globals σ × Int :=
  let (onMS, offMS) := match state.flashMode with
    | .timed => (state.flashOnMS, state.flashOffMS)
    | _ => (0, 0)
  let alpha := colorByte state.color 24
  let red := if alpha ≠ 0 then colorByte state.color 16 else 0
  let green := if alpha ≠ 0 then colorByte state.color 8 else 0
  let blue := if alpha ≠ 0 then colorByte state.color 0 else 0
  let s := (blinkRed driver s 0 0 0).1
  let s := (blinkGreen driver s 0 0 0).1
  let s := (blinkBlue driver s 0 0 0).1
  let s := if red ≠ 0 then (blinkRed driver s red onMS offMS).1 else s
  let s := if green ≠ 0 then (blinkGreen driver s green onMS offMS).1 else s
  let s := if blue ≠ 0 then (blinkBlue driver s blue onMS offMS).1 else s
  (s, 0)

/-- `handle_speaker_battery_locked`. -/
def handleSpeakerBatteryLocked (s : Globals σ) : Globals σ :=
  if isLit s.battery ≠ 0 then (setSpeakerLightLocked driver s s.battery).1
  else
    let s := (setSpeakerLightLocked driver s s.battery).1
    (setSpeakerLightLocked driver s s.notification).1

/-- `handle_trackball_light_locked`; `g_trackball` is never updated. -/
def handleTrackballLightLocked (s : Globals σ) : Globals σ × Int :=
  let mode := if s.attention = 7 ∧ s.backlight ≠ 0 then 0 else s.attention
  if s.trackball = mode then (s, 0) else ({ s with trackballFile := mode }, 0)

/-- `rgb_to_brightness`. -/
def rgbToBrightness (state : LightState) : Int :=
  (77 * colorByte state.color 16 + 150 * colorByte state.color 8 + 29 * colorByte state.color 0) / 2 ^ 8

/-- The trackball light follows, where there is one. -/
def Globals.followTrackball (s : Globals σ) : Globals σ :=
  if s.haveTrackballLight then (handleTrackballLightLocked s).1 else s

def setLightBacklight (s : Globals σ) (state : LightState) : Globals σ × Int :=
  let brightness := rgbToBrightness state
  (({ s with backlight := brightness, lcdFile := brightness } : Globals σ).followTrackball, 0)

def setLightKeyboard (s : Globals σ) (state : LightState) : Globals σ × Int :=
  ({ s with keyboardFile := if isLit state ≠ 0 then 255 else 0 }, 0)

def setLightButtons (s : Globals σ) (state : LightState) : Globals σ × Int :=
  ({ s with buttons := isLit state, buttonFile := if isLit state ≠ 0 then 255 else 0 }, 0)

def setLightBattery (s : Globals σ) (state : LightState) : Globals σ × Int :=
  let s := { s with battery := state }
  let s := if s.haveTrackballLight then (setSpeakerLightLocked driver s state).1 else s
  (handleSpeakerBatteryLocked driver s, 0)

def setLightNotifications (s : Globals σ) (state : LightState) : Globals σ × Int :=
  let s := { s with notification := state }
  (handleSpeakerBatteryLocked driver s.followTrackball, 0)

def setLightAttention (s : Globals σ) (state : LightState) : Globals σ × Int :=
  let s := match state.flashMode with
    | .hardware => { s with attention := state.flashOnMS }
    | .none => { s with attention := 0 }
    | _ => s
  (s.followTrackball, 0)

/-- The lights that `open_lights` knows. -/
inductive LightId where
  | backlight | keyboard | buttons | battery | notifications | attention
deriving DecidableEq, Repr

/-- The method `open_lights` chooses. -/
def setLight (id : LightId) (s : Globals σ) (state : LightState) : Globals σ × Int :=
  match id with
  | .backlight => setLightBacklight s state
  | .keyboard => setLightKeyboard s state
  | .buttons => setLightButtons s state
  | .battery => setLightBattery driver s state
  | .notifications => setLightNotifications driver s state
  | .attention => setLightAttention s state

end Model

section Shown

/-- The place of a colour in `color`. -/
def LedColor.shift : LedColor → Nat
  | .red => 16
  | .green => 8
  | .blue => 0

/-- What an LED shows for a state: nothing without alpha or its colour, blinking if the state is timed. -/
def LightState.light (state : LightState) (color : LedColor) : Light :=
  if colorByte state.color 24 = 0 ∨ colorByte state.color color.shift = 0 then .off
  else if state.flashMode = .timed ∧ state.flashOnMS ≠ 0 ∧ state.flashOffMS ≠ 0 then
    .blinking state.flashOnMS state.flashOffMS
  else .solid 255

/-- The state that the LEDs show: a lit battery state, or else the notification. -/
def shownState (battery notification : LightState) : LightState :=
  if battery.color &&& 0x00ffffff ≠ 0 then battery else notification

def Globals.led {σ : Type} (s : Globals σ) : LedColor → Led σ
  | .red => s.red
  | .green => s.green
  | .blue => s.blue

variable {σ : Type} {driver : LedDriver σ}

/-- An LED remembered as off is off. -/
def Led.Tied (driver : LedDriver σ) (led : Led σ) : Prop := led.preStatus = .off → driver.light led.node = .off

/-- What an LED shows for a level and two times. -/
def levelLight (level onMS offMS : Int) : Light :=
  if level = 0 then .off else if onMS ≠ 0 ∧ offMS ≠ 0 then .blinking onMS offMS else .solid 255

theorem blink_zero (lawful : driver.Lawful) {led : Led σ} (tied : led.Tied driver) :
    (blink driver led 0 0 0).1.preStatus = .off ∧
      driver.light (blink driver led 0 0 0).1.node = .off := by
  have status : blinkStatus 0 0 0 = .off := rfl
  rw [blink]
  rw [status]
  dsimp only
  split
  · next same => exact ⟨same, tied same⟩
  · exact ⟨rfl, lawful.off led.node⟩

/-- From off, a call is never suppressed. -/
theorem blink_lit (lawful : driver.Lawful) {led : Led σ} (off : led.preStatus = .off) {level : Int}
    (lit : level ≠ 0)
    (onMS offMS : Int) : (blink driver led level onMS offMS).1.preStatus ≠ .off ∧
      driver.light (blink driver led level onMS offMS).1.node = levelLight level onMS offMS := by
  rw [blink, blinkStatus, levelLight]
  rw [if_neg lit, if_neg lit, off]
  by_cases timed : onMS ≠ 0 ∧ offMS ≠ 0
  · rw [if_pos timed, if_pos timed, if_neg (by decide)]
    exact ⟨BlinkStatus.noConfusion, lawful.blinking led.node onMS offMS timed.1 timed.2⟩
  · rw [if_neg timed, if_neg timed, if_neg (by decide)]
    exact ⟨BlinkStatus.noConfusion, lawful.solid led.node⟩

/-- Off and on again, as `set_speaker_light_locked` does with each LED. -/
def relight (driver : LedDriver σ) (led : Led σ) (level onMS offMS : Int) : Led σ :=
  let led := (blink driver led 0 0 0).1
  if level ≠ 0 then (blink driver led level onMS offMS).1 else led

theorem relight_light (lawful : driver.Lawful) {led : Led σ} (tied : led.Tied driver)
    (level onMS offMS : Int) :
    (relight driver led level onMS offMS).Tied driver ∧
      driver.light (relight driver led level onMS offMS).node = levelLight level onMS offMS := by
  obtain ⟨status, dark⟩ := blink_zero lawful tied
  unfold relight
  dsimp only
  split
  · next lit =>
    obtain ⟨remembered, shown⟩ := blink_lit lawful status lit onMS offMS
    exact ⟨fun off => absurd off remembered, shown⟩
  · next unlit =>
    rw [levelLight, if_pos (not_not.mp unlit)]
    exact ⟨fun _ => dark, dark⟩

/-- The level and the times that `set_speaker_light_locked` passes for an LED. -/
def LightState.level (state : LightState) (color : LedColor) : Int :=
  if colorByte state.color 24 ≠ 0 then colorByte state.color color.shift else 0

def LightState.onMS (state : LightState) : Int :=
  match state.flashMode with
  | .timed => state.flashOnMS
  | _ => 0

def LightState.offMS (state : LightState) : Int :=
  match state.flashMode with
  | .timed => state.flashOffMS
  | _ => 0

theorem LightState.levelLight_eq (state : LightState) (color : LedColor) :
    levelLight (state.level color) state.onMS state.offMS = state.light color := by
  rw [levelLight, LightState.level, LightState.light, LightState.onMS, LightState.offMS]
  by_cases alpha : colorByte state.color 24 = 0
  · simp only [alpha, ne_eq, not_true_eq_false, ↓reduceIte, true_or]
  · cases mode : state.flashMode <;> simp [alpha]

/-- Each LED is relit on its own; nothing else changes. -/
theorem setSpeakerLightLocked_eq (s : Globals σ) (state : LightState) :
    (setSpeakerLightLocked driver s state).1 = { s with
      red := relight driver s.red (state.level .red) state.onMS state.offMS
      green := relight driver s.green (state.level .green) state.onMS state.offMS
      blue := relight driver s.blue (state.level .blue) state.onMS state.offMS } := by
  have times : (match state.flashMode with
      | .timed => (state.flashOnMS, state.flashOffMS)
      | _ => (0, 0)) = (state.onMS, state.offMS) := by
    rw [LightState.onMS, LightState.offMS]
    split <;> rfl
  have red :
      (if colorByte state.color 24 ≠ 0 then colorByte state.color 16 else 0) = state.level .red := rfl
  have green :
      (if colorByte state.color 24 ≠ 0 then colorByte state.color 8 else 0) = state.level .green := rfl
  have blue :
      (if colorByte state.color 24 ≠ 0 then colorByte state.color 0 else 0) = state.level .blue := rfl
  rw [setSpeakerLightLocked]
  rw [times]
  dsimp only
  rw [red, green, blue]
  dsimp only [blinkRed, blinkGreen, blinkBlue, relight]
  split_ifs <;> rfl

/-- Every LED is tied, and shows what the state asks for. -/
structure Globals.Shows (driver : LedDriver σ) (s : Globals σ) (state : LightState) : Prop where
  tied : ∀ color, (s.led color).Tied driver
  light : ∀ color, driver.light (s.led color).node = state.light color

theorem setSpeakerLightLocked_shows (lawful : driver.Lawful) {s : Globals σ}
    (tied : ∀ color, (s.led color).Tied driver)
    (state : LightState) : (setSpeakerLightLocked driver s state).1.Shows driver state := by
  have each (color : LedColor) :=
    relight_light lawful (tied color) (state.level color) state.onMS state.offMS
  rw [setSpeakerLightLocked_eq]
  constructor
  · intro color
    cases color with
    | red => exact (each .red).1
    | green => exact (each .green).1
    | blue => exact (each .blue).1
  · intro color
    rw [← state.levelLight_eq color]
    cases color with
    | red => exact (each .red).2
    | green => exact (each .green).2
    | blue => exact (each .blue).2

end Shown

section Histories

variable {σ : Type} {driver : LedDriver σ} {s : Globals σ}

/-- The LEDs show what battery and notification ask for together. -/
def Globals.Consistent (driver : LedDriver σ) (s : Globals σ) : Prop :=
  s.Shows driver (shownState s.battery s.notification)

/-- The speaker light keeps the two states it chooses from. -/
theorem setSpeakerLightLocked_keeps (driver : LedDriver σ) (s : Globals σ) (state : LightState) :
    (setSpeakerLightLocked driver s state).1.battery = s.battery ∧
      (setSpeakerLightLocked driver s state).1.notification = s.notification := by
  rw [setSpeakerLightLocked_eq]
  exact ⟨rfl, rfl⟩

/-- Whatever the LEDs show before, afterwards they show the chosen state. -/
theorem handleSpeakerBatteryLocked_shows (lawful : driver.Lawful)
    (tied : ∀ color, (s.led color).Tied driver) :
    (handleSpeakerBatteryLocked driver s).Consistent driver ∧
      (handleSpeakerBatteryLocked driver s).battery = s.battery ∧
      (handleSpeakerBatteryLocked driver s).notification = s.notification := by
  have lit_iff : isLit s.battery ≠ 0 ↔ s.battery.color &&& 0x00ffffff ≠ 0 := by
    apply not_congr
    constructor
    · intro zero
      exact BitVec.eq_of_toNat_eq (Int.natCast_eq_zero.mp zero)
    · intro zero
      rw [isLit, zero]
      rfl
  have first := setSpeakerLightLocked_shows lawful tied s.battery
  have kept := setSpeakerLightLocked_keeps driver s s.battery
  rw [handleSpeakerBatteryLocked]
  split
  · next lit =>
    refine ⟨?_, kept⟩
    rw [Globals.Consistent, kept.1, kept.2, shownState, if_pos (lit_iff.mp lit)]
    exact first
  · next unlit =>
    generalize (setSpeakerLightLocked driver s s.battery).1 = middle at first kept
    have second := setSpeakerLightLocked_shows lawful first.tied middle.notification
    have keptAgain := setSpeakerLightLocked_keeps driver middle middle.notification
    dsimp only
    rw [kept.2] at second keptAgain ⊢
    rw [kept.1] at keptAgain
    refine ⟨?_, keptAgain⟩
    rw [Globals.Consistent, keptAgain.1, keptAgain.2, shownState, if_neg (lit_iff.not.mp unlit)]
    exact second

/-- The trackball light is none of the three LEDs. -/
theorem Globals.followTrackball_eq (s : Globals σ) :
    ∃ file, s.followTrackball = { s with trackballFile := file } := by
  have handled : ∃ file, (handleTrackballLightLocked s).1 = { s with trackballFile := file } := by
    unfold handleTrackballLightLocked
    generalize (if s.attention = 7 ∧ s.backlight ≠ 0 then 0 else s.attention) = mode
    dsimp only
    split
    · exact ⟨s.trackballFile, rfl⟩
    · exact ⟨mode, rfl⟩
  rw [Globals.followTrackball]
  split
  · exact handled
  · exact ⟨s.trackballFile, rfl⟩

/-- The trackball light changes nothing that the LEDs show. -/
theorem Globals.followTrackball_consistent (consistent : s.Consistent driver) :
    s.followTrackball.Consistent driver ∧ s.followTrackball.battery = s.battery ∧
      s.followTrackball.notification = s.notification := by
  obtain ⟨file, followed⟩ := s.followTrackball_eq
  rw [followed]
  exact ⟨⟨consistent.tied, consistent.light⟩, rfl, rfl⟩

/-- Every call keeps the LEDs consistent, and only its own light's state is replaced. -/
theorem setLight_consistent (lawful : driver.Lawful) (consistent : s.Consistent driver)
    (id : LightId) (state : LightState) :
    (setLight driver id s state).1.Consistent driver ∧
      (setLight driver id s state).1.battery = (if id = .battery then state else s.battery) ∧
      (setLight driver id s state).1.notification =
        (if id = .notifications then state else s.notification) := by
  have tied := consistent.tied
  cases id with
  | battery =>
    simp only [setLight, setLightBattery, reduceCtorEq, ↓reduceIte]
    split
    · have lit := setSpeakerLightLocked_shows lawful (s := { s with battery := state }) tied state
      have kept := setSpeakerLightLocked_keeps driver { s with battery := state } state
      obtain ⟨shows, battery, notification⟩ := handleSpeakerBatteryLocked_shows lawful lit.tied
      exact ⟨shows, battery.trans kept.1, notification.trans kept.2⟩
    · exact handleSpeakerBatteryLocked_shows lawful tied
  | notifications =>
    simp only [setLight, setLightNotifications, reduceCtorEq, ↓reduceIte]
    obtain ⟨file, followed⟩ := Globals.followTrackball_eq { s with notification := state }
    rw [followed]
    exact handleSpeakerBatteryLocked_shows lawful tied
  | backlight =>
    simp only [setLight, setLightBacklight, reduceCtorEq, ↓reduceIte]
    apply Globals.followTrackball_consistent
    exact ⟨tied, consistent.light⟩
  | attention =>
    simp only [setLight, setLightAttention, reduceCtorEq, ↓reduceIte]
    have unlit (attention : Int) :
        ({ s with attention := attention } : Globals σ).Consistent driver :=
      ⟨tied, consistent.light⟩
    split
    · exact Globals.followTrackball_consistent (unlit state.flashOnMS)
    · exact Globals.followTrackball_consistent (unlit 0)
    · exact Globals.followTrackball_consistent consistent
  | keyboard => exact ⟨⟨tied, consistent.light⟩, rfl, rfl⟩
  | buttons => exact ⟨⟨tied, consistent.light⟩, rfl, rfl⟩

/-- A history of calls, in order. -/
def setLights (driver : LedDriver σ) (s : Globals σ) (calls : List (LightId × LightState)) : Globals σ :=
  calls.foldl (fun s call => (setLight driver call.1 s call.2).1) s

/-- The static state before the first call. -/
def LightState.unset : LightState := ⟨0, .none, 0, 0⟩

/-- The last state a light was set to. -/
def lastState (id : LightId) (calls : List (LightId × LightState)) : LightState :=
  ((calls.filter fun call => call.1 = id).getLast?.map Prod.snd).getD .unset

theorem lastState_concat (id : LightId) (calls : List (LightId × LightState))
    (call : LightId × LightState) :
    lastState id (calls ++ [call]) = if call.1 = id then call.2 else lastState id calls := by
  unfold lastState
  by_cases same : call.1 = id
  · rw [if_pos same, List.filter_append, List.filter_cons_of_pos (by simpa using same),
      List.filter_nil, List.getLast?_concat]
    rfl
  · rw [if_neg same, List.filter_append, List.filter_cons_of_neg (by simpa using same),
      List.filter_nil, List.append_nil]

/-- No light has been set, and all LEDs are off. -/
structure Globals.Initial (driver : LedDriver σ) (s : Globals σ) : Prop where
  battery : s.battery = .unset
  notification : s.notification = .unset
  off : ∀ color, (s.led color).preStatus = .off ∧ driver.light (s.led color).node = .off

/-- After every history the LEDs are consistent with the last battery and notification states. -/
theorem setLights_consistent (lawful : driver.Lawful) (initial : s.Initial driver)
    (calls : List (LightId × LightState)) :
    (setLights driver s calls).Consistent driver ∧
      (setLights driver s calls).battery = lastState .battery calls ∧
      (setLights driver s calls).notification = lastState .notifications calls := by
  induction calls using List.reverseRecOn with
  | nil =>
    refine ⟨⟨fun color _ => (initial.off color).2, fun color => ?_⟩, initial.battery,
      initial.notification⟩
    rw [setLights, List.foldl_nil, initial.battery, initial.notification]
    exact (initial.off color).2
  | append_singleton calls call ih =>
    obtain ⟨consistent, battery, notification⟩ := ih
    have step := setLight_consistent lawful consistent call.1 call.2
    rw [battery, notification] at step
    rw [lastState_concat, lastState_concat, setLights, List.foldl_append]
    exact step

/-- What each LED shows after any history is decided by the last battery and the last notification state. -/
theorem setLights_light (lawful : driver.Lawful) (initial : s.Initial driver) (calls : List (LightId × LightState))
    (color : LedColor) : driver.light ((setLights driver s calls).led color).node =
      (shownState (lastState .battery calls) (lastState .notifications calls)).light color := by
  obtain ⟨consistent, battery, notification⟩ := setLights_consistent lawful initial calls
  rw [consistent.light color, battery, notification]

/-- The nodes of an LED: writing zero to `brightness` also removes the trigger. -/
structure LedNode where
  trigger : Trigger
  brightness : Int
  delayOn : Int
  delayOff : Int

def ledClass : LedDriver LedNode where
  write node
    | .brightness value =>
        if value = 0 then { node with trigger := .none, brightness := 0 } else { node with brightness := value }
    | .trigger trigger => { node with trigger := trigger }
    | .delayOff ms => { node with delayOff := ms }
    | .delayOn ms => { node with delayOn := ms }
  light node :=
    match node.trigger with
    | .timer => .blinking node.delayOn node.delayOff
    | .none => if node.brightness = 0 then .off else .solid node.brightness

theorem ledClass_lawful : ledClass.Lawful := by
  refine ⟨fun node => rfl, fun node onMS offMS _ _ => rfl, fun node => rfl⟩

/-- All lights unset and dark. -/
def darkLights : Globals LedNode :=
  let dark : Led LedNode := ⟨.off, .none, 0, 0, 0⟩
  ⟨true, .unset, .unset, 255, -1, 0, 0, dark, dark, dark, 0, 0, 0, 0⟩

private theorem darkLights_initial : darkLights.Initial ledClass := by
  refine ⟨rfl, rfl, fun color => ?_⟩
  cases color <;> exact ⟨rfl, rfl⟩

/-- New blink times reach the LED although its mode does not change. -/
theorem setLights_light_retimed :
    let calls := [(.notifications, ⟨0xffff0000, .timed, 500, 500⟩), (.notifications, ⟨0xffff0000, .timed, 100, 900⟩)]
    ledClass.light ((setLights ledClass darkLights calls).led .red).node =
        (shownState (lastState .battery calls) (lastState .notifications calls)).light .red ∧
      ledClass.light ((setLights ledClass darkLights calls).led .red).node = .blinking 100 900 := by
  intro calls
  exact ⟨setLights_light ledClass_lawful darkLights_initial calls .red, by decide +kernel⟩

end Histories

section Files

variable {σ : Type} {driver : LedDriver σ} {s initial : Globals σ}

/-- The last state a light was set to, if it was. -/
def lastSet (id : LightId) (calls : List (LightId × LightState)) : Option LightState :=
  (calls.filter fun call => call.1 = id).getLast?.map Prod.snd

/-- What a call of the attention light changes `g_attention` to; the timed mode leaves it. -/
def attentionSet (call : LightId × LightState) : Option Int :=
  if call.1 = .attention then
    match call.2.flashMode with
    | .hardware => some call.2.flashOnMS
    | .none => some 0
    | _ => none
  else none

/-- Full brightness for a lit state. -/
def onOff (state : LightState) : Int := if isLit state ≠ 0 then 255 else 0

/-- What the trackball light should show. -/
def Globals.trackballMode (s : Globals σ) : Int := if s.attention = 7 ∧ s.backlight ≠ 0 then 0 else s.attention

/-- The lights whose calls end with the trackball light. -/
def LightId.leadsTrackball : LightId → Bool
  | .backlight | .notifications | .attention => true
  | _ => false

/-- The nodes other than those of the LEDs after a history of calls, with the globals behind them. -/
structure Globals.Files (initial s : Globals σ) (calls : List (LightId × LightState)) : Prop where
  haveTrackballLight : s.haveTrackballLight = initial.haveTrackballLight
  trackball : s.trackball = initial.trackball
  backlight : s.backlight = (lastSet .backlight calls).elim initial.backlight rgbToBrightness
  attention : s.attention = (calls.filterMap attentionSet).getLast?.getD initial.attention
  lcdFile : s.lcdFile = (lastSet .backlight calls).elim initial.lcdFile rgbToBrightness
  keyboardFile : s.keyboardFile = (lastSet .keyboard calls).elim initial.keyboardFile onOff
  buttonFile : s.buttonFile = (lastSet .buttons calls).elim initial.buttonFile onOff
  trackballFile : initial.haveTrackballLight = true → (∃ call ∈ calls, call.1.leadsTrackball = true) →
    s.trackballMode ≠ initial.trackball → s.trackballFile = s.trackballMode

theorem lastSet_concat (id : LightId) (calls : List (LightId × LightState)) (call : LightId × LightState) :
    lastSet id (calls ++ [call]) = if call.1 = id then some call.2 else lastSet id calls := by
  unfold lastSet
  by_cases same : call.1 = id
  · rw [if_pos same, List.filter_append, List.filter_cons_of_pos (by simpa using same), List.filter_nil,
      List.getLast?_concat]
    rfl
  · rw [if_neg same, List.filter_append, List.filter_cons_of_neg (by simpa using same), List.filter_nil,
      List.append_nil]

/-- The LEDs are none of the other lights. -/
theorem handleSpeakerBatteryLocked_frame (driver : LedDriver σ) (s : Globals σ) :
    ∃ red green blue, handleSpeakerBatteryLocked driver s = { s with red := red, green := green, blue := blue } := by
  rw [handleSpeakerBatteryLocked]
  split_ifs
  · exact ⟨_, _, _, setSpeakerLightLocked_eq s s.battery⟩
  · dsimp only
    rw [setSpeakerLightLocked_eq s s.battery, setSpeakerLightLocked_eq]
    exact ⟨_, _, _, rfl⟩

/-- The trackball light is brought to its mode, unless that is the value of `g_trackball`. -/
theorem Globals.followTrackball_file (s : Globals σ) : s.followTrackball = { s with
    trackballFile :=
      if s.haveTrackballLight ∧ s.trackball ≠ s.trackballMode then s.trackballMode else s.trackballFile } := by
  have mode : (if s.attention = 7 ∧ s.backlight ≠ 0 then 0 else s.attention) = s.trackballMode := rfl
  rw [Globals.followTrackball, handleTrackballLightLocked, mode]
  generalize s.trackballMode = mode
  by_cases fitted : s.haveTrackballLight = true
  · by_cases same : s.trackball = mode
    · rw [if_pos fitted, if_pos same, if_neg fun both => both.2 same]
    · rw [if_pos fitted, if_neg same, if_pos ⟨fitted, same⟩]
  · rw [if_neg fitted, if_neg fun both => fitted both.1]

/-- A call of another light leaves the trackball light. -/
theorem Globals.Files.keep_trackball {calls : List (LightId × LightState)} (files : initial.Files s calls)
    {call : LightId × LightState} (other : call.1.leadsTrackball = false) {next : Globals σ}
    (mode : next.trackballMode = s.trackballMode) (file : next.trackballFile = s.trackballFile) :
    initial.haveTrackballLight = true → (∃ earlier ∈ calls ++ [call], earlier.1.leadsTrackball = true) →
      next.trackballMode ≠ initial.trackball → next.trackballFile = next.trackballMode := by
  rintro fitted ⟨earlier, member, leads⟩ differs
  rw [mode, file]
  rcases List.mem_append.mp member with before | last
  · exact files.trackballFile fitted ⟨earlier, before, leads⟩ (mode ▸ differs)
  · obtain rfl := List.mem_singleton.mp last
    rw [other] at leads
    cases leads

/-- A call that leads to the trackball light brings it to its mode. -/
theorem Globals.followTrackball_shows {middle : Globals σ} (fitted : middle.haveTrackballLight = true)
    (differs : middle.trackballMode ≠ middle.trackball) :
    middle.followTrackball.trackballFile = middle.trackballMode := by
  rw [Globals.followTrackball_file]
  exact if_pos ⟨fitted, differs.symm⟩

theorem setLight_files {calls : List (LightId × LightState)} (files : initial.Files s calls)
    (call : LightId × LightState) :
    initial.Files (setLight driver call.1 s call.2).1 (calls ++ [call]) := by
  obtain ⟨id, state⟩ := call
  have other (silent : attentionSet (id, state) = none) :
      s.attention = ((calls ++ [(id, state)]).filterMap attentionSet).getLast?.getD initial.attention := by
    rw [List.filterMap_append, List.filterMap_cons_none silent, List.filterMap_nil, List.append_nil]
    exact files.attention
  have set {value : Int} (given : attentionSet (id, state) = some value) :
      value = ((calls ++ [(id, state)]).filterMap attentionSet).getLast?.getD initial.attention := by
    rw [List.filterMap_append, List.filterMap_cons_some given, List.filterMap_nil, List.getLast?_concat]
    rfl
  have untouched (light : LightId) (differs : id ≠ light) : lastSet light (calls ++ [(id, state)]) = lastSet light calls :=
    (lastSet_concat light calls (id, state)).trans (if_neg differs)
  have touched : lastSet id (calls ++ [(id, state)]) = some state :=
    (lastSet_concat id calls (id, state)).trans (if_pos rfl)
  cases id with
  | keyboard =>
    refine ⟨files.haveTrackballLight, files.trackball, ?_, other rfl, ?_, ?_, ?_, files.keep_trackball rfl rfl rfl⟩
    · rw [untouched .backlight nofun]; exact files.backlight
    · rw [untouched .backlight nofun]; exact files.lcdFile
    · rw [touched]; rfl
    · rw [untouched .buttons nofun]; exact files.buttonFile
  | buttons =>
    refine ⟨files.haveTrackballLight, files.trackball, ?_, other rfl, ?_, ?_, ?_, files.keep_trackball rfl rfl rfl⟩
    · rw [untouched .backlight nofun]; exact files.backlight
    · rw [untouched .backlight nofun]; exact files.lcdFile
    · rw [untouched .keyboard nofun]; exact files.keyboardFile
    · rw [touched]; rfl
  | battery =>
    obtain ⟨red, green, blue, framed⟩ : ∃ red green blue, (setLightBattery driver s state).1 =
        { s with battery := state, red := red, green := green, blue := blue } := by
      rw [setLightBattery]
      dsimp only
      split_ifs
      · rw [setSpeakerLightLocked_eq]
        obtain ⟨red, green, blue, framed⟩ := handleSpeakerBatteryLocked_frame driver
          (setSpeakerLightLocked driver { s with battery := state } state).1
        rw [setSpeakerLightLocked_eq] at framed
        exact ⟨red, green, blue, framed⟩
      · exact handleSpeakerBatteryLocked_frame driver { s with battery := state }
    rw [setLight, framed]
    refine ⟨files.haveTrackballLight, files.trackball, ?_, other rfl, ?_, ?_, ?_, files.keep_trackball rfl rfl rfl⟩
    · rw [untouched .backlight nofun]; exact files.backlight
    · rw [untouched .backlight nofun]; exact files.lcdFile
    · rw [untouched .keyboard nofun]; exact files.keyboardFile
    · rw [untouched .buttons nofun]; exact files.buttonFile
  | notifications =>
    obtain ⟨red, green, blue, framed⟩ :=
      handleSpeakerBatteryLocked_frame driver ({ s with notification := state } : Globals σ).followTrackball
    rw [setLight, setLightNotifications, framed]
    have shows := @Globals.followTrackball_shows σ { s with notification := state }
    rw [Globals.followTrackball_file] at shows ⊢
    refine ⟨files.haveTrackballLight, files.trackball, ?_, other rfl, ?_, ?_, ?_, fun fitted _ differs => ?_⟩
    · rw [untouched .backlight nofun]; exact files.backlight
    · rw [untouched .backlight nofun]; exact files.lcdFile
    · rw [untouched .keyboard nofun]; exact files.keyboardFile
    · rw [untouched .buttons nofun]; exact files.buttonFile
    · exact shows (files.haveTrackballLight.trans fitted) (files.trackball ▸ differs)
  | backlight =>
    rw [setLight, setLightBacklight]
    have shows := @Globals.followTrackball_shows σ
      { s with backlight := rgbToBrightness state, lcdFile := rgbToBrightness state }
    dsimp only
    rw [Globals.followTrackball_file] at shows ⊢
    refine ⟨files.haveTrackballLight, files.trackball, ?_, other rfl, ?_, ?_, ?_, fun fitted _ differs => ?_⟩
    · rw [touched]; rfl
    · rw [touched]; rfl
    · rw [untouched .keyboard nofun]; exact files.keyboardFile
    · rw [untouched .buttons nofun]; exact files.buttonFile
    · exact shows (files.haveTrackballLight.trans fitted) (files.trackball ▸ differs)
  | attention =>
    have reached {middle : Globals σ} (same : ∃ attention, middle = { s with attention := attention })
        (value : middle.attention =
          ((calls ++ [(LightId.attention, state)]).filterMap attentionSet).getLast?.getD initial.attention) :
        initial.Files middle.followTrackball (calls ++ [(.attention, state)]) := by
      obtain ⟨attention, rfl⟩ := same
      have shows := @Globals.followTrackball_shows σ { s with attention := attention }
      rw [Globals.followTrackball_file] at shows ⊢
      refine ⟨files.haveTrackballLight, files.trackball, ?_, value, ?_, ?_, ?_, fun fitted _ differs => ?_⟩
      · rw [untouched .backlight nofun]; exact files.backlight
      · rw [untouched .backlight nofun]; exact files.lcdFile
      · rw [untouched .keyboard nofun]; exact files.keyboardFile
      · rw [untouched .buttons nofun]; exact files.buttonFile
      · exact shows (files.haveTrackballLight.trans fitted) (files.trackball ▸ differs)
    rw [setLight, setLightAttention]
    cases mode : state.flashMode with
    | hardware => exact reached ⟨state.flashOnMS, rfl⟩ (set (by rw [attentionSet, if_pos rfl, mode]))
    | none => exact reached ⟨0, rfl⟩ (set (by rw [attentionSet, if_pos rfl, mode]))
    | timed => exact reached ⟨s.attention, rfl⟩ (other (by rw [attentionSet, if_pos rfl, mode]))
    | other => exact reached ⟨s.attention, rfl⟩ (other (by rw [attentionSet, if_pos rfl, mode]))

end Files

end Mt6582.Lights

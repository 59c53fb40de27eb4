import Mt6582.Machine.Buffer
import Mt6582.Machine.CText
import Mt6582.Machine.System
import Mt6582.Wpa.SharedFreqs
import Mt6582.Wpa.WfdSinkScc

/-! # Driver commands

`wpa_driver_nl80211_driver_cmd` with all options on, for an interface of the supplicant. What a command does to
the P2P data and what goes to the driver as a private command is followed here; the answers of the branches that touch
neither are given, and so is what the supplicant makes of the event after a change of the country.
-/

namespace Mt6582.Wpa

open Machine

section Model

inductive Compare where
  | strncmp | strncasecmp | strcasecmp
deriving DecidableEq, Repr

def Compare.same : Compare → List UInt8 → List UInt8 → Bool
  | .strncmp => startsWith
  | .strncasecmp => startsWithCase
  | .strcasecmp => sameCase

/-- `elsewhere` is every branch that handles its command without the P2P data. -/
inductive Branch where
  | elsewhere | country | p2pGetCap | p2pSetCap | miracast | p2pUseMcc | setSuspendMode
deriving DecidableEq, Repr

/-- The comparisons in their order. -/
def comparisons : List (Compare × String × Branch) :=
  [(.strncasecmp, "POWERMODE ", .elsewhere), (.strncasecmp, "GET_STA_STATISTICS ", .elsewhere),
    (.strncasecmp, "GET_STA_LINK_DETECT", .elsewhere), (.strncmp, "MACADDR", .elsewhere),
    (.strncasecmp, "COUNTRY", .country), (.strcasecmp, "start", .elsewhere), (.strcasecmp, "stop", .elsewhere),
    (.strncasecmp, "getpower", .elsewhere), (.strncasecmp, "get-rts-threshold", .elsewhere),
    (.strncasecmp, "set-rts-threshold", .elsewhere), (.strncasecmp, "rxfilter-add", .elsewhere),
    (.strncasecmp, "rxfilter-remove", .elsewhere), (.strncasecmp, "rxfilter-stop", .elsewhere),
    (.strncasecmp, "rxfilter-start", .elsewhere), (.strcasecmp, "btcoexscan-start", .elsewhere),
    (.strcasecmp, "btcoexscan-stop", .elsewhere), (.strncasecmp, "btcoexmode", .elsewhere),
    (.strncasecmp, "smt-rate", .elsewhere), (.strncasecmp, "smt-test-on", .elsewhere),
    (.strncasecmp, "smt-test-off", .elsewhere), (.strncmp, "STA-BLOCK ", .elsewhere),
    (.strncmp, "STA-UNBLOCK ", .elsewhere), (.strncasecmp, "set-wapi-key", .elsewhere),
    (.strncasecmp, "wapi-msg-send", .elsewhere), (.strncmp, "p2p_get_cap ", .p2pGetCap),
    (.strncmp, "p2p_set_cap ", .p2pSetCap), (.strncmp, "MIRACAST ", .miracast),
    (.strncasecmp, "p2p_use_mcc=", .p2pUseMcc), (.strncasecmp, "mcc", .elsewhere),
    (.strncmp, "p2p_set_opps ", .elsewhere), (.strncmp, "p2p_set_power_save ", .elsewhere),
    (.strncmp, "p2p_set_sleep ", .elsewhere), (.strncmp, "p2p_set_sleep", .elsewhere),
    (.strncmp, "wfd_data_update", .elsewhere), (.strncmp, "get_beamplus_go_ready", .elsewhere),
    (.strncmp, "set_beamplus", .elsewhere), (.strncasecmp, "set_band_dual", .elsewhere),
    (.strncasecmp, "set_band_2g4", .elsewhere), (.strncasecmp, "set_band_5g", .elsewhere),
    (.strncasecmp, "set_scan_loading", .elsewhere), (.strncasecmp, "SETSUSPENDMODE ", .setSuspendMode)]

/-- The branch of a command; no branch for an unsupported one. -/
def branchOf (cmd : List UInt8) : Option Branch :=
  (comparisons.find? fun entry => entry.1.same (cLit entry.2.1) cmd).map (·.2.2)

/-- The fields of `struct p2p_data` that commands use. -/
structure P2pGlobal where
  data : P2pData
  devCapab : UInt8
  p2pUseMcc : UInt8

structure DriverState where
  p2p : Option P2pGlobal
  drvErrors : Nat

/-- A command, the size of the buffer for its answer, and what it meets: the configuration, the interfaces of the
radio and whether the list of frequencies can be allocated, the random number and the stack of
`p2p_wfd_sink_config_scc`, the result of the `ioctl`, the result of `wpa_driver_mediatek_set_country` and what
`EVENT_CHANNEL_LIST_CHANGED` does to the channels, and the answer of a branch that is not followed. -/
structure DriverCmd where
  cmd : List UInt8
  bufLen : Nat
  conf : WpaConfig
  ifaces : List Iface
  allocates : Bool
  random : BitVec 32
  stack : OpChannel
  ioctlFails : Bool
  setCountry : Int
  channelListChanged : P2pData → P2pData
  elsewhere : Int × Option (List UInt8)

def privCmdSize : Nat := 512

/-- `android_wifi_priv_cmd`. -/
structure PrivCmd where
  buf : List UInt8
  usedLen : Nat
  totalLen : Nat
deriving DecidableEq, Repr

/-- A reply has no text where `buf` is not written. -/
inductive DriverEvent where
  | ioctl (privCmd : PrivCmd) (fails : Bool)
  | channelListChanged (alpha2 : List UInt8)
  | reply (ret : Int) (buf : Option (List UInt8))
deriving DecidableEq, Repr

/-- An `int` as an `unsigned int`. -/
def unsigned (value : Int) : Nat := (BitVec.ofInt 32 value).toNat

/-- An `int` as an `unsigned char`. -/
def unsignedChar (value : Int) : UInt8 := UInt8.ofBitVec (BitVec.ofInt 8 value)

/-- `mtk_get_shared_radio_freqs(wpa_s, &freq, 1)`, when it returns more than zero. -/
def DriverCmd.sharedFreq (command : DriverCmd) : Option Int :=
  if command.allocates then (mtkGetSharedRadioFreqsData command.ifaces 1).head?.map UsedFreqData.freq else none

-- `CONFIG_MTK_P2P_5G` and `DRV_NUMBER_SEQUENTIAL_ERRORS`
variable (p2p5G : Bool) (sequentialErrors : Nat)

def configScc (command : DriverCmd) (scc : Bool) (operFreq : Nat) (state : DriverState) : DriverState :=
  { state with
    p2p := state.p2p.bind fun p2p =>
      (p2pWfdSinkConfigScc p2p5G command.stack command.conf command.random (some p2p.data) scc operFreq).map fun data =>
        { p2p with data := data } }

/-- The private command. The byte behind `buf` that the longest copy writes is the first of `used_len`, which is set
next. -/
def privCmd (cmd : List UInt8) : PrivCmd :=
  let cmdLen := min cmd.length privCmdSize
  { buf := overwrite (List.replicate privCmdSize 0) 0 (((cmd ++ [0]).take (cmdLen + 1)).take privCmdSize)
    usedLen := cmdLen + 1
    totalLen := privCmdSize }

def wpaDriverSendHangMsg (drvErrors : Nat) : Nat := if drvErrors + 1 > sequentialErrors then 0 else drvErrors + 1

/-- What is done with a command that is not handled. -/
def issue (command : DriverCmd) (cmd : List UInt8) (state : DriverState) : DriverState × List DriverEvent :=
  if command.ioctlFails then
    ({ state with drvErrors := wpaDriverSendHangMsg sequentialErrors state.drvErrors },
      [.ioctl (privCmd cmd) true, .reply (cLit "FAIL\n").length (some (stored command.bufLen (cLit "FAIL\n")))])
  else
    let buf := stored command.bufLen (cLit "OK\n")
    let ret := if startsWithCase (cLit "WLS_BATCHING") cmd then buf.length else (cLit "OK\n").length
    ({ state with drvErrors := 0 }, [.ioctl (privCmd cmd) false, .reply ret (some buf)])

/-- `MIRACAST`, and the command that is left to be issued. -/
def miracast (command : DriverCmd) (state : DriverState) : DriverState × List UInt8 :=
  let shared (state : DriverState) :=
    match command.sharedFreq with
    | some freq => if unsigned freq > 0 then configScc p2p5G command true (unsigned freq) state
        else configScc p2p5G command false 0 state
    | none => configScc p2p5G command false 0 state
  let value := unsignedChar (atoi (command.cmd.drop (cLit "MIRACAST ").length))
  if value = 0 ∨ value = 1 then (shared state, command.cmd)
  else if value = 2 then
    match afterFirst (cLit " freq=") command.cmd with
    | some pos => (configScc p2p5G command true (unsigned (atoi pos)) state, cLit "MIRACAST 2")
    | none => (shared state, command.cmd)
  else (state, command.cmd)

def p2pUseMcc (command : DriverCmd) (p2p : P2pGlobal) (state : DriverState) : DriverState :=
  let useMcc := unsignedChar (atoi (command.cmd.drop (cLit "p2p_use_mcc=").length))
  let state := { state with p2p := some { p2p with p2pUseMcc := useMcc } }
  if useMcc ≠ 0 then configScc p2p5G command false 0 state
  else
    match command.sharedFreq with
    | some freq => if freq > 0 then configScc p2p5G command true (unsigned freq) state
        else configScc p2p5G command false 0 state
    | none => configScc p2p5G command false 0 state

def p2pGetCapability (p2p : P2pGlobal) (bufLen : Nat) (cmd : List UInt8) : DriverEvent :=
  if startsWith (cLit "p2p_dev_capa") cmd then
    let text := cLit "p2p_dev_capa=" ++ intText p2p.devCapab.toNat ++ cLit "\n"
    .reply text.length (some (stored bufLen text))
  else if startsWith (cLit "p2p_group_capa") cmd then .reply (-1) none
  else .reply 0 none

def p2pSetCapability (p2p : P2pGlobal) (cmd : List UInt8) : P2pGlobal × DriverEvent :=
  if startsWith (cLit "p2p_dev_capa ") cmd then
    let devCap := BitVec.ofInt 32 (atoi (cmd.drop (cLit "p2p_dev_capa ").length))
    ({ p2p with devCapab := UInt8.ofNat (devCap &&& 0xff).toNat }, .reply 0 none)
  else if startsWith (cLit "p2p_group_capa ") cmd then (p2p, .reply (-1) none)
  else (p2p, .reply 0 none)

/-- A country code has the keyword, one byte and the code in front of its end, or is ignored. -/
def countryCmd (command : DriverCmd) (state : DriverState) : DriverState × List DriverEvent :=
  if command.cmd.length ≠ (cLit "COUNTRY").length + 3 then (state, [.reply 0 none])
  else if command.setCountry = 0 then
    ({ state with p2p := state.p2p.map fun p2p => { p2p with data := command.channelListChanged p2p.data } },
      [.channelListChanged ((command.cmd.drop 8).take 2), .reply command.setCountry none])
  else (state, [.reply command.setCountry none])

/-- No result where the process faults, which it does for `p2p_use_mcc=` without P2P data. -/
def driverCmd (command : DriverCmd) (state : DriverState) : Option (DriverState × List DriverEvent) :=
  match branchOf command.cmd with
  | some .elsewhere => some (state, [.reply command.elsewhere.1 command.elsewhere.2])
  | some .country => some (countryCmd command state)
  | some .p2pGetCap =>
      match state.p2p with
      | none => some (state, [.reply (-1) none])
      | some p2p =>
          some (state, [p2pGetCapability p2p command.bufLen (command.cmd.drop (cLit "p2p_get_cap ").length)])
  | some .p2pSetCap =>
      match state.p2p with
      | none => some (state, [.reply (-1) none])
      | some p2p =>
          let (p2p, reply) := p2pSetCapability p2p (command.cmd.drop (cLit "p2p_set_cap ").length)
          some ({ state with p2p := some p2p }, [reply])
  | some .miracast =>
      let (state, cmd) := miracast p2p5G command state
      some (issue sequentialErrors command cmd state)
  | some .p2pUseMcc =>
      state.p2p.map fun p2p => (p2pUseMcc p2p5G command p2p state, [.reply (-1) none])
  | some .setSuspendMode | none => some (issue sequentialErrors command command.cmd state)

def driverSystem : System DriverState DriverCmd DriverEvent :=
  ⟨fun state command => driverCmd p2p5G sequentialErrors command state⟩

end Model

/-! ## What a command does to the P2P data -/

section Effect

/-- The channels are pinned to one, or those of the configuration come back. -/
inductive Selection where
  | scc (op : OpChannel)
  | mcc (conf : WpaConfig) (random : BitVec 32)

/-- The operating channel that is selected. -/
def Selection.op : Selection → OpChannel
  | .scc op => op
  | .mcc conf random =>
      if conf.p2pOperRegClass ≠ 0 ∧ conf.p2pOperChannel ≠ 0 then
        ⟨UInt8.ofBitVec (conf.p2pOperRegClass.setWidth 8), UInt8.ofBitVec (conf.p2pOperChannel.setWidth 8)⟩
      else ⟨81, UInt8.ofNat (1 + random.toNat % 3 * 5)⟩

variable (p2p5G : Bool)

/-- Without a frequency the selection is that of MCC. -/
def DriverCmd.select (command : DriverCmd) (operFreq : Nat) : Selection :=
  if operFreq ≠ 0 then .scc ((privP2pFreqToChannel p2p5G operFreq).getD command.stack)
  else .mcc command.conf command.random

/-- What a command selects, if it does. -/
def DriverCmd.selection (command : DriverCmd) : Option Selection :=
  match branchOf command.cmd with
  | some .miracast =>
      let shared := command.select p2p5G (command.sharedFreq.elim 0 unsigned)
      let value := unsignedChar (atoi (command.cmd.drop (cLit "MIRACAST ").length))
      if value = 0 ∨ value = 1 then some shared
      else if value = 2 then
        some ((afterFirst (cLit " freq=") command.cmd).elim shared fun pos => command.select p2p5G (unsigned (atoi pos)))
      else none
  | some .p2pUseMcc =>
      if unsignedChar (atoi (command.cmd.drop (cLit "p2p_use_mcc=").length)) ≠ 0 then some (command.select p2p5G 0)
      else some (command.select p2p5G (command.sharedFreq.elim 0 fun freq => if freq > 0 then unsigned freq else 0))
  | _ => none

/-- The capability that a command sets, if it does. -/
def DriverCmd.setsCapability (command : DriverCmd) : Option UInt8 :=
  if branchOf command.cmd = some .p2pSetCap ∧
      startsWith (cLit "p2p_dev_capa ") (command.cmd.drop (cLit "p2p_set_cap ").length) then
    some (.ofNat (BitVec.ofInt 32 (atoi ((command.cmd.drop (cLit "p2p_set_cap ").length).drop
      (cLit "p2p_dev_capa ").length)) &&& 0xff).toNat)
  else none

/-- The value that `p2p_use_mcc=` stores. -/
def DriverCmd.setsUseMcc (command : DriverCmd) : Option UInt8 :=
  if branchOf command.cmd = some .p2pUseMcc then
    some (unsignedChar (atoi (command.cmd.drop (cLit "p2p_use_mcc=").length)))
  else none

def Selection.apply (selection : Selection) (data : P2pData) : P2pData :=
  { opRegClass := selection.op.opClass
    opChannel := selection.op.channel
    channels :=
      match selection with
      | .scc op => data.channels.pin op
      | .mcc _ _ => data.cfg.channels
    cfg :=
      match selection with
      | .scc _ => data.cfg
      | .mcc conf _ =>
          { data.cfg with cfgOpChannel := if conf.p2pOperRegClass ≠ 0 ∧ conf.p2pOperChannel ≠ 0 then 1 else 0 } }

/-- The command sets the country, and the supplicant hears of it. -/
def DriverCmd.ChangesCountry (command : DriverCmd) : Prop :=
  branchOf command.cmd = some .country ∧ command.cmd.length = 10 ∧ command.setCountry = 0

instance (command : DriverCmd) : Decidable command.ChangesCountry := inferInstanceAs (Decidable (_ ∧ _ ∧ _))

/-- What a command does to the channels. -/
def DriverCmd.change (command : DriverCmd) (data : P2pData) : P2pData :=
  if command.ChangesCountry then command.channelListChanged data
  else (command.selection p2p5G).elim data fun selection => selection.apply data

def DriverCmd.effect (command : DriverCmd) (p2p : P2pGlobal) : P2pGlobal :=
  { data := command.change p2p5G p2p.data
    devCapab := command.setsCapability.getD p2p.devCapab
    p2pUseMcc := command.setsUseMcc.getD p2p.p2pUseMcc }

variable {p2p5G} {command : DriverCmd} {state next : DriverState} {out : List DriverEvent} {sequentialErrors : Nat}

theorem p2pWfdSinkConfigScc_eq (command : DriverCmd) (data : P2pData) (scc : Bool) (operFreq : Nat) :
    p2pWfdSinkConfigScc p2p5G command.stack command.conf command.random (some data) scc operFreq =
      some ((command.select p2p5G (if scc then operFreq else 0)).apply data) := by
  rcases Decidable.em (scc = true ∧ operFreq ≠ 0) with pinned | free
  · rw [p2pWfdSinkConfigScc, if_pos pinned, if_pos pinned.1, DriverCmd.select, if_pos pinned.2]
    rfl
  · have zero : (if scc then operFreq else 0) = 0 := by
      split_ifs with given
      · exact Decidable.not_not.mp fun some => free ⟨given, some⟩
      · rfl
    rw [p2pWfdSinkConfigScc, if_neg free, zero, DriverCmd.select, if_neg fun some : 0 ≠ 0 => some rfl]
    unfold Selection.apply Selection.op
    dsimp only
    split_ifs <;> rfl

theorem configScc_eq (command : DriverCmd) (scc : Bool) (operFreq : Nat) (state : DriverState) :
    configScc p2p5G command scc operFreq state =
      { state with p2p := state.p2p.map fun p2p =>
          { p2p with data := (command.select p2p5G (if scc then operFreq else 0)).apply p2p.data } } := by
  rw [configScc]
  cases state.p2p with
  | none => rfl
  | some p2p =>
    rw [Option.bind_some, p2pWfdSinkConfigScc_eq]
    rfl

/-- Any other command leaves the country. -/
theorem change_eq_selection {data : P2pData} (branch : branchOf command.cmd ≠ some .country) :
    command.change p2p5G data = (command.selection p2p5G).elim data fun selection => selection.apply data :=
  if_neg fun changes => branch changes.1

theorem miracast_effect (branch : branchOf command.cmd = some .miracast) :
    (miracast p2p5G command state).1.p2p = state.p2p.map (command.effect p2p5G) := by
  have others : command.setsCapability = none ∧ command.setsUseMcc = none := by
    rw [DriverCmd.setsCapability, DriverCmd.setsUseMcc, branch]
    exact ⟨rfl, rfl⟩
  have shared : (match command.sharedFreq with
      | some freq => if unsigned freq > 0 then configScc p2p5G command true (unsigned freq) state
          else configScc p2p5G command false 0 state
      | none => configScc p2p5G command false 0 state) =
      { state with p2p := state.p2p.map fun p2p =>
          { p2p with data := (command.select p2p5G (command.sharedFreq.elim 0 unsigned)).apply p2p.data } } := by
    cases command.sharedFreq with
    | none => exact configScc_eq command false 0 state
    | some freq =>
      dsimp only
      split_ifs with given
      · exact configScc_eq command true (unsigned freq) state
      · have zero : unsigned freq = 0 := by omega
        rw [Option.elim_some, zero]
        exact configScc_eq command false 0 state
  unfold DriverCmd.effect
  simp only [change_eq_selection (show branchOf command.cmd ≠ some .country by simp [branch])]
  rw [miracast, DriverCmd.selection, branch, others.1, others.2]
  dsimp only
  rw [shared]
  split_ifs with first second
  · rfl
  · cases afterFirst (cLit " freq=") command.cmd with
    | none => rfl
    | some pos =>
      dsimp only
      rw [configScc_eq, if_pos rfl]
      rfl
  · exact Option.map_id'.symm

theorem p2pUseMcc_effect {p2p : P2pGlobal} (branch : branchOf command.cmd = some .p2pUseMcc) :
    (p2pUseMcc p2p5G command p2p state).p2p = some (command.effect p2p5G p2p) := by
  have capability : command.setsCapability = none := by
    rw [DriverCmd.setsCapability, branch]
    rfl
  rw [p2pUseMcc, DriverCmd.effect, change_eq_selection (by simp [branch]), DriverCmd.selection, DriverCmd.setsUseMcc,
    branch, capability, if_pos rfl]
  dsimp only
  split_ifs with given
  · rw [configScc_eq]
    rfl
  · cases command.sharedFreq with
    | none =>
      dsimp only
      rw [configScc_eq]
      rfl
    | some freq =>
      dsimp only
      rcases Decidable.em (freq > 0) with positive | negative
      · have chosen : (some freq).elim 0 (fun freq => if freq > 0 then unsigned freq else 0) = unsigned freq :=
          if_pos positive
        rw [if_pos positive, chosen, configScc_eq]
        rfl
      · have chosen : (some freq).elim 0 (fun freq => if freq > 0 then unsigned freq else 0) = 0 := if_neg negative
        rw [if_neg negative, chosen, configScc_eq]
        rfl

theorem issue_p2p {cmd : List UInt8} (done : some (issue sequentialErrors command cmd state) = some (next, out)) :
    next.p2p = state.p2p := by
  rw [issue] at done
  split_ifs at done <;> cases done <;> rfl

theorem selection_of_other (miracast : branchOf command.cmd ≠ some .miracast)
    (useMcc : branchOf command.cmd ≠ some .p2pUseMcc) : command.selection p2p5G = none := by
  unfold DriverCmd.selection
  split
  · contradiction
  · contradiction
  · rfl

/-- A command without a branch in which it selects or sets anything has no effect. -/
theorem effect_of_other (country : branchOf command.cmd ≠ some .country)
    (getCap : branchOf command.cmd ≠ some .p2pSetCap)
    (miracast : branchOf command.cmd ≠ some .miracast) (useMcc : branchOf command.cmd ≠ some .p2pUseMcc) :
    command.effect p2p5G = id := by
  funext p2p
  have capability : command.setsCapability = none := if_neg fun both => getCap both.1
  have stored : command.setsUseMcc = none := if_neg useMcc
  rw [DriverCmd.effect, change_eq_selection country, selection_of_other miracast useMcc, capability, stored]
  rfl

theorem countryCmd_effect (branch : branchOf command.cmd = some .country) :
    (countryCmd command state).1.p2p = state.p2p.map (command.effect p2p5G) := by
  have keeps : command.setsCapability = none ∧ command.setsUseMcc = none := by
    rw [DriverCmd.setsCapability, DriverCmd.setsUseMcc, branch]
    exact ⟨rfl, rfl⟩
  have effect : command.effect p2p5G = fun p2p => { p2p with data :=
      if command.ChangesCountry then command.channelListChanged p2p.data else p2p.data } := by
    funext p2p
    rw [DriverCmd.effect, DriverCmd.change, keeps.1, keeps.2, selection_of_other (by simp [branch]) (by simp [branch])]
    rfl
  have size : (cLit "COUNTRY").length + 3 = 10 := rfl
  rw [effect, countryCmd, size]
  by_cases changes : command.ChangesCountry
  · obtain ⟨-, long, sets⟩ := id changes
    rw [if_neg (not_not.mpr long), if_pos sets]
    simp only [changes, ↓reduceIte]
  · simp only [changes, ↓reduceIte]
    rw [show (fun p2p : P2pGlobal => { p2p with data := p2p.data }) = id from rfl, Option.map_id]
    split_ifs with short sets
    · rfl
    · exact absurd ⟨branch, not_not.mp short, sets⟩ changes
    · rfl

theorem p2pSetCapability_effect {p2p : P2pGlobal} (branch : branchOf command.cmd = some .p2pSetCap) :
    (p2pSetCapability p2p (command.cmd.drop (cLit "p2p_set_cap ").length)).1 = command.effect p2p5G p2p := by
  have stored : command.setsUseMcc = none := by
    rw [DriverCmd.setsUseMcc, branch]
    rfl
  rw [p2pSetCapability, DriverCmd.effect, change_eq_selection (by simp [branch]),
    selection_of_other (by simp [branch]) (by simp [branch]), DriverCmd.setsCapability, branch, stored]
  split_ifs with first second third
  all_goals simp_all

theorem driverCmd_effect (done : driverCmd p2p5G sequentialErrors command state = some (next, out)) :
    next.p2p = state.p2p.map (command.effect p2p5G) := by
  rw [driverCmd] at done
  cases branch : branchOf command.cmd with
  | none =>
    rw [branch] at done
    rw [issue_p2p done, effect_of_other (by simp [branch]) (by simp [branch]) (by simp [branch]) (by simp [branch]),
        Option.map_id]
    rfl
  | some taken =>
    rw [branch] at done
    cases taken with
    | elsewhere =>
      cases done
      rw [effect_of_other (by simp [branch]) (by simp [branch]) (by simp [branch]) (by simp [branch]),
        Option.map_id]
      rfl
    | country =>
      have result := congrArg Prod.fst (Option.some.inj done)
      dsimp only at result
      rw [← result]
      exact countryCmd_effect branch
    | setSuspendMode =>
      rw [issue_p2p done, effect_of_other (by simp [branch]) (by simp [branch]) (by simp [branch]) (by simp [branch]),
        Option.map_id]
      rfl
    | p2pGetCap =>
      rw [effect_of_other (by simp [branch]) (by simp [branch]) (by simp [branch]) (by simp [branch]),
        Option.map_id]
      cases known : state.p2p with
      | none =>
        rw [known] at done
        cases done
        exact known
      | some p2p =>
        rw [known] at done
        cases done
        exact known
    | p2pSetCap =>
      cases known : state.p2p with
      | none =>
        rw [known] at done
        cases done
        exact known
      | some p2p =>
        rw [known] at done
        cases done
        exact congrArg some (p2pSetCapability_effect branch)
    | miracast =>
      exact (issue_p2p done).trans (miracast_effect branch)
    | p2pUseMcc =>
      obtain ⟨p2p, known, equal⟩ := Option.map_eq_some_iff.mp done
      cases equal
      rw [known, Option.map_some, p2pUseMcc_effect branch]

end Effect

/-! ## Runs -/

section Runs

variable {p2p5G : Bool} {sequentialErrors : Nat} {s t : DriverState} {tape : List DriverCmd} {trace : List DriverEvent}

theorem run_effect (ran : (driverSystem p2p5G sequentialErrors).run s tape = some (t, trace)) :
    t.p2p = s.p2p.map fun p2p => tape.foldl (fun p2p command => command.effect p2p5G p2p) p2p := by
  induction tape generalizing s trace with
  | nil =>
    cases ran
    exact Option.map_id'.symm
  | cons command rest ih =>
    obtain ⟨next, out, later, done, tail, rfl⟩ := System.run_cons_iff.mp ran
    rw [ih tail, driverCmd_effect done, Option.map_map]
    rfl

/-- A register holds what the last command that sets it has set. -/
theorem foldl_getD {α β : Type*} (sets : α → Option β) (tape : List α) (initial : β) :
    tape.foldl (fun value a => (sets a).getD value) initial = ((tape.filterMap sets).getLast?).getD initial := by
  induction tape using List.reverseRecOn with
  | nil => rfl
  | append_singleton rest a ih =>
    rw [List.foldl_append, ih, List.filterMap_append]
    cases chosen : sets a with
    | none => simp [chosen]
    | some value => simp [chosen]

theorem foldl_effect (tape : List DriverCmd) (p2p : P2pGlobal) :
    tape.foldl (fun p2p command => command.effect p2p5G p2p) p2p =
      { data := tape.foldl (fun data command => command.change p2p5G data) p2p.data
        devCapab := ((tape.filterMap DriverCmd.setsCapability).getLast?).getD p2p.devCapab
        p2pUseMcc := ((tape.filterMap DriverCmd.setsUseMcc).getLast?).getD p2p.p2pUseMcc } := by
  rw [← foldl_getD, ← foldl_getD]
  induction tape generalizing p2p with
  | nil => rfl
  | cons command rest ih =>
    rw [List.foldl_cons, ih, List.foldl_cons, List.foldl_cons, List.foldl_cons]
    rfl

/-- Between changes of the country, only selections touch the channels. -/
theorem foldl_change {tape : List DriverCmd} (settled : ∀ command ∈ tape, ¬ command.ChangesCountry) (data : P2pData) :
    tape.foldl (fun data command => command.change p2p5G data) data =
      (tape.filterMap (DriverCmd.selection p2p5G)).foldl (fun data selection => selection.apply data) data := by
  induction tape generalizing data with
  | nil => rfl
  | cons command rest ih =>
    have later := fun command member => settled command (List.mem_cons_of_mem _ member)
    rw [List.foldl_cons, ih later, DriverCmd.change, if_neg (settled command List.mem_cons_self)]
    cases chosen : command.selection p2p5G with
    | none =>
      rw [List.filterMap_cons_none chosen]
      rfl
    | some selection =>
      rw [List.filterMap_cons_some chosen]
      rfl

/-- The number that is read, in a byte. -/
theorem capability_toNat (value : Int) :
    (UInt8.ofNat (BitVec.ofInt 32 value &&& 0xff).toNat).toNat = (value % 256).toNat := by
  have low : (BitVec.ofInt 32 value &&& 0xff).toNat = (BitVec.ofInt 32 value).toNat % 2 ^ 8 := by
    rw [BitVec.toNat_and]
    exact Nat.and_two_pow_sub_one_eq_mod _ 8
  rw [UInt8.toNat_ofNat', low, BitVec.toNat_ofInt]
  omega

/-- The capability that was set last is read back modulo 256, whatever other commands come between. -/
theorem capability_read_back {before middle : List DriverCmd} {set get : DriverCmd} {value : Int} {rest suffix : List UInt8}
    (fits : -2 ^ 31 ≤ value ∧ value < 2 ^ 31) (ends : ∀ c ∈ rest.head?, isDigit c = false)
    (sets : set.cmd = cLit "p2p_set_cap p2p_dev_capa " ++ (intText value ++ rest))
    (gets : get.cmd = cLit "p2p_get_cap p2p_dev_capa" ++ suffix)
    (others : ∀ command ∈ middle, command.setsCapability = none) (present : s.p2p ≠ none)
    (ran : (driverSystem p2p5G sequentialErrors).run s (before ++ set :: middle ++ [get]) = some (t, trace)) :
    ∃ earlier text, trace = earlier ++ [.reply text.length (some (stored get.bufLen text))] ∧
      text = cLit "p2p_dev_capa=" ++ decimalText (value % 256).toNat ++ cLit "\n" := by
  obtain ⟨mid, earlier, last, early, late, rfl⟩ := System.run_append_iff.mp ran
  obtain ⟨p2p, known⟩ := Option.ne_none_iff_exists'.mp present
  have branch : branchOf set.cmd = some .p2pSetCap := by
    rw [sets]
    rfl
  have given : set.setsCapability = some (.ofNat (BitVec.ofInt 32 value &&& 0xff).toNat) := by
    have argument : set.cmd.drop (cLit "p2p_set_cap ").length = cLit "p2p_dev_capa " ++ (intText value ++ rest) := by
      rw [sets]
      rfl
    have keyword : startsWith (cLit "p2p_dev_capa ") (cLit "p2p_dev_capa " ++ (intText value ++ rest)) = true := rfl
    rw [DriverCmd.setsCapability, argument, if_pos ⟨branch, keyword⟩, List.drop_left, atoi_intText fits ends]
  obtain ⟨held, here, capability⟩ : ∃ held, mid.p2p = some held ∧
      held.devCapab = .ofNat (BitVec.ofInt 32 value &&& 0xff).toNat := by
    refine ⟨_, (run_effect early).trans (congrArg (Option.map _) known), ?_⟩
    dsimp only
    rw [foldl_effect]
    dsimp only
    rw [List.filterMap_append, List.filterMap_cons_some given, List.filterMap_eq_nil_iff.mpr others,
      List.getLast?_concat]
    rfl
  obtain ⟨next, out, later, done, tail, rfl⟩ := System.run_cons_iff.mp late
  cases tail
  have reads : branchOf get.cmd = some .p2pGetCap := by
    rw [gets]
    rfl
  have argument : get.cmd.drop (cLit "p2p_get_cap ").length = cLit "p2p_dev_capa" ++ suffix := by
    rw [gets]
    rfl
  have keyword : startsWith (cLit "p2p_dev_capa") (cLit "p2p_dev_capa" ++ suffix) = true := rfl
  have done : driverCmd p2p5G sequentialErrors get mid = some (t, out) := done
  rw [driverCmd, reads, here] at done
  cases done
  rw [argument, p2pGetCapability, if_pos keyword, capability, capability_toNat, intText, if_neg (by omega)]
  exact ⟨earlier, _, rfl, rfl⟩

/-- A command that meets no interface, no configured channel and a driver that accepts it. -/
def plainCommand (cmd : List UInt8) : DriverCmd := ⟨cmd, 64, ⟨0, 0⟩, [], true, 0, ⟨0, 0⟩, false, -1, id, (-1, none)⟩

def blankState : DriverState := ⟨some ⟨blankP2p, 0, 0⟩, 0⟩

def setTo300 : DriverCmd := plainCommand (cLit "p2p_set_cap p2p_dev_capa " ++ (intText 300 ++ []))

def pinTo36 : DriverCmd := plainCommand (cLit "MIRACAST 2 freq=5180")

def setGroup : DriverCmd := plainCommand (cLit "p2p_set_cap p2p_group_capa 5")

def getCapability : DriverCmd := plainCommand (cLit "p2p_get_cap p2p_dev_capa" ++ [])

/-- 300 is set and 44 is read. -/
theorem capability_read_back_300 : ∃ t trace,
    (driverSystem false 4).run blankState [setTo300, setGroup, pinTo36, getCapability] = some (t, trace) ∧
      ∃ earlier text, trace = earlier ++ [.reply text.length (some (stored 64 text))] ∧
        text = cLit "p2p_dev_capa=" ++ decimalText 44 ++ cLit "\n" := by
  obtain ⟨t, trace, ran⟩ : ∃ t trace,
      (driverSystem false 4).run blankState [setTo300, setGroup, pinTo36, getCapability] = some (t, trace) :=
    ⟨_, _, rfl⟩
  have other : ∀ command ∈ [setGroup, pinTo36], command.setsCapability = none :=
    List.forall_mem_cons.mpr ⟨by decide, List.forall_mem_singleton.mpr (by decide)⟩
  exact ⟨t, trace, ran, @capability_read_back false 4 blankState t trace [] [setGroup, pinTo36] setTo300 getCapability
    300 [] [] (by decide) nofun rfl rfl other nofun ran⟩

end Runs

section Channels

variable {p2p5G : Bool} {sequentialErrors : Nat} {s t : DriverState} {tape : List DriverCmd} {trace : List DriverEvent}

def Selection.isMcc : Selection → Bool
  | .scc _ => false
  | .mcc _ _ => true

/-- Pinning again forgets the channel pinned before. -/
theorem pin_pin (channels : P2pChannels) (first second : OpChannel) :
    (channels.pin first).pin second = channels.pin second := by
  simp only [P2pChannels.pin, Function.update_self, Function.update_idem]

/-- What the selections of a run leave. The last one decides on the operating channel. Multi-channel mode brings the
configured channels back; a pinned channel takes the place of the first class of the channels before, which are the
configured ones exactly if multi-channel mode has been selected earlier. -/
structure Selected (chosen : List Selection) (before after : P2pData) : Prop where
  cfg : after.cfg.channels = before.cfg.channels
  op : (⟨after.opRegClass, after.opChannel⟩ : OpChannel) =
    (chosen.getLast?.map Selection.op).getD ⟨before.opRegClass, before.opChannel⟩
  channels : after.channels =
    match chosen.getLast? with
    | none => before.channels
    | some (.mcc _ _) => before.cfg.channels
    | some (.scc op) => (if chosen.any Selection.isMcc then before.cfg.channels else before.channels).pin op

theorem selected_foldl (chosen : List Selection) (data : P2pData) :
    Selected chosen data (chosen.foldl (fun data selection => selection.apply data) data) := by
  induction chosen using List.reverseRecOn with
  | nil => exact ⟨rfl, rfl, rfl⟩
  | append_singleton earlier last ih =>
    rw [List.foldl_append, List.foldl_cons, List.foldl_nil]
    generalize earlier.foldl (fun data selection => selection.apply data) data = middle at ih
    have newest : (earlier ++ [last]).getLast? = some last := List.getLast?_concat
    cases last with
    | mcc conf random =>
      refine ⟨ih.cfg, by rw [newest]; rfl, ?_⟩
      rw [newest]
      exact ih.cfg
    | scc op =>
      refine ⟨ih.cfg, by rw [newest]; rfl, ?_⟩
      rw [newest, List.any_append]
      have same : earlier.any Selection.isMcc = (earlier.any Selection.isMcc || [Selection.scc op].any Selection.isMcc) :=
        (Bool.or_false _).symm
      rw [← same]
      change middle.channels.pin op = _
      rw [ih.channels]
      rcases List.eq_nil_or_concat earlier with rfl | ⟨first, second, rfl⟩
      · rfl
      · rw [List.concat_eq_append, List.getLast?_concat, List.any_append]
        cases second with
        | mcc => simp [Selection.isMcc]
        | scc => exact pin_pin _ _ _

/-- Pinned to channel 36, and back; the country is refused. -/
def pinAndBack : List DriverCmd :=
  [pinTo36, plainCommand (cLit "COUNTRY US"), plainCommand (cLit "p2p_use_mcc=1")]

end Channels

section Private

variable {p2p5G : Bool} {sequentialErrors : Nat} {s t : DriverState} {tape : List DriverCmd} {trace : List DriverEvent}
  {command : DriverCmd} {next : DriverState} {out : List DriverEvent}

/-- The text that goes to the driver, if one does. -/
def DriverCmd.issued (command : DriverCmd) : Option (List UInt8) :=
  match branchOf command.cmd with
  | some .setSuspendMode | none => some command.cmd
  | some .miracast =>
      if unsignedChar (atoi (command.cmd.drop (cLit "MIRACAST ").length)) = 2 ∧
          (afterFirst (cLit " freq=") command.cmd).isSome then some (cLit "MIRACAST 2")
      else some command.cmd
  | _ => none

/-- The private commands of a history, each with whether it failed. -/
def DriverEvent.issue : DriverEvent → Option (PrivCmd × Bool)
  | .ioctl privCmd fails => some (privCmd, fails)
  | .channelListChanged _ | .reply _ _ => none

def DriverCmd.issue (command : DriverCmd) : Option (PrivCmd × Bool) :=
  command.issued.map fun text => (privCmd text, command.ioctlFails)

/-- How many of the last results were failures. -/
def failuresAtEnd (results : List Bool) : Nat := (results.reverse.takeWhile id).length

def countErrors (sequentialErrors drvErrors : Nat) (fails : Bool) : Nat :=
  if fails then wpaDriverSendHangMsg sequentialErrors drvErrors else 0

theorem issue_spec {cmd : List UInt8} {state : DriverState}
    (done : some (issue sequentialErrors command cmd state) = some (next, out)) :
    out.filterMap DriverEvent.issue = [(privCmd cmd, command.ioctlFails)] ∧
      next.drvErrors = countErrors sequentialErrors state.drvErrors command.ioctlFails := by
  rw [issue] at done
  split_ifs at done with fails <;> cases done <;> simp [fails, DriverEvent.issue, countErrors]

theorem miracast_issued {state : DriverState} (branch : branchOf command.cmd = some .miracast) :
    (miracast p2p5G command state).1.drvErrors = state.drvErrors ∧
      command.issued = some (miracast p2p5G command state).2 := by
  have shared : (match command.sharedFreq with
      | some freq => if unsigned freq > 0 then configScc p2p5G command true (unsigned freq) state
          else configScc p2p5G command false 0 state
      | none => configScc p2p5G command false 0 state).drvErrors = state.drvErrors := by
    split
    · split_ifs <;> rfl
    · rfl
  rw [miracast, DriverCmd.issued, branch]
  dsimp only
  generalize unsignedChar (atoi (command.cmd.drop (cLit "MIRACAST ").length)) = value
  rcases Decidable.em (value = 0 ∨ value = 1) with first | later
  · have other : value ≠ 2 := by
      rintro rfl
      exact absurd first (by decide)
    rw [if_pos first, if_neg fun both => other both.1]
    exact ⟨shared, rfl⟩
  rw [if_neg later]
  rcases Decidable.em (value = 2) with rfl | other
  · rw [if_pos rfl]
    cases found : afterFirst (cLit " freq=") command.cmd with
    | none =>
      rw [if_neg fun both => Bool.false_ne_true both.2]
      exact ⟨shared, rfl⟩
    | some pos =>
      rw [if_pos ⟨rfl, rfl⟩]
      exact ⟨rfl, rfl⟩
  · rw [if_neg other, if_neg fun both => other both.1]
    exact ⟨rfl, rfl⟩

theorem p2pUseMcc_drvErrors (p2p : P2pGlobal) (state : DriverState) :
    (p2pUseMcc p2p5G command p2p state).drvErrors = state.drvErrors := by
  rw [p2pUseMcc]
  split_ifs
  · rfl
  · split
    · split_ifs <;> rfl
    · rfl

/-- What a command issues, and what becomes of the count of errors. -/
theorem driverCmd_issue {state : DriverState}
    (done : driverCmd p2p5G sequentialErrors command state = some (next, out)) :
    out.filterMap DriverEvent.issue = command.issue.toList ∧
      next.drvErrors = command.issue.elim state.drvErrors
        fun issue => countErrors sequentialErrors state.drvErrors issue.2 := by
  have silent {next' : DriverState} {ret : Int} {buf : Option (List UInt8)} (equal : (next', [.reply ret buf]) = (next, out))
      (same : next'.drvErrors = state.drvErrors) (issued : command.issued = none) :
      out.filterMap DriverEvent.issue = command.issue.toList ∧
        next.drvErrors = command.issue.elim state.drvErrors
          fun issue => countErrors sequentialErrors state.drvErrors issue.2 := by
    cases equal
    rw [DriverCmd.issue, issued]
    exact ⟨rfl, same⟩
  have issues {state' : DriverState} {cmd : List UInt8} (issued : command.issued = some cmd)
      (same : state'.drvErrors = state.drvErrors)
      (done : some (issue sequentialErrors command cmd state') = some (next, out)) :
      out.filterMap DriverEvent.issue = command.issue.toList ∧
        next.drvErrors = command.issue.elim state.drvErrors
          fun issue => countErrors sequentialErrors state.drvErrors issue.2 := by
    rw [DriverCmd.issue, issued, ← same]
    exact issue_spec done
  have unissued (taken : Branch) (branch : branchOf command.cmd = some taken) (suspend : taken ≠ .setSuspendMode)
      (miracast : taken ≠ .miracast) : command.issued = none := by
    rw [DriverCmd.issued, branch]
    cases taken <;> first | rfl | contradiction
  rw [driverCmd] at done
  cases branch : branchOf command.cmd with
  | none =>
    rw [branch] at done
    exact issues (by rw [DriverCmd.issued, branch]) rfl done
  | some taken =>
    rw [branch] at done
    cases taken with
    | elsewhere => exact silent (Option.some.inj done) rfl (unissued _ branch nofun nofun)
    | country =>
      have issued := unissued _ branch nofun nofun
      have done := Option.some.inj done
      rw [countryCmd] at done
      rw [DriverCmd.issue, issued]
      split_ifs at done <;> cases done <;> exact ⟨rfl, rfl⟩
    | setSuspendMode => exact issues (by rw [DriverCmd.issued, branch]) rfl done
    | p2pGetCap =>
      cases known : state.p2p with
      | none =>
        rw [known] at done
        exact silent (Option.some.inj done) rfl (unissued _ branch nofun nofun)
      | some p2p =>
        rw [known] at done
        dsimp only at done
        rw [p2pGetCapability] at done
        split_ifs at done <;> exact silent (Option.some.inj done) rfl (unissued _ branch nofun nofun)
    | p2pSetCap =>
      cases known : state.p2p with
      | none =>
        rw [known] at done
        exact silent (Option.some.inj done) rfl (unissued _ branch nofun nofun)
      | some p2p =>
        rw [known] at done
        dsimp only at done
        rw [p2pSetCapability] at done
        split_ifs at done <;> exact silent (Option.some.inj done) rfl (unissued _ branch nofun nofun)
    | miracast =>
      obtain ⟨same, issued⟩ := @miracast_issued p2p5G command state branch
      exact issues issued same done
    | p2pUseMcc =>
      obtain ⟨p2p, known, equal⟩ := Option.map_eq_some_iff.mp done
      exact silent equal (p2pUseMcc_drvErrors p2p state) (unissued _ branch nofun nofun)

theorem failuresAtEnd_concat (earlier : List Bool) (fails : Bool) :
    failuresAtEnd (earlier ++ [fails]) = if fails then failuresAtEnd earlier + 1 else 0 := by
  rw [failuresAtEnd, List.reverse_append]
  cases fails <;> rfl

theorem foldl_countErrors (results : List Bool) :
    results.foldl (countErrors sequentialErrors) 0 = failuresAtEnd results % (sequentialErrors + 1) := by
  induction results using List.reverseRecOn with
  | nil => rfl
  | append_singleton earlier fails ih =>
    rw [List.foldl_append, ih, List.foldl_cons, List.foldl_nil, failuresAtEnd_concat]
    cases fails with
    | false => exact (Nat.zero_mod _).symm
    | true =>
      have small : failuresAtEnd earlier % (sequentialErrors + 1) < sequentialErrors + 1 :=
        Nat.mod_lt _ (Nat.succ_pos sequentialErrors)
      rw [countErrors, if_pos rfl, if_pos rfl, wpaDriverSendHangMsg, ← Nat.mod_add_mod]
      split_ifs with full
      · have last : failuresAtEnd earlier % (sequentialErrors + 1) + 1 = sequentialErrors + 1 := by omega
        rw [last, Nat.mod_self]
      · exact (Nat.mod_eq_of_lt (by omega)).symm

/-- The driver finds the command in `buf` exactly if there is room for its end. -/
theorem privCmd_reads_back_iff {cmd : List UInt8} (plain : 0 ∉ cmd) :
    cString (privCmd cmd).buf = some cmd ↔ cmd.length < privCmdSize := by
  rw [privCmd]
  dsimp only
  by_cases short : cmd.length < privCmdSize
  · have whole : ((cmd ++ [0]).take (min cmd.length privCmdSize + 1)).take privCmdSize = cmd ++ [0] := by
      rw [Nat.min_eq_left (by omega), List.take_of_length_le (by simp; omega), List.take_of_length_le (by simp)]
    rw [whole, overwrite, List.take_zero, List.nil_append, List.append_assoc, List.singleton_append,
      cString_of_ended plain]
    exact iff_of_true rfl short
  · have long : privCmdSize ≤ cmd.length := by omega
    have cut : ((cmd ++ [0]).take (min cmd.length privCmdSize + 1)).take privCmdSize = cmd.take privCmdSize := by
      rw [Nat.min_eq_right long, List.take_take, Nat.min_eq_left (by omega), List.take_append_of_le_length long]
    have full : (cmd.take privCmdSize).length = privCmdSize := List.length_take_of_le long
    have unended : 0 ∉ cmd.take privCmdSize := fun zero => plain (List.mem_of_mem_take zero)
    have object := overwrite_whole (full.trans (List.length_replicate (n := privCmdSize) (a := (0 : UInt8))).symm)
    rw [cut, object, cString, if_neg unended]
    exact iff_of_false (Option.some_ne_none cmd).symm short

/-- In every run the private commands go to the driver in their order, each whole where it is short enough, and
`drv_errors` counts the failures since the last success modulo its bound. -/
theorem driver_issues (fresh : s.drvErrors = 0)
    (ran : (driverSystem p2p5G sequentialErrors).run s tape = some (t, trace)) :
    trace.filterMap DriverEvent.issue = tape.filterMap DriverCmd.issue ∧
      t.drvErrors =
        failuresAtEnd ((tape.filterMap DriverCmd.issue).map Prod.snd) % (sequentialErrors + 1) ∧
      ∀ cmd ∈ tape.filterMap DriverCmd.issued, 0 ∉ cmd →
        (cString (privCmd cmd).buf = some cmd ↔ cmd.length < privCmdSize) := by
  have counted {s t : DriverState} {trace : List DriverEvent} (tape : List DriverCmd)
      (ran : (driverSystem p2p5G sequentialErrors).run s tape = some (t, trace)) :
      trace.filterMap DriverEvent.issue = tape.filterMap DriverCmd.issue ∧
        t.drvErrors =
          ((tape.filterMap DriverCmd.issue).map Prod.snd).foldl (countErrors sequentialErrors) s.drvErrors := by
    induction tape generalizing s trace with
    | nil =>
      cases ran
      exact ⟨rfl, rfl⟩
    | cons command rest ih =>
      obtain ⟨next, out, later, done, tail, rfl⟩ := System.run_cons_iff.mp ran
      obtain ⟨events, errors⟩ := driverCmd_issue done
      obtain ⟨laterEvents, laterErrors⟩ := ih tail
      rw [List.filterMap_append, events, laterEvents, laterErrors, errors]
      cases issued : command.issue with
      | none =>
        rw [List.filterMap_cons_none issued]
        exact ⟨rfl, rfl⟩
      | some issue =>
        rw [List.filterMap_cons_some issued]
        exact ⟨rfl, rfl⟩
  obtain ⟨events, errors⟩ := counted tape ran
  rw [fresh, foldl_countErrors] at errors
  exact ⟨events, errors, fun cmd _ plain => privCmd_reads_back_iff plain⟩

def failingCommand (cmd : List UInt8) : DriverCmd := { plainCommand cmd with ioctlFails := true }

/-- Two failures in a row. -/
theorem driver_issues_failing : ∃ t trace, (driverSystem false 4).run blankState
    [failingCommand (cLit "SETBAND 1"), failingCommand (cLit "WLS_BATCHING STOP")] = some (t, trace) ∧
      trace.filterMap DriverEvent.issue =
        [(privCmd (cLit "SETBAND 1"), true), (privCmd (cLit "WLS_BATCHING STOP"), true)] ∧ t.drvErrors = 2 := by
  obtain ⟨t, trace, ran⟩ : ∃ t trace, (driverSystem false 4).run blankState
      [failingCommand (cLit "SETBAND 1"), failingCommand (cLit "WLS_BATCHING STOP")] = some (t, trace) := ⟨_, _, rfl⟩
  obtain ⟨events, errors, -⟩ := @driver_issues false 4 blankState t _ trace rfl ran
  exact ⟨t, trace, ran, events, errors⟩

end Private

end Mt6582.Wpa

import Mathlib.Logic.Function.Basic
import Mathlib.Data.BitVec

/-! # The operating channel of a WFD sink

`p2p_wfd_sink_config_scc` pins the P2P channels to the frequency of the infrastructure connection. It does not look at the
result of `priv_p2p_freq_to_channel`, which writes its outputs only on success, so for a frequency it rejects the bytes that
happen to be on the stack become the configuration. The bands of `CONFIG_MTK_P2P_5G` accept every frequency between their
ends and round it down to a channel. Arrays are functions of the index, as their sizes are not in these sources.
-/

namespace Mt6582.Wpa

/-- `struct p2p_reg_class`. -/
structure P2pRegClass where
  regClass : UInt8
  channel : Nat → UInt8
  channels : Nat

/-- `struct p2p_channels`. -/
structure P2pChannels where
  regClass : Nat → P2pRegClass
  regClasses : Nat

/-- The fields of `struct p2p_config` that are used. -/
structure P2pConfig where
  cfgOpChannel : UInt8
  channels : P2pChannels

/-- The fields of `struct p2p_data` that are used. -/
structure P2pData where
  opRegClass : UInt8
  opChannel : UInt8
  channels : P2pChannels
  cfg : P2pConfig

/-- The configured class and channel. -/
structure WpaConfig where
  p2pOperRegClass : BitVec 32
  p2pOperChannel : BitVec 32

/-- An operating class and a channel. -/
structure OpChannel where
  opClass : UInt8
  channel : UInt8
deriving DecidableEq, Repr

/-- `(freq - base) / 5` in a byte. -/
def channelAbove (base freq : Nat) : UInt8 := UInt8.ofNat ((freq - base) / 5)

/-- `priv_p2p_freq_to_channel`; `p2p5G` is `CONFIG_MTK_P2P_5G`. Where it returns -1, its outputs are not written. -/
def privP2pFreqToChannel (p2p5G : Bool) (freq : Nat) : Option OpChannel :=
  if 2412 ≤ freq ∧ freq ≤ 2472 then
    if (freq - 2407) % 5 ≠ 0 then none else some ⟨81, channelAbove 2407 freq⟩
  else if freq = 2484 then some ⟨82, 14⟩
  else if 5180 ≤ freq ∧ freq ≤ 5240 then
    if (freq - 5000) % 5 ≠ 0 then none else some ⟨115, channelAbove 5000 freq⟩
  else if p2p5G = true ∧ 5260 ≤ freq ∧ freq ≤ 5320 then some ⟨118, channelAbove 5000 freq⟩
  else if p2p5G = true ∧ 5500 ≤ freq ∧ freq ≤ 5700 then some ⟨121, channelAbove 5000 freq⟩
  else if 5745 ≤ freq ∧ freq ≤ 5805 then
    if (freq - 5000) % 5 ≠ 0 then none else some ⟨124, channelAbove 5000 freq⟩
  else if p2p5G = true ∧ 5825 ≤ freq ∧ freq ≤ 5845 then some ⟨125, channelAbove 5000 freq⟩
  else none

/-- The channel list of one channel in the first class; the other entries stay. -/
def P2pChannels.pin (channels : P2pChannels) (op : OpChannel) : P2pChannels :=
  let first := channels.regClass 0
  { regClasses := 1
    regClass := Function.update channels.regClass 0
      { channels := 1, regClass := op.opClass, channel := Function.update first.channel 0 op.channel } }

/-- `p2p_wfd_sink_config_scc`, whose result is always 0; `stack` is what `op_reg_class` and `op_channel` hold before they are
written, `random` what `os_get_random` puts in `r`. -/
def p2pWfdSinkConfigScc (p2p5G : Bool) (stack : OpChannel) (conf : WpaConfig) (random : BitVec 32) (p2p : Option P2pData)
    (scc : Bool) (operFreq : Nat) : Option P2pData :=
  match p2p with
  | none => none
  | some p2p =>
      if scc = true ∧ operFreq ≠ 0 then
        let op := (privP2pFreqToChannel p2p5G operFreq).getD stack
        some { p2p with opChannel := op.channel, opRegClass := op.opClass, channels := p2p.channels.pin op }
      else
        let p2p :=
          if conf.p2pOperRegClass ≠ 0 ∧ conf.p2pOperChannel ≠ 0 then
            { p2p with
              opRegClass := UInt8.ofBitVec (conf.p2pOperRegClass.setWidth 8)
              opChannel := UInt8.ofBitVec (conf.p2pOperChannel.setWidth 8)
              cfg := { p2p.cfg with cfgOpChannel := 1 } }
          else
            { p2p with
              opRegClass := 81
              opChannel := UInt8.ofNat (1 + random.toNat % 3 * 5)
              cfg := { p2p.cfg with cfgOpChannel := 0 } }
        some { p2p with channels := p2p.cfg.channels }

section Known

/-- The frequency of a channel in its operating class. -/
def OpChannel.IsAt (op : OpChannel) (freq : Nat) : Prop :=
  (op.opClass = 81 ∧ freq = 2407 + 5 * op.channel.toNat) ∨
  (op.opClass = 82 ∧ op.channel = 14 ∧ freq = 2484) ∨
  (op.opClass ∈ [115, 118, 121, 124, 125] ∧ freq = 5000 + 5 * op.channel.toNat)

/-- The frequencies of the channels that the converter knows. -/
def KnownFreq (p2p5G : Bool) (freq : Nat) : Prop :=
  (2412 ≤ freq ∧ freq ≤ 2472 ∧ freq % 5 = 2) ∨ freq = 2484 ∨
    (freq % 5 = 0 ∧ ((5180 ≤ freq ∧ freq ≤ 5240) ∨ (5745 ≤ freq ∧ freq ≤ 5805) ∨
      (p2p5G = true ∧ ((5260 ≤ freq ∧ freq ≤ 5320) ∨ (5500 ≤ freq ∧ freq ≤ 5700) ∨ (5825 ≤ freq ∧ freq ≤ 5845)))))

/-- The configuration after a call: the channel of the frequency, or as before for a frequency without one. -/
def SccKnown (p2p5G : Bool) (freq : Nat) (before after : P2pData) : Prop :=
  (∃ op, privP2pFreqToChannel p2p5G freq = some op ∧ op.IsAt freq ∧
    after.opRegClass = op.opClass ∧ after.opChannel = op.channel ∧ after.channels = before.channels.pin op) ∨
  (privP2pFreqToChannel p2p5G freq = none ∧
    after.opRegClass = before.opRegClass ∧ after.opChannel = before.opChannel ∧ after.channels = before.channels)

theorem channelAbove_toNat {base freq : Nat} (small : freq ≤ base + 1275) :
    (channelAbove base freq).toNat = (freq - base) / 5 := by
  rw [channelAbove, UInt8.toNat_ofNat']
  omega

/-- A channel of the 5 GHz classes is at its frequency exactly if that is a multiple of 5. -/
theorem isAt_iff {opClass : UInt8} {freq : Nat} (inClass : opClass ∈ [115, 118, 121, 124, 125])
    (lower : 5000 ≤ freq) (upper : freq ≤ 6275) :
    (⟨opClass, channelAbove 5000 freq⟩ : OpChannel).IsAt freq ↔ freq % 5 = 0 := by
  have low : opClass ≠ 81 := by
    rintro rfl
    exact absurd inClass (by decide)
  have fourteen : opClass ≠ 82 := by
    rintro rfl
    exact absurd inClass (by decide)
  simp only [OpChannel.IsAt, low, fourteen, inClass, false_and, true_and, false_or]
  rw [channelAbove_toNat upper]
  omega

/-- A channel of the 2.4 GHz class is at its frequency exactly if that leaves 2 when divided by 5. -/
theorem isAt_low_iff {freq : Nat} (lower : 2407 ≤ freq) (upper : freq ≤ 3682) :
    (⟨81, channelAbove 2407 freq⟩ : OpChannel).IsAt freq ↔ freq % 5 = 2 := by
  have high : (81 : UInt8) ∉ [115, 118, 121, 124, 125] := by decide
  have fourteen : (81 : UInt8) ≠ 82 := by decide
  simp only [OpChannel.IsAt, high, fourteen, false_and, true_and, or_false]
  rw [channelAbove_toNat upper]
  omega

/-- An accepted frequency is known exactly if it is that of its channel. -/
theorem accepted_isAt_iff {p2p5G : Bool} {freq : Nat} {op : OpChannel}
    (accepted : privP2pFreqToChannel p2p5G freq = some op) :
    op.IsAt freq ↔ KnownFreq p2p5G freq := by
  rw [KnownFreq]
  unfold privP2pFreqToChannel at accepted
  split_ifs at accepted with low odd fourteen first odd second third fourth odd fifth <;> cases accepted
  · rw [isAt_low_iff (by omega) (by omega)]
    omega
  · subst fourteen
    exact iff_of_true (.inr (.inl ⟨rfl, rfl, rfl⟩)) (.inr (.inl rfl))
  · rw [isAt_iff (by decide) (by omega) (by omega)]
    omega
  · rw [isAt_iff (by decide) (by omega) (by omega)]
    simp only [second.1, true_and]
    omega
  · rw [isAt_iff (by decide) (by omega) (by omega)]
    simp only [third.1, true_and]
    omega
  · rw [isAt_iff (by decide) (by omega) (by omega)]
    omega
  · rw [isAt_iff (by decide) (by omega) (by omega)]
    simp only [fifth.1, true_and]
    omega

theorem not_knownFreq_of_rejected {p2p5G : Bool} {freq : Nat}
    (rejected : privP2pFreqToChannel p2p5G freq = none) :
    ¬ KnownFreq p2p5G freq := by
  rw [KnownFreq]
  unfold privP2pFreqToChannel at rejected
  cases p2p5G with
  | false =>
    simp only [Bool.false_eq_true, false_and, or_false, ↓reduceIte] at rejected ⊢
    split_ifs at rejected <;> omega
  | true =>
    simp only [true_and] at rejected ⊢
    split_ifs at rejected <;> omega

variable {p2p5G : Bool} {conf : WpaConfig} {random : BitVec 32} {before : P2pData} {freq : Nat}

/-- Whatever the stack holds, pinning to a frequency leaves a known channel, or everything as before, exactly if the
frequency is known. -/
theorem configScc_known_iff (given : freq ≠ 0) :
    (∀ stack after, p2pWfdSinkConfigScc p2p5G stack conf random (some before) true freq = some after →
      SccKnown p2p5G freq before after) ↔ KnownFreq p2p5G freq := by
  cases found : privP2pFreqToChannel p2p5G freq with
  | none =>
    refine iff_of_false (fun known => ?_) (not_knownFreq_of_rejected found)
    -- Some byte on the stack is not the previous channel.
    have kept :=
      known ⟨0, before.opChannel + 1⟩ _ (by rw [p2pWfdSinkConfigScc, if_pos ⟨rfl, given⟩, found])
    rcases kept with ⟨op, accepted, -⟩ | ⟨-, -, channel, -⟩
    · rw [found] at accepted
      contradiction
    · have differs : before.opChannel + 1 ≠ before.opChannel := by simp
      exact differs channel
  | some op =>
    rw [← accepted_isAt_iff found]
    constructor
    · intro known
      have pinned := known op _ (by rw [p2pWfdSinkConfigScc, if_pos ⟨rfl, given⟩, found])
      rcases pinned with ⟨other, accepted, place, -⟩ | ⟨rejected, -⟩
      · rw [found] at accepted
        cases accepted
        exact place
      · rw [found] at rejected
        contradiction
    · intro place stack after called
      rw [p2pWfdSinkConfigScc, if_pos ⟨rfl, given⟩, found] at called
      cases called
      exact .inl ⟨op, found, place, rfl, rfl, rfl⟩

/-- A configuration without channels. -/
def blankP2p : P2pData :=
  ⟨81, 1, ⟨fun _ => ⟨0, fun _ => 0, 0⟩, 0⟩, ⟨0, ⟨fun _ => ⟨0, fun _ => 0, 0⟩, 0⟩⟩⟩

/-- Channel 36. -/
theorem configScc_known_iff_5180 : (∀ stack after,
    p2pWfdSinkConfigScc false stack ⟨0, 0⟩ 0 (some blankP2p) true 5180 = some after →
      SccKnown false 5180 blankP2p after) ↔ KnownFreq false 5180 :=
  configScc_known_iff (by decide)

/-- 2400 MHz is rejected, and the stack becomes the configuration. -/
theorem configScc_2400 : ¬ ∀ (p2p5G : Bool) (stack : OpChannel) (conf : WpaConfig) (random : BitVec 32)
    (before after : P2pData) (freq : Nat), freq ≠ 0 →
      p2pWfdSinkConfigScc p2p5G stack conf random (some before) true freq = some after →
      SccKnown p2p5G freq before after := by
  intro known
  rcases known false ⟨0, 0⟩ ⟨0, 0⟩ 0 blankP2p _ 2400 (by decide) rfl with ⟨op, accepted, -⟩ | ⟨-, -, channel, -⟩
  · have rejected : privP2pFreqToChannel false 2400 = none := by decide
    rw [rejected] at accepted
    contradiction
  · exact absurd channel (by decide)

end Known

end Mt6582.Wpa

import Mathlib.Data.List.Basic
import Mathlib.Data.List.Perm.Basic

/-! # The frequencies shared on a radio

`mtk_get_shared_radio_freqs_data` collects the distinct frequencies of a radio's interfaces, with flags for the
infrastructure mode interfaces that use them. The flags are a set: which of the two bits are in `flags`. The frequencies
come out in order of first appearance, but each infrastructure interface replaces the flags of its frequency instead of
adding to them, so they are the union of the uses only where a frequency is not used in both ways.
-/

namespace Mt6582.Wpa

open List

/-- `enum wpas_mode`; `other` is any mode without a branch of its own. -/
inductive WpasMode where
  | infra | ap | p2pGo | other
deriving DecidableEq, Repr

/-- The fields of `struct wpa_ssid` that are read. -/
structure Ssid where
  mode : WpasMode
  frequency : Int
  p2pGroup : Bool
deriving DecidableEq, Repr

/-- An interface on the radio; `bssid` says whether `wpa_drv_get_bssid` succeeds on it. -/
structure Iface where
  currentSsid : Option Ssid
  assocFreq : BitVec 32
  bssid : Bool
deriving DecidableEq, Repr

/-- `WPA_FREQ_USED_BY_INFRA_STATION` and `WPA_FREQ_USED_BY_P2P_CLIENT`, each set or not. -/
structure FreqFlags where
  infraStation : Bool
  p2pClient : Bool
deriving DecidableEq, Repr

/-- `struct wpa_used_freq_data`. -/
structure UsedFreqData where
  freq : Int
  flags : FreqFlags
deriving DecidableEq, Repr

/-- The frequency of an interface, unless the loop passes it over. -/
def Iface.freq (ifs : Iface) : Option Int :=
  match ifs.currentSsid with
  | none => none
  | some ssid =>
      if ifs.assocFreq = 0 then none
      else if ssid.mode = .ap ∨ ssid.mode = .p2pGo then some ssid.frequency
      else if ifs.bssid = true then some ifs.assocFreq.toInt
      else none

/-- The flags that an infrastructure mode interface writes. -/
def Iface.flags (ifs : Iface) : Option FreqFlags :=
  match ifs.currentSsid with
  | none => none
  | some ssid =>
      if ssid.mode = .infra then some (if ssid.p2pGroup = true then ⟨false, true⟩ else ⟨true, false⟩) else none

/-- One round of the loop; the entries are those below `idx`, and the memory behind them is zero. -/
def sharedFreqsRound (freqsData : List UsedFreqData) (ifs : Iface) : List UsedFreqData :=
  match ifs.freq with
  | none => freqsData
  | some freq =>
      let i := freqsData.findIdx fun entry => decide (entry.freq = freq)
      let freqsData := if i = freqsData.length then freqsData ++ [⟨freq, ⟨false, false⟩⟩] else freqsData
      match ifs.flags with
      | none => freqsData
      | some flags => freqsData.modify i fun entry => { entry with flags := flags }

def sharedFreqsLoop (len : Nat) : List Iface → List UsedFreqData → List UsedFreqData
  | [], freqsData => freqsData
  | ifs :: rest, freqsData =>
      if freqsData.length = len then freqsData else sharedFreqsLoop len rest (sharedFreqsRound freqsData ifs)

/-- `mtk_get_shared_radio_freqs_data`: the entries below the returned index. -/
def mtkGetSharedRadioFreqsData (ifaces : List Iface) (len : Nat) : List UsedFreqData := sharedFreqsLoop len ifaces []

section Uses

/-- The frequencies of the active interfaces, each where it first appears. -/
def distinctFreqs (ifaces : List Iface) : List Int := (ifaces.filterMap Iface.freq).eraseDups

/-- Some infrastructure mode interface on the frequency writes these flags. -/
def UsedAs (ifaces : List Iface) (freq : Int) (flags : FreqFlags) : Prop :=
  ∃ ifs ∈ ifaces, ifs.freq = some freq ∧ ifs.flags = some flags

instance (ifaces : List Iface) (freq : Int) (flags : FreqFlags) : Decidable (UsedAs ifaces freq flags) :=
  inferInstanceAs (Decidable (∃ ifs ∈ ifaces, _))

/-- The union of the uses of a frequency. -/
def usedBy (ifaces : List Iface) (freq : Int) : FreqFlags :=
  ⟨decide (UsedAs ifaces freq ⟨true, false⟩), decide (UsedAs ifaces freq ⟨false, true⟩)⟩

/-- The entries are the distinct frequencies, with the uses over all interfaces of the radio in whatever order. -/
structure SharesFreqs (ifaces order : List Iface) (freqsData : List UsedFreqData) : Prop where
  freqs : freqsData.map UsedFreqData.freq = distinctFreqs order
  flags : ∀ entry ∈ freqsData, entry.flags = usedBy ifaces entry.freq

/-- No frequency is used in both ways. -/
def OneUse (ifaces : List Iface) : Prop :=
  ∀ freq, ¬ (UsedAs ifaces freq ⟨true, false⟩ ∧ UsedAs ifaces freq ⟨false, true⟩)

/-- Flags that are written name one use. -/
theorem Iface.flags_cases {ifs : Iface} {flags : FreqFlags} (written : ifs.flags = some flags) :
    flags = ⟨true, false⟩ ∨ flags = ⟨false, true⟩ := by
  unfold Iface.flags at written
  split at written
  · contradiction
  · split_ifs at written <;> cases written
    · exact .inr rfl
    · exact .inl rfl

end Uses

section Entries

theorem modify_at (before after : List UsedFreqData) (entry : UsedFreqData)
    (write : UsedFreqData → UsedFreqData) :
    (before ++ entry :: after).modify before.length write = before ++ write entry :: after := by
  induction before with
  | nil => rfl
  | cons first rest ih => exact congrArg (first :: ·) ih

/-- A frequency has no entry, or exactly the one the search finds. -/
theorem findIdx_cases {freqsData : List UsedFreqData}
    (distinct : (freqsData.map UsedFreqData.freq).Nodup) (freq : Int) :
    (freq ∉ freqsData.map UsedFreqData.freq ∧
      freqsData.findIdx (fun entry => decide (entry.freq = freq)) = freqsData.length) ∨
    (∃ before entry after, freqsData = before ++ entry :: after ∧ entry.freq = freq ∧
      (∀ other ∈ before ++ after, other.freq ≠ freq) ∧
      freqsData.findIdx (fun entry => decide (entry.freq = freq)) = before.length) := by
  induction freqsData with
  | nil => exact .inl ⟨not_mem_nil, rfl⟩
  | cons first rest ih =>
    obtain ⟨fresh, distinct⟩ := nodup_cons.mp distinct
    rw [findIdx_cons]
    rcases Decidable.em (first.freq = freq) with found | other
    · refine .inr ⟨[], first, rest, rfl, found, fun other member same => fresh ?_, by simp [found]⟩
      rw [found, ← same]
      exact mem_map_of_mem member
    · rw [decide_eq_false other, cond_false]
      rcases ih distinct with ⟨absent, at_end⟩ | ⟨before, entry, after, rfl, found, unique, at_entry⟩
      · refine .inl ⟨?_, congrArg (· + 1) at_end⟩
        rw [map_cons, mem_cons, not_or]
        exact ⟨Ne.symm other, absent⟩
      · refine .inr ⟨first :: before, entry, after, rfl, found, ?_, congrArg (· + 1) at_entry⟩
        rw [cons_append, forall_mem_cons]
        exact ⟨other, unique⟩

/-- What a round does with an active interface: it adds an entry at the end, or writes to the one of its frequency. -/
theorem sharedFreqsRound_cases {freqsData : List UsedFreqData}
    (distinct : (freqsData.map UsedFreqData.freq).Nodup) {ifs : Iface} {freq : Int}
    (active : ifs.freq = some freq) :
    (freq ∉ freqsData.map UsedFreqData.freq ∧
      sharedFreqsRound freqsData ifs = freqsData ++ [⟨freq, ifs.flags.getD ⟨false, false⟩⟩]) ∨
    (∃ before entry after, freqsData = before ++ entry :: after ∧ entry.freq = freq ∧
      (∀ other ∈ before ++ after, other.freq ≠ freq) ∧
      sharedFreqsRound freqsData ifs = before ++ ⟨freq, ifs.flags.getD entry.flags⟩ :: after) := by
  simp only [sharedFreqsRound, active]
  rcases findIdx_cases distinct freq with ⟨absent, at_end⟩ | ⟨before, entry, after, rfl, found, unique, at_entry⟩
  · refine .inl ⟨absent, ?_⟩
    rw [at_end, if_pos rfl]
    cases ifs.flags with
    | none => rfl
    | some flags => exact modify_at freqsData [] _ _
  · refine .inr ⟨before, entry, after, rfl, found, unique, ?_⟩
    rw [at_entry, if_neg (by simp)]
    subst found
    cases ifs.flags with
    | none => rfl
    | some flags => exact modify_at before after entry _

end Entries

section Collecting

/-- The flags name a use of the frequency, or there is none to name. -/
def Names (ifaces : List Iface) (freq : Int) (flags : FreqFlags) : Prop :=
  UsedAs ifaces freq flags ∨ (flags = ⟨false, false⟩ ∧ ∀ use, ¬ UsedAs ifaces freq use)

/-- What holds of the entries after the rounds of some interfaces. -/
structure Collected (ifaces : List Iface) (freqsData : List UsedFreqData) : Prop where
  freqs : freqsData.map UsedFreqData.freq = distinctFreqs ifaces
  distinct : (freqsData.map UsedFreqData.freq).Nodup
  names : ∀ entry ∈ freqsData, Names ifaces entry.freq entry.flags

variable {ifaces : List Iface} {freqsData : List UsedFreqData} {ifs : Iface} {freq : Int}

theorem usedAs_concat {flags : FreqFlags} :
    UsedAs (ifaces ++ [ifs]) freq flags ↔ UsedAs ifaces freq flags ∨
      (ifs.freq = some freq ∧ ifs.flags = some flags) := by
  simp only [UsedAs, mem_append, mem_singleton, or_and_right, exists_or, exists_eq_left]

/-- An interface elsewhere changes nothing about a frequency. -/
theorem names_concat_elsewhere {flags : FreqFlags} (elsewhere : ifs.freq ≠ some freq) :
    Names (ifaces ++ [ifs]) freq flags ↔ Names ifaces freq flags := by
  simp only [Names, usedAs_concat, elsewhere, false_and, or_false]

theorem names_concat_here {flags : FreqFlags} (here : ifs.freq = some freq)
    (named : Names ifaces freq flags) :
    Names (ifaces ++ [ifs]) freq (ifs.flags.getD flags) := by
  cases written : ifs.flags with
  | none =>
    simpa only [Names, usedAs_concat, written, reduceCtorEq, and_false, or_false,
      Option.getD_none] using named
  | some use => exact .inl (usedAs_concat.mpr (.inr ⟨here, written⟩))

theorem mem_distinctFreqs : freq ∈ distinctFreqs ifaces ↔ ∃ ifs ∈ ifaces, ifs.freq = some freq := by
  rw [distinctFreqs, mem_eraseDups, mem_filterMap]

theorem distinctFreqs_append (first second : List Iface) :
    distinctFreqs (first ++ second) = distinctFreqs first ++
      ((second.filterMap Iface.freq).removeAll (first.filterMap Iface.freq)).eraseDups := by
  rw [distinctFreqs, filterMap_append, eraseDups_append]
  rfl

theorem distinctFreqs_concat_idle (idle : ifs.freq = none) :
    distinctFreqs (ifaces ++ [ifs]) = distinctFreqs ifaces := by
  rw [distinctFreqs, filterMap_append, filterMap_cons_none idle, filterMap_nil, append_nil]
  rfl

theorem distinctFreqs_concat_known (active : ifs.freq = some freq)
    (known : freq ∈ distinctFreqs ifaces) :
    distinctFreqs (ifaces ++ [ifs]) = distinctFreqs ifaces := by
  rw [distinctFreqs, mem_eraseDups] at known
  have removed : [freq].removeAll (ifaces.filterMap Iface.freq) = [] :=
    filter_cons_of_neg (by simpa using known)
  rw [distinctFreqs_append, filterMap_cons_some active, filterMap_nil, removed,
    eraseDups_nil, append_nil]

theorem distinctFreqs_concat_new (active : ifs.freq = some freq)
    (new : freq ∉ distinctFreqs ifaces) :
    distinctFreqs (ifaces ++ [ifs]) = distinctFreqs ifaces ++ [freq] := by
  rw [distinctFreqs, mem_eraseDups] at new
  have kept : [freq].removeAll (ifaces.filterMap Iface.freq) = [freq] :=
    filter_cons_of_pos (by simpa using new)
  rw [distinctFreqs_append, filterMap_cons_some active, filterMap_nil, kept]
  rfl

/-- A round keeps what holds of the entries. -/
theorem Collected.round (collected : Collected ifaces freqsData) :
    Collected (ifaces ++ [ifs]) (sharedFreqsRound freqsData ifs) := by
  obtain ⟨freqs, distinct, names⟩ := collected
  cases active : ifs.freq with
  | none =>
    have same :
        sharedFreqsRound freqsData ifs = freqsData := by simp only [sharedFreqsRound, active]
    rw [same]
    refine ⟨freqs.trans (distinctFreqs_concat_idle active).symm, distinct, fun entry member => ?_⟩
    exact (names_concat_elsewhere (by simp [active])).mpr (names entry member)
  | some freq =>
    have elsewhere {other : Int} (differ : other ≠ freq) : ifs.freq ≠ some other := by
      rw [active]
      exact fun same => differ (Option.some.inj same).symm
    rcases sharedFreqsRound_cases distinct active with ⟨absent, round⟩ | ⟨before, entry, after, rfl, rfl, unique, round⟩
    · rw [round]
      have new := absent
      rw [freqs] at new
      refine ⟨?_, ?_, ?_⟩
      · rw [map_append, freqs, distinctFreqs_concat_new active new]
        rfl
      · rw [map_append]
        refine nodup_append.mpr ⟨distinct, by simp, fun other member last found same => absent ?_⟩
        have here : last = freq := mem_singleton.mp found
        exact here ▸ same ▸ member
      · rw [forall_mem_append, forall_mem_singleton]
        constructor
        · intro entry member
          refine (names_concat_elsewhere (elsewhere fun same => absent ?_)).mpr (names entry member)
          rw [← same]
          exact mem_map_of_mem member
        · refine names_concat_here active (.inr ⟨rfl, ?_⟩)
          rintro use ⟨other, member, here, -⟩
          exact new (mem_distinctFreqs.mpr ⟨other, member, here⟩)
    · rw [round]
      have known : entry.freq ∈ distinctFreqs ifaces := by
        rw [← freqs]
        exact mem_map_of_mem (by simp)
      refine ⟨?_, ?_, ?_⟩
      · rw [distinctFreqs_concat_known active known, ← freqs, map_append, map_append]
        rfl
      · rw [map_append] at distinct ⊢
        exact distinct
      · rw [forall_mem_append, forall_mem_cons] at names ⊢
        rw [forall_mem_append] at unique
        refine ⟨fun other member => ?_, names_concat_here active names.2.1, fun other member => ?_⟩
        · exact (names_concat_elsewhere (elsewhere (unique.1 other member))).mpr
            (names.1 other member)
        · exact (names_concat_elsewhere (elsewhere (unique.2 other member))).mpr
            (names.2.2 other member)

/-- With room for one frequency more than there are, the loop runs to its end. -/
theorem Collected.loop {len : Nat} (rest : List Iface)
    (room : (distinctFreqs (ifaces ++ rest)).length < len)
    (collected : Collected ifaces freqsData) :
    Collected (ifaces ++ rest) (sharedFreqsLoop len rest freqsData) := by
  induction rest generalizing ifaces freqsData with
  | nil =>
    rw [append_nil]
    exact collected
  | cons ifs rest ih =>
    have small : freqsData.length < len := by
      have size := congrArg length collected.freqs
      rw [length_map] at size
      rw [distinctFreqs_append, length_append] at room
      omega
    have split :
        ifaces ++ ifs :: rest = (ifaces ++ [ifs]) ++ rest := by rw [append_assoc, singleton_append]
    rw [split] at room ⊢
    rw [sharedFreqsLoop, if_neg (Nat.ne_of_lt small)]
    exact ih room collected.round

theorem mtkGetSharedRadioFreqsData_collected {len : Nat}
    (room : (distinctFreqs ifaces).length < len) :
    Collected ifaces (mtkGetSharedRadioFreqsData ifaces len) := by
  have start : Collected [] [] := ⟨rfl, nodup_nil, fun _ => not_mem_nil.elim⟩
  exact start.loop ifaces room

theorem nodup_distinctFreqs (ifaces : List Iface) : (distinctFreqs ifaces).Nodup := by
  have collected :=
    mtkGetSharedRadioFreqsData_collected (Nat.lt_succ_self (distinctFreqs ifaces).length)
  rw [← collected.freqs]
  exact collected.distinct

end Collecting

section Union

variable {ifaces order : List Iface} {freqsData : List UsedFreqData} {freq : Int}

/-- Flags that name a use are the union of the uses exactly if there is no other use. -/
theorem names_eq_usedBy_iff {flags : FreqFlags} (named : Names ifaces freq flags) :
    flags = usedBy ifaces freq ↔
      ¬ (UsedAs ifaces freq ⟨true, false⟩ ∧ UsedAs ifaces freq ⟨false, true⟩) := by
  rw [usedBy]
  rcases named with used | ⟨rfl, unused⟩
  · have ⟨ifs, _, _, written⟩ := used
    rcases ifs.flags_cases written with rfl | rfl
    · simp [used]
    · simp [used]
  · simp [unused]

theorem usedAs_perm (same : order.Perm ifaces) (freq : Int) (flags : FreqFlags) :
    UsedAs order freq flags ↔ UsedAs ifaces freq flags := by
  simp only [UsedAs, same.mem_iff]

theorem distinctFreqs_perm (same : order.Perm ifaces) :
    (distinctFreqs order).Perm (distinctFreqs ifaces) :=
  (perm_ext_iff_of_nodup (nodup_distinctFreqs order) (nodup_distinctFreqs ifaces)).mpr fun freq => by
    simp only [mem_distinctFreqs, same.mem_iff]

theorem usedBy_perm (same : order.Perm ifaces) (freq : Int) :
    usedBy order freq = usedBy ifaces freq := by
  simp only [usedBy, usedAs_perm same]

theorem oneUse_perm (same : order.Perm ifaces) : OneUse order ↔ OneUse ifaces := by
  simp only [OneUse, usedAs_perm same]

/-- Collected entries share the uses of their own interfaces exactly if no frequency is used in both ways. -/
theorem Collected.shares_iff (collected : Collected ifaces freqsData) :
    SharesFreqs ifaces ifaces freqsData ↔ OneUse ifaces := by
  constructor
  · intro shares freq both
    obtain ⟨ifs, member, active, -⟩ := both.1
    have listed : freq ∈ freqsData.map UsedFreqData.freq := by
      rw [collected.freqs, mem_distinctFreqs]
      exact ⟨ifs, member, active⟩
    obtain ⟨entry, inside, rfl⟩ := mem_map.mp listed
    exact (names_eq_usedBy_iff (collected.names entry inside)).mp (shares.flags entry inside) both
  · intro one
    exact ⟨collected.freqs,
      fun entry member => (names_eq_usedBy_iff (collected.names entry member)).mpr (one entry.freq)⟩

/-- With room for one frequency more than are in use, in whatever order the interfaces are listed, the result is their
distinct frequencies with the union of the uses, exactly if no frequency is used in both ways. -/
theorem sharesFreqs_iff {len : Nat} (room : (distinctFreqs ifaces).length < len) :
    (∀ order, order.Perm ifaces → SharesFreqs ifaces order (mtkGetSharedRadioFreqsData order len)) ↔ OneUse ifaces := by
  constructor
  · intro shares
    exact (mtkGetSharedRadioFreqsData_collected room).shares_iff.mp (shares ifaces (.refl ifaces))
  · intro one order same
    have size : (distinctFreqs order).length < len := (distinctFreqs_perm same).length_eq ▸ room
    have shares :=
      (mtkGetSharedRadioFreqsData_collected size).shares_iff.mpr ((oneUse_perm same).mpr one)
    exact ⟨shares.freqs,
      fun entry member => (shares.flags entry member).trans (usedBy_perm same entry.freq)⟩

/-- Two stations on one frequency and an access point on another. -/
theorem sharesFreqs_iff_three : (∀ order : List Iface,
    order.Perm [⟨some ⟨.infra, 0, false⟩, 2412, true⟩, ⟨some ⟨.ap, 5180, false⟩, 5180, false⟩,
      ⟨some ⟨.infra, 0, false⟩, 2412, true⟩] →
    SharesFreqs [⟨some ⟨.infra, 0, false⟩, 2412, true⟩, ⟨some ⟨.ap, 5180, false⟩, 5180, false⟩,
      ⟨some ⟨.infra, 0, false⟩, 2412, true⟩] order (mtkGetSharedRadioFreqsData order 3)) ↔
    OneUse [⟨some ⟨.infra, 0, false⟩, 2412, true⟩, ⟨some ⟨.ap, 5180, false⟩, 5180, false⟩,
      ⟨some ⟨.infra, 0, false⟩, 2412, true⟩] :=
  sharesFreqs_iff (by decide)

/-- A P2P client on the frequency of a station takes its place in the flags. -/
theorem client_hides_station : ¬ ∀ (ifaces : List Iface) (len : Nat), (distinctFreqs ifaces).length < len →
    ∀ order, order.Perm ifaces → SharesFreqs ifaces order (mtkGetSharedRadioFreqsData order len) := by
  intro shares
  have found :=
    shares [⟨some ⟨.infra, 0, false⟩, 2412, true⟩,
      ⟨some ⟨.infra, 0, true⟩, 2412, true⟩] 2 (by decide) _ (.refl _)
  exact absurd (found.flags ⟨2412, ⟨false, true⟩⟩ (by decide)) (by decide)

end Union

end Mt6582.Wpa

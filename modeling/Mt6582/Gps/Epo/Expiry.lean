import Mt6582.Gps.Epo.Config
import Mt6582.Gps.Epo.Dates

/-! # When EPO data is found expired

`mtk_epo_is_expired` measures the age of the data from its first record. Without the Wi-Fi trigger the age allowed
never exceeds the time the data covers, so data past its end is always found expired. With the trigger the age is
`wifi_epo_period` days, whatever the data covers.
-/

namespace Mt6582.Gps

variable {F : Type} (pf : Platform F)

/-- The return value, and what becomes of `gps_epo_file_count`. The clock is not before 1970. -/
def mtkEpoIsExpired (wifiTragger : Bool) (config : EpoConfig) (now : Nat) (files : FileStore) (fileCount : Nat) :
    Int × Nat :=
  let timeUtc := (pf.mktime (pf.gmtime now)).2.toNat
  if epoExpired pf wifiTragger (config .gpsEpoPeriod) (config .wifiEpoPeriod) timeUtc files then (1, 0) else (0, fileCount)

/-- The EPO file in use can be read, and its records cover this time. -/
structure EpoCovers (files : FileStore) (start finish : Int) : Prop where
  readable : ∃ contents, (files epoFileHal).or (files epoFile) = some contents ∧
    mtkGpsSysEpoPeriodStart pf contents = some start ∧ mtkGpsSysEpoPeriodEnd pf contents = some finish
  ordered : start ≤ finish

/-- Past its end, the data is found expired and the pieces are counted from the first again. -/
def DetectsExpiry (wifiTragger : Bool) (config : EpoConfig) (files : FileStore) (fileCount : Nat) (finish : Int)
    (now : Nat) : Prop :=
  finish ≤ now → mtkEpoIsExpired pf wifiTragger config now files fileCount = (1, 0)

section Detection

variable {pf} {times : Set Int} {wifiTragger : Bool} {config : EpoConfig} {files : FileStore} {fileCount : Nat}
  {start finish : Int}

theorem EpoCovers.fileTimes (covers : EpoCovers pf files start finish) :
    mtkGpsEpoFileTimeHal pf files = (start, finish) := by
  obtain ⟨contents, file, first, last⟩ := covers.readable
  rw [mtkGpsEpoFileTimeHal]
  rw [file]
  simp only [first, last, Option.getD_some]

/-- An instant of GPS time is one of `time_t` after 1970, or -1. -/
theorem gpsSecsToUtc_cases (libc : pf.InUtc times) {secs : Nat} (fits : secs < 2 ^ 32) :
    0 ≤ gpsSecsToUtc pf secs ∧ gpsSecsToUtc pf secs ∈ times ∨ gpsSecsToUtc pf secs = -1 := by
  have epoch := gpsEpoch_eq
  by_cases inside : gpsEpoch + secs ∈ times
  · rw [gpsSecsToUtc_of_mem libc fits inside]
    exact .inl ⟨by omega, inside⟩
  · exact .inr (gpsSecsToUtc_of_not_mem libc fits inside)

/-- The end of the data is such an instant; where it is -1, so is the start. -/
theorem EpoCovers.finish_cases (libc : pf.InUtc times) (covers : EpoCovers pf files start finish) :
    0 ≤ finish ∧ finish ∈ times ∨ finish = -1 ∧ start = -1 := by
  obtain ⟨contents, -, first, last⟩ := covers.readable
  simp only [mtkGpsSysEpoPeriodStart, epoStart, Option.ite_none_left_eq_some] at first
  simp only [mtkGpsSysEpoPeriodEnd, epoEnd, Option.ite_none_left_eq_some] at last
  have starts := Option.some.inj first.2
  have ends := Option.some.inj last.2.2
  have startCases := @gpsSecsToUtc_cases _ _ _ libc (epoGpsSecs contents) (Nat.mod_lt _ (by decide))
  rw [starts] at startCases
  have ordered := covers.ordered
  rcases @gpsSecsToUtc_cases _ _ _ libc _ (Nat.mod_lt _ (by decide : 0 < 2 ^ 32)) with inside | beyond
  · exact .inl (ends ▸ inside)
  · rw [ends] at beyond
    exact .inr ⟨beyond, by omega⟩

/-- Without the Wi-Fi trigger, the age allowed is within what the data covers. -/
theorem epoExpiredSet_le (ordered : start ≤ finish) (gpsEpoPeriod wifiEpoPeriod : Int) :
    epoExpiredSet false gpsEpoPeriod wifiEpoPeriod (start, finish) ≤ finish - start := by
  rw [epoExpiredSet]
  rw [if_neg Bool.false_ne_true, secondsPerDay]
  split
  · dsimp only
    rw [Int.tdiv_eq_ediv_of_nonneg (by omega)]
    split_ifs <;> omega
  · omega

theorem mtkEpoIsExpired_eq (libc : pf.InUtc times) (covers : EpoCovers pf files start finish)
    {now : Nat} (inside : (now : Int) ∈ times) :
    mtkEpoIsExpired pf wifiTragger config now files fileCount = (1, 0) ↔
      epoExpiredSet wifiTragger (config .gpsEpoPeriod) (config .wifiEpoPeriod) (start, finish) + start ≤ now := by
  rw [mtkEpoIsExpired, epoExpired]
  rw [libc.gmtime _ inside, covers.fileTimes, Int.toNat_natCast]
  dsimp only
  split
  · next expired => exact iff_of_true rfl (of_decide_eq_true expired)
  · next valid => exact iff_of_false (by simp) (by simpa using valid)

/-- Expiry is found at every time exactly if there is no Wi-Fi trigger or the data covers `wifi_epo_period` days; at one
time, if there is no trigger or that many days have passed since the first record. -/
theorem detectsExpiry_iff (libc : pf.InUtc times) (config : EpoConfig) (covers : EpoCovers pf files start finish)
    (wifiTragger : Bool) (fileCount : Nat) :
    (∀ now : Nat, (now : Int) ∈ times → (DetectsExpiry pf wifiTragger config files fileCount finish now ↔
      now < finish ∨ wifiTragger = false ∨ start + config .wifiEpoPeriod * secondsPerDay ≤ now)) ∧
    ((∀ now : Nat, (now : Int) ∈ times → DetectsExpiry pf wifiTragger config files fileCount finish now) ↔
      wifiTragger = false ∨ config .wifiEpoPeriod * secondsPerDay ≤ finish - start) := by
  have each (now : Nat) (inside : (now : Int) ∈ times) :
      DetectsExpiry pf wifiTragger config files fileCount finish now ↔
        now < finish ∨ wifiTragger = false ∨ start + config .wifiEpoPeriod * secondsPerDay ≤ now := by
    rw [DetectsExpiry]
    rw [mtkEpoIsExpired_eq libc covers inside]
    cases wifiTragger with
    | false =>
      have within := epoExpiredSet_le covers.ordered (config .gpsEpoPeriod) (config .wifiEpoPeriod)
      simp only [true_or, or_true, iff_true]
      omega
    | true =>
      simp only [epoExpiredSet, if_true, Bool.true_eq_false, false_or]
      omega
  refine ⟨each, ?_⟩
  constructor
  · intro always
    rcases covers.finish_cases libc with ⟨after, inside⟩ | ⟨rfl, rfl⟩
    · -- At the end of the data itself, the age is what the data covers.
      obtain ⟨now, same⟩ := Int.eq_ofNat_of_zero_le after
      rw [same] at inside
      rcases (each now inside).mp (always now inside) with early | untriggered | passed
      · omega
      · exact Or.inl untriggered
      · exact Or.inr (by omega)
    · -- Both times are -1, and a day is longer than the second up to the epoch.
      rcases (each 0 libc.epoch).mp (always 0 libc.epoch) with early | untriggered | passed
      · omega
      · exact Or.inl untriggered
      · rw [secondsPerDay] at passed ⊢
        exact Or.inr (by omega)
  · intro condition now inside
    rw [each now inside]
    rcases condition with untriggered | covered
    · exact Or.inr (Or.inl untriggered)
    · omega

end Detection

section ThreeDays

/-- Records of hours 392880 and 392946: three days from 2024-10-31 on. -/
def threeDays : FileStore := Function.update (fun _ => none) epoFile (some (oneRecord 0xb0 0xfe 5 ++ oneRecord 0xf2 0xfe 5))

theorem threeDays_covers :
    EpoCovers Platform.civil threeDays (gpsEpoch + 3600 * 392880) (gpsEpoch + 3600 * 392946 + 21600) := by
  have file :
      (threeDays epoFileHal).or (threeDays epoFile) =
      some (oneRecord 0xb0 0xfe 5 ++ oneRecord 0xf2 0xfe 5) := by
    rw [threeDays]
    rw [Function.update_of_ne (by decide), Function.update_self]
    rfl
  have last :
      lastRecord (oneRecord 0xb0 0xfe 5 ++ oneRecord 0xf2 0xfe 5) = oneRecord 0xf2 0xfe 5 := by
    rw [lastRecord, List.length_append, oneRecord_length, oneRecord_length]
    exact List.drop_left' (oneRecord_length _ _ _)
  have hours : epoHours (oneRecord 0xb0 0xfe 5 ++ oneRecord 0xf2 0xfe 5) = 392880 := rfl
  have lastHours : epoHours (oneRecord 0xf2 0xfe 5) = 392946 := rfl
  have sized : EpoSized (oneRecord 0xb0 0xfe 5 ++ oneRecord 0xf2 0xfe 5) := by
    rw [EpoSized, List.length_append, oneRecord_length, oneRecord_length, mtkEpoOneSvSize]
    omega
  have fit : EpoTimesFit timeT (oneRecord 0xb0 0xfe 5 ++ oneRecord 0xf2 0xfe 5) := by
    rw [epoTimesFit_timeT_iff, last, hours, lastHours]
    omega
  have times := (epoTimesExact_iff_fit Platform.civil_inUtc sized).mpr fit
  have start := times.start
  have finish := times.finish
  rw [hours] at start
  rw [last, lastHours] at finish
  exact ⟨⟨_, file, start, finish⟩, by omega⟩

/-- The configuration with `WIFI_EPO_PERIOD` set. -/
def wifiPeriod (days : Int) : EpoConfig := Function.update EpoConfig.initial .wifiEpoPeriod days

theorem wifiPeriod_clamped {days : Int} (allowed : days = 1 ∨ days = 3 ∨ days = 15 ∨ days = 30) :
    (wifiPeriod days).Clamped := by
  have kept : EpoKey.wifiEpoPeriod.clamp days = days := by
    rcases allowed with rfl | rfl | rfl | rfl <;> rfl
  intro k
  rw [wifiPeriod, Function.update_apply]
  split
  · next here => rw [here, kept]
  · exact EpoConfig.initial_clamped k

/-- With a period of three days, three days of data are found expired once they are over. -/
theorem detectsExpiry_threeDays : Platform.civil.InUtc timeT ∧ (wifiPeriod 3).Clamped ∧ ∀ now : Nat, (now : Int) ∈ timeT →
    DetectsExpiry Platform.civil true (wifiPeriod 3) threeDays 0 (gpsEpoch + 3600 * 392946 + 21600) now := by
  refine ⟨Platform.civil_inUtc, wifiPeriod_clamped (by decide), ?_⟩
  exact (detectsExpiry_iff Platform.civil_inUtc (wifiPeriod 3) threeDays_covers true 0).2.mpr
    (by decide)

/-- With a period of 30 days they are in use for another 27. -/
theorem not_detectsExpiry_threeDays : Platform.civil.InUtc timeT ∧ (wifiPeriod 30).Clamped ∧
    EpoCovers Platform.civil threeDays (gpsEpoch + 3600 * 392880) (gpsEpoch + 3600 * 392946 + 21600) ∧
    ¬ DetectsExpiry Platform.civil true (wifiPeriod 30) threeDays 0 (gpsEpoch + 3600 * 392946 + 21600)
      (315964800 + 3600 * 392946 + 21600) := by
  refine ⟨Platform.civil_inUtc, wifiPeriod_clamped (by decide), threeDays_covers, fun detects => ?_⟩
  have expired :=
    (mtkEpoIsExpired_eq Platform.civil_inUtc threeDays_covers (by decide)).mp (detects (by decide))
  revert expired
  decide

end ThreeDays

end Mt6582.Gps

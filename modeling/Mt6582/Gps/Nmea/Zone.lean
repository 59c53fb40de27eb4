import Mt6582.Gps.Nmea.UtcText

/-! # UTC times in a local time zone

`nmea_reader_update_time` hands UTC fields to `mktime`, which takes them for local time, and then adds the zone's offset
at the instant it gets. The two cancel when the zone has an instant with these local fields. During a jump forward of the
local time there is none, and the timestamp is off by the jump.
-/

namespace Mt6582.Gps

variable {F : Type}

/-- The local time at an instant, for a zone given by its offset from UTC at each instant. -/
def localSeconds (offset : Int → Int) (time : Int) : Int := time + offset time

/-- Some instant has these fields as its local time. -/
def HasInstant (offset : Int → Int) (seconds : Int) : Prop := ∃ time, localSeconds offset time = seconds

/-- `mktime` and `localtime_r` in a zone, for the fields whose seconds are in `fields`. -/
structure Platform.InZone (pf : Platform F) (fields : Set Int) (offset : Int → Int) : Prop where
  /-- Fields with an unknown `tm_isdst` become an instant with these local fields, if there is one. -/
  instant : ∀ tm, tm.InRange → tm.isdst = -1 → tm.utcSeconds ∈ fields → HasInstant offset tm.utcSeconds →
    localSeconds offset (pf.mktime tm).2 = tm.utcSeconds
  /-- Fields inside a jump forward are read with the offset before it. -/
  jump : ∀ tm, tm.InRange → tm.isdst = -1 → tm.utcSeconds ∈ fields → ¬ HasInstant offset tm.utcSeconds →
    ∃ at_, at_ + offset (at_ - 1) ≤ tm.utcSeconds ∧ tm.utcSeconds < localSeconds offset at_ ∧
      (pf.mktime tm).2 = tm.utcSeconds - offset (at_ - 1)
  /-- The normalised structure stands for the instant that was returned. -/
  again : ∀ tm, tm.InRange → tm.isdst = -1 → tm.utcSeconds ∈ fields →
    (pf.mktime (pf.mktime tm).1).2 = (pf.mktime tm).2
  gmtoff : ∀ tm, tm.InRange → tm.isdst = -1 → tm.utcSeconds ∈ fields →
    (pf.localtime (pf.mktime tm).2).gmtoff = offset (pf.mktime tm).2

theorem Platform.InZone.mono {pf : Platform F} {fields fewer : Set Int} {offset : Int → Int}
    (libc : pf.InZone fields offset) (within : fewer ⊆ fields) : pf.InZone fewer offset where
  instant tm inRange unknown inside := libc.instant tm inRange unknown (within inside)
  jump tm inRange unknown inside := libc.jump tm inRange unknown (within inside)
  again tm inRange unknown inside := libc.again tm inRange unknown (within inside)
  gmtoff tm inRange unknown inside := libc.gmtoff tm inRange unknown (within inside)

variable {pf : Platform F}

/-- The timestamp of fields in range is the local time of the instant that `mktime` finds. -/
theorem Stamp.setTime_zone {fields : Set Int} {offset : Int → Int} (libc : pf.InZone fields offset) (now : Int)
    {stamp : Stamp} {time : TimeOfDay} (dated : 0 ≤ stamp.year) (inRange : (stamp.fields time).InRange)
    (inside : (stamp.fields time).utcSeconds ∈ fields) :
    (stamp.setTime pf now time).timestamp =
      localSeconds offset (pf.mktime (stamp.fields time)).2 * 1000 := by
  rw [Stamp.setTime_dated now dated, libc.again _ inRange rfl inside, libc.gmtoff _ inRange rfl inside]
  rfl

theorem UtcText.WellFormed.inRange {u : UtcText} (wf : u.WellFormed) (timestamp : Int) :
    (Stamp.fields ⟨u.year, u.mon, u.day, timestamp⟩ ⟨u.hour, u.min, u.sec⟩).InRange := by
  obtain ⟨-, mon, day, hour, min, sec, -⟩ := wf
  apply Stamp.fields_inRange <;> dsimp only <;> omega

section Spring

/-- 2024-03-31 01:00:00 UTC. -/
def springForward : Int := 1711846800

/-- UTC until then, and an hour ahead of it from then on. -/
def springOffset (time : Int) : Int := if time < springForward then 0 else 3600

/-- `mktime` in this zone, by its two offsets. -/
def springMktime (tm : Tm) : Tm × Int :=
  let seconds := (mktimeUtc tm).2
  let time := if 0 ≤ tm.isdst then seconds - tm.isdst * 3600
    else if seconds < springForward + 3600 then seconds else seconds - 3600
  ({ gmtimeUtc (localSeconds springOffset time) with isdst := if time < springForward then 0 else 1 }, time)

def Platform.spring : Platform ℚ :=
  { Platform.civil with
    mktime := mktimeFitting springMktime
    localtime := fun time => { gmtimeUtc (localSeconds springOffset time) with gmtoff := springOffset time } }

/-- The local times of instants of `time_t`. -/
def springFields : Set Int := {seconds | seconds ∈ timeT ∧ seconds - 3600 ∈ timeT}

instance (seconds : Int) : Decidable (seconds ∈ springFields) := inferInstanceAs (Decidable (_ ∧ _))

theorem springMktime_normalised (time : Int) : (springMktime
    { gmtimeUtc (localSeconds springOffset time) with isdst := if time < springForward then 0 else 1 }).2 = time := by
  have seconds (isdst : Int) :
      (mktimeUtc { gmtimeUtc (localSeconds springOffset time) with isdst := isdst }).2 =
      localSeconds springOffset time := mktimeUtc_gmtimeUtc _
  simp only [springMktime, seconds]
  rw [localSeconds, springOffset]
  split <;> simp

theorem Platform.spring_mktime {tm : Tm} (inRange : tm.InRange) (unknown : tm.isdst = -1)
    (inside : tm.utcSeconds ∈ springFields) :
    Platform.spring.mktime tm = springMktime tm ∧ (springMktime tm).2 ∈ timeT ∧ (springMktime tm).2 =
      if tm.utcSeconds < springForward + 3600 then tm.utcSeconds else tm.utcSeconds - 3600 := by
  have time : (springMktime tm).2 =
      if tm.utcSeconds < springForward + 3600 then tm.utcSeconds else tm.utcSeconds - 3600 := by
    simp only [springMktime, unknown, mktimeUtc_inRange inRange]
    rfl
  have fits : (springMktime tm).2 ∈ timeT := by
    rw [time]
    split_ifs
    · exact inside.1
    · exact inside.2
  exact ⟨if_pos fits, fits, time⟩

theorem Platform.spring_inZone : Platform.spring.InZone springFields springOffset := by
  refine ⟨fun tm inRange unknown inside exists_ => ?_, fun tm inRange unknown inside none => ?_,
    fun tm inRange unknown inside => ?_, fun tm _ _ _ => rfl⟩
  · obtain ⟨mktime, -, found⟩ := Platform.spring_mktime inRange unknown inside
    obtain ⟨time, same⟩ := exists_
    rw [mktime, found]
    unfold localSeconds springOffset at *
    split_ifs at * <;> omega
  · obtain ⟨mktime, -, found⟩ := Platform.spring_mktime inRange unknown inside
    have before : springOffset (springForward - 1) = 0 := rfl
    have after : localSeconds springOffset springForward = springForward + 3600 := rfl
    have lower : springForward ≤ tm.utcSeconds := by
      by_contra early
      exact none ⟨tm.utcSeconds, by rw [localSeconds, springOffset, if_pos (not_le.mp early), Int.add_zero]⟩
    have upper : tm.utcSeconds < springForward + 3600 := by
      by_contra late
      exact none ⟨tm.utcSeconds - 3600, by rw [localSeconds, springOffset, if_neg (by omega), Int.sub_add_cancel]⟩
    exact ⟨springForward, by omega, by omega, by rw [mktime, found, if_pos upper, before, Int.sub_zero]⟩
  · -- The second call finds `tm_isdst` set, and reads the fields with the offset it stands for.
    obtain ⟨mktime, fits, -⟩ := Platform.spring_mktime inRange unknown inside
    have again := springMktime_normalised (springMktime tm).2
    rw [mktime]
    change (mktimeFitting springMktime (springMktime tm).1).2 = _
    have same : (springMktime (springMktime tm).1).2 = (springMktime tm).2 := again
    rw [mktimeFitting, if_pos (by rw [same]; exact fits), same]

theorem Platform.spring_readsSeconds : Platform.spring.ReadsSeconds := Platform.civil_readsSeconds

/-- 2024-03-31 at some time of the first hours. -/
def springMorning (hour min : Nat) : UtcText := ⟨2024, 3, 31, hour, min, 0, []⟩

theorem springMorning_wellFormed {hour min : Nat} (early : hour < 24 ∧ min < 60) :
    (springMorning hour min).WellFormed := by
  refine ⟨?_, ?_, ?_, early.1, early.2, Nat.succ_pos 59, Or.inl rfl⟩
  · exact of_decide_eq_true rfl
  · exact of_decide_eq_true rfl
  · exact of_decide_eq_true rfl

theorem springMorning_inZone (hour min : Nat) (early : hour < 24 ∧ min < 60) :
    Platform.spring.InZone {(springMorning hour min).seconds} springOffset := by
  refine Platform.spring_inZone.mono (Set.singleton_subset_iff.mpr ?_)
  have day : daysFromCivil 2024 3 31 = 19813 := by decide
  have seconds : (springMorning hour min).seconds = 19813 * 86400 + hour * 3600 + min * 60 + 0 := by
    rw [← day]
    rfl
  rw [seconds]
  exact ⟨⟨by omega, by omega⟩, by omega, by omega⟩

end Spring

end Mt6582.Gps

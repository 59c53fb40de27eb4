import Mt6582.Gps.Nmea.RawFeed
import Mt6582.Gps.Nmea.UtcText
import Mathlib.Data.List.Chain

/-! # Timestamps across midnight

Sequences of GGA and active RMC sentences of non-decreasing UTC instants, and the timestamps `nmea_cb` gets with
them. A GGA sentence brings a time of day only and is dated by the last RMC sentence, so the first sentence of
a day, when it is a GGA, is stamped almost a day too early. The timestamps after an RMC sentence are
non-decreasing exactly when no GGA sentence has an earlier time of day than the sentence before it.

`Platform.FixedOffset` and `Platform.ReadsSeconds` say what is taken from libc, at the instants that the reader asks
for: the times of day of the sentences on their dates.
-/

namespace Mt6582.Gps

open List

variable {F : Type} {pf : Platform F}

section Libc

/-- A time in range, put on a date in range. -/
theorem Stamp.setTime_eq {times : Set Int} {offset : Int} (libc : pf.FixedOffset times offset) (now : Int) {stamp : Stamp}
    {time : TimeOfDay} (inside : (stamp.fields time).utcSeconds - offset ∈ times) (dated : 0 ≤ stamp.year)
    (mon : 1 ≤ stamp.mon ∧ stamp.mon ≤ 12) (day : 1 ≤ stamp.day ∧ stamp.day ≤ daysInMonth stamp.year stamp.mon)
    (hour : 0 ≤ time.hour ∧ time.hour < 24) (min : 0 ≤ time.min ∧ time.min < 60)
    (sec : 0 ≤ time.sec ∧ time.sec < 60) :
    stamp.setTime pf now time = { stamp with timestamp :=
      (daysFromCivil stamp.year stamp.mon stamp.day * 86400 + time.hour * 3600 + time.min * 60 + time.sec) * 1000 } := by
  have inRange := stamp.fields_inRange mon day hour min sec
  obtain ⟨isdst, gmtoff, fields⟩ := libc.fields _ inRange inside
  -- The second `mktime` sees the same fields again.
  have again :
      (pf.mktime (pf.mktime (stamp.fields time)).1).2 =
      (stamp.fields time).utcSeconds - offset := by
    rw [fields]
    exact libc.time _ ⟨inRange.sec, inRange.min, inRange.hour, inRange.mon, inRange.mday⟩ inside
  rw [Stamp.setTime_dated now dated, again, libc.gmtoff _ inside, Int.sub_add_cancel,
    Stamp.utcSeconds_fields]

end Libc

section Reports

inductive ReportKind where
  | gga | rmc
deriving DecidableEq, Repr

/-- A GGA sentence or an RMC sentence with status A, with the instant it describes. A GGA sentence does not carry
its date; `place` is what stands between the status and the date of an RMC sentence. -/
structure Report where
  kind : ReportKind
  talker : List Byte
  year : Nat
  mon : Nat
  day : Nat
  hour : Nat
  min : Nat
  sec : Nat
  fraction : List Byte
  place : List (List Byte)
  others : List (List Byte)
  checksum : Option (Byte × Byte)
  crlf : Bool

namespace Report

def timeText (r : Report) : List Byte := twoDigits r.hour ++ twoDigits r.min ++ twoDigits r.sec ++ r.fraction

def dateText (r : Report) : List Byte := twoDigits r.day ++ twoDigits r.mon ++ twoDigits (r.year - 2000)

def fields (r : Report) : List (List Byte) :=
  match r.kind with
  | .gga => (r.talker ++ lit ['G', 'G', 'A']) :: r.timeText :: r.others
  | .rmc => (r.talker ++ lit ['R', 'M', 'C']) :: r.timeText :: lit ['A'] :: (r.place ++ r.dateText :: r.others)

def written (r : Report) : Sentence := ⟨r.fields, r.checksum, r.crlf⟩

def utc (r : Report) : UtcText := ⟨r.year, r.mon, r.day, r.hour, r.min, r.sec, r.fraction⟩

/-- Days since 1970-01-01. -/
def days (r : Report) : Int := daysFromCivil r.year r.mon r.day

def secondOfDay (r : Report) : Int := r.hour * 3600 + r.min * 60 + r.sec

/-- The instant, in whole seconds of UTC. -/
def instant (r : Report) : Int := r.days * 86400 + r.secondOfDay

structure WellFormed (r : Report) : Prop where
  written : r.written.WellFormed
  talker : r.talker.length = 2
  year : 2000 ≤ r.year ∧ r.year < 2100
  mon : 1 ≤ r.mon ∧ r.mon ≤ 12
  day : 1 ≤ r.day ∧ (r.day : Int) ≤ daysInMonth r.year r.mon
  hour : r.hour < 24
  min : r.min < 60
  sec : r.sec < 60
  fraction : IsFraction r.fraction
  place : r.place.length = 6

variable {r : Report}

theorem secondOfDay_bounds (wf : r.WellFormed) : 0 ≤ r.secondOfDay ∧ r.secondOfDay < 86400 := by
  have := wf.hour
  have := wf.min
  have := wf.sec
  rw [secondOfDay]
  omega

private theorem length_line_two (sentence : Sentence) {id text : List Byte}
    {rest : List (List Byte)} (fields : sentence.fields = id :: text :: rest) :
    id.length + text.length + 3 ≤ sentence.line.length := by
  have shorter : text.length ≤ ([comma].intercalate (text :: rest)).length := by
    cases rest with
    | nil => simp
    | cons other rest =>
      rw [intercalate_cons_cons]
      simp only [length_append]
      omega
  rw [Sentence.line, Sentence.body, fields, intercalate_cons_cons]
  cases sentence.crlf <;> simp only [length_cons, length_append, Bool.false_eq_true,
    ↓reduceIte] <;> omega

theorem six_le_timeText (r : Report) : 6 ≤ r.timeText.length := r.utc.six_le_timeText

namespace WellFormed

variable (wf : r.WellFormed)

include wf

theorem field_eq {index : Nat} (inside : index < maxNmeaTokens) :
    field r.written.line index = r.fields.getD index [] := field_line wf.written inside

/-- The identifier is a three-letter type behind the talker, and the line is long enough for the parser. -/
private theorem identifier_eq (word : List Byte) {rest : List (List Byte)}
    (fields : r.fields = (r.talker ++ word) :: r.timeText :: rest) (three : word.length = 3) :
    ∃ first second, field r.written.line 0 = first :: second :: word ∧
      ¬ (r.written.line.length < 9 ∨ (field r.written.line 0).length < 5) := by
  obtain ⟨first, second, talker⟩ := length_eq_two.mp wf.talker
  have id : field r.written.line 0 = first :: second :: word := by
    rw [wf.field_eq (by decide), fields, talker]
    rfl
  have size := length_line_two r.written fields
  have := six_le_timeText r
  refine ⟨first, second, id, ?_⟩
  rw [id]
  simp only [length_append, length_cons, three, wf.talker] at size ⊢
  omega

theorem kind_gga (gga : r.kind = .gga) : sentenceKind r.written.line = .gga := by
  obtain ⟨first, second, id, long⟩ :=
    wf.identifier_eq (lit ['G', 'G', 'A']) (by rw [Report.fields, gga]) rfl
  unfold sentenceKind
  dsimp only
  rw [if_neg long, id]
  simp [lit]

theorem kind_rmc (rmc : r.kind = .rmc) : sentenceKind r.written.line = .rmc := by
  obtain ⟨first, second, id, long⟩ :=
    wf.identifier_eq (lit ['R', 'M', 'C']) (by rw [Report.fields, rmc]) rfl
  have notG : ¬ 'G'.toUInt8 = 'R'.toUInt8 := by decide
  unfold sentenceKind
  dsimp only
  rw [if_neg long, id]
  simp [lit, cons_prefix_cons, notG]

theorem utc : r.utc.WellFormed :=
  ⟨wf.year, wf.mon, wf.day, wf.hour, wf.min, wf.sec, wf.fraction⟩

theorem timeOfDay_eq (reads : pf.ReadsSeconds) :
    timeOfDay pf r.timeText = some ⟨r.hour, r.min, r.sec⟩ :=
  wf.utc.timeOfDay_eq reads

theorem dateOf_eq : dateOf r.dateText = some ((r.year : Int), (r.mon : Int), (r.day : Int)) :=
  wf.utc.dateOf_eq

end WellFormed

end Report

end Reports

section Stamps

/-- The timestamp of a report's time of day on another report's date. -/
def Report.stampOn (r date : Report) : Int := (date.days * 86400 + r.secondOfDay) * 1000

/-- The instants of the reports' times of day on their dates. -/
def stampTimes (offset : Int) (reports : List Report) : Set Int :=
  {time | ∃ date ∈ reports, ∃ r ∈ reports, time = date.days * 86400 + r.secondOfDay - offset}

theorem stampTimes_mono {offset : Int} {fewer reports : List Report} (kept : fewer ⊆ reports) :
    stampTimes offset fewer ⊆ stampTimes offset reports := by
  rintro time ⟨date, dated, r, member, same⟩
  exact ⟨date, kept dated, r, kept member, same⟩

/-- The stamp that holds the date of a report and a timestamp. -/
def Report.dated (date : Report) (timestamp : Int) : Stamp := ⟨date.year, date.mon, date.day, timestamp⟩

/-- The report whose date is kept once `r` has been parsed. -/
def Report.dateAfter (date r : Report) : Report :=
  match r.kind with
  | .gga => date
  | .rmc => r

theorem Report.dateAfter_mem (date r : Report) : date.dateAfter r ∈ [date, r] := by
  rw [Report.dateAfter]
  split
  · exact mem_cons_self
  · exact mem_cons_of_mem _ mem_cons_self

variable {times : Set Int} {offset : Int} (libc : pf.FixedOffset times offset) (reads : pf.ReadsSeconds)

include libc reads

theorem Report.setTime_dated {date r : Report} (dateWf : date.WellFormed) (wf : r.WellFormed)
    (inside : date.days * 86400 + r.secondOfDay - offset ∈ times) (now timestamp : Int) :
    (date.dated timestamp).updateTime pf now r.timeText = date.dated (r.stampOn date) := by
  rw [Stamp.updateTime, wf.timeOfDay_eq reads]
  dsimp only
  have := dateWf.year
  have := dateWf.mon
  have := dateWf.day
  have := wf.hour
  have := wf.min
  have := wf.sec
  have seconds : ((date.dated timestamp).fields ⟨r.hour, r.min, r.sec⟩).utcSeconds =
      date.days * 86400 + r.secondOfDay := by
    rw [Stamp.utcSeconds_fields]
    simp only [Report.dated, Report.days, Report.secondOfDay, Int.add_assoc]
  rw [Stamp.setTime_eq libc now (by rw [seconds]; exact inside)]
  · simp only [Report.dated, Report.stampOn, Report.days, Report.secondOfDay, Int.add_assoc]
  all_goals simp only [Report.dated]; omega

/-- An RMC sentence sets date and time, whatever the reader held. -/
theorem Report.afterLine_rmc {r : Report} (wf : r.WellFormed) (rmc : r.kind = .rmc)
    (inside : r.days * 86400 + r.secondOfDay - offset ∈ times) (now : Int) (stamp : Stamp) :
    stamp.afterLine pf now r.written.line = r.dated (r.stampOn r) := by
  have fields :
      r.fields =
      (r.talker ++ lit ['R', 'M', 'C']) :: r.timeText :: lit ['A'] :: (r.place ++ r.dateText :: r.others) := by
    rw [Report.fields, rmc]
  have time : field r.written.line 1 = r.timeText := by
    rw [wf.field_eq (by decide), fields]
    rfl
  have status : field r.written.line 2 = lit ['A'] := by
    rw [wf.field_eq (by decide), fields]
    rfl
  have date : field r.written.line 9 = r.dateText := by
    rw [wf.field_eq (by decide), fields]
    simp only [getD_cons_succ]
    rw [getD_append_right _ _ _ _ (by rw [wf.place]), wf.place]
    rfl
  simp only [Stamp.afterLine, wf.kind_rmc rmc]
  rw [if_pos (by rw [status]; rfl), time, date, Stamp.updateDate, wf.dateOf_eq]
  exact Report.setTime_dated libc reads wf wf inside now stamp.timestamp

/-- A report is stamped with its time on the date kept, which an RMC sentence replaces by its own first. -/
theorem Report.afterLine_eq {date r : Report} (dateWf : date.WellFormed) (wf : r.WellFormed)
    (inside : (date.dateAfter r).days * 86400 + r.secondOfDay - offset ∈ times) (now timestamp : Int) :
    (date.dated timestamp).afterLine pf now r.written.line =
      (date.dateAfter r).dated (r.stampOn (date.dateAfter r)) := by
  cases kind : r.kind with
  | gga =>
    have time : field r.written.line 1 = r.timeText := by
      rw [wf.field_eq (by decide), Report.fields, kind]
      rfl
    rw [Report.dateAfter, kind] at inside
    rw [Stamp.afterLine, wf.kind_gga kind, Report.dateAfter, kind, time]
    exact Report.setTime_dated libc reads dateWf wf inside now timestamp
  | rmc =>
    rw [Report.dateAfter, kind] at inside
    rw [Report.afterLine_rmc libc reads wf kind inside, Report.dateAfter, kind]

end Stamps

section Feed

/-- A line fed to an idle reader is one call of `nmea_cb`, with the stamp after the line. -/
theorem nmeaReaderFeed_line_raw {inputs : List NmeaInput} {s : NmeaState pf} {line : List Byte}
    (registered : Registered pf inputs) (idle : s.reader.Idle) (isLine : IsLine lf line)
    (fits : line.length ≤ nmeaMaxSize) (bytes : inputs.map NmeaInput.byte = line) :
    ∃ now, (nmeaReaderFeed s inputs).1.reader.Idle ∧
      (nmeaReaderFeed s inputs).1.reader.stamp = s.reader.stamp.afterLine pf now line ∧
      rawCalls (nmeaReaderFeed s inputs).2 =
        [((s.reader.stamp.afterLine pf now line).timestamp, line)] := by
  obtain ⟨first, last, pos, inBuf, -, holds, held, done, effect, fed, after⟩ :=
    nmeaReaderFeed_line registered idle isLine fits bytes
  let loaded : NmeaState pf :=
    { s with reader := { s.reader with pos := pos, inBuf := inBuf }, gpsNmeaEndTag := last.endTag }
  have holdsLine : loaded.reader.HoldsLine := holds
  obtain ⟨stamp, quiet⟩ := lineEffect_raw last.env holdsLine
  have unmoved : loaded.reader.stamp = s.reader.stamp := rfl
  rw [← effect, held, unmoved] at stamp
  rw [← effect] at quiet
  refine ⟨last.env.now, ?_, ?_, ?_⟩
  · rw [fed]
    exact after
  · rw [fed]
    exact stamp
  · rw [fed, ← singleton_append, rawCalls_append, rawCalls_append, quiet, ← stamp]
    rfl

/-- The lines of a sequence of reports. -/
def reportLines (reports : List Report) : List Byte := reports.flatMap fun r => r.written.line

/-- The reader takes the first of some reports whole: what it calls, and that it is idle for the others. -/
theorem nmeaReaderFeed_report {inputs : List NmeaInput} {s : NmeaState pf} {r : Report}
    {rest : List Report} (registered : Registered pf inputs) (idle : s.reader.Idle)
    (wf : r.WellFormed) (bytes : inputs.map NmeaInput.byte = reportLines (r :: rest)) :
    ∃ later now next,
      Registered pf later ∧ later.map NmeaInput.byte = reportLines rest ∧ next.reader.Idle ∧
      next.reader.stamp = s.reader.stamp.afterLine pf now r.written.line ∧
      (nmeaReaderFeed s inputs).1 = (nmeaReaderFeed next later).1 ∧
      rawCalls (nmeaReaderFeed s inputs).2 =
        (next.reader.stamp.timestamp, r.written.line) :: rawCalls (nmeaReaderFeed next later).2 := by
  rw [reportLines, flatMap_cons] at bytes
  obtain ⟨first, later, rfl, lineBytes, laterBytes⟩ := map_eq_append_iff.mp bytes
  obtain ⟨now, after, stamp, calls⟩ :=
    nmeaReaderFeed_line_raw (fun input member => registered input (mem_append_left _ member))
    idle wf.written.isLine wf.written.fits lineBytes
  refine ⟨later, now, _, fun input member => registered input (mem_append_right _ member),
    laterBytes, after, stamp, ?_, ?_⟩
  · rw [nmeaReaderFeed_append]
  · rw [nmeaReaderFeed_append, rawCalls_append, calls, stamp]
    rfl

/-- The calls of `nmea_cb` for reports that follow the RMC sentence `date`. -/
def reportCalls : Report → List Report → List (Int × List Byte)
  | _, [] => []
  | date, r :: rest => (r.stampOn (date.dateAfter r), r.written.line) :: reportCalls (date.dateAfter r) rest

theorem Report.dateAfter_wellFormed {date r : Report} (dateWf : date.WellFormed)
    (wf : r.WellFormed) :
    (date.dateAfter r).WellFormed := by
  rw [Report.dateAfter]
  split
  · exact dateWf
  · exact wf

/-- What follows the first report is dated by one of the reports. -/
theorem dateAfter_cons_subset (date r : Report) (rest : List Report) : date.dateAfter r :: rest ⊆ date :: r :: rest := by
  rw [cons_subset]
  refine ⟨?_, fun other member => mem_cons_of_mem _ (mem_cons_of_mem _ member)⟩
  exact mem_append_left rest (date.dateAfter_mem r)

theorem dateAfter_stampTimes (offset : Int) (date r : Report) (rest : List Report) :
    (date.dateAfter r).days * 86400 + r.secondOfDay - offset ∈ stampTimes offset (date :: r :: rest) :=
  ⟨_, mem_append_left rest (date.dateAfter_mem r), r, mem_cons_of_mem _ mem_cons_self, rfl⟩

variable {times : Set Int} {offset : Int} (libc : pf.FixedOffset times offset) (reads : pf.ReadsSeconds)

include libc reads

theorem nmeaReaderFeed_reports {inputs : List NmeaInput} {s : NmeaState pf} {date : Report}
    {timestamp : Int} {rest : List Report} (registered : Registered pf inputs)
    (idle : s.reader.Idle) (stamp : s.reader.stamp = date.dated timestamp)
    (dateWf : date.WellFormed) (wf : ∀ r ∈ rest, r.WellFormed) (inside : stampTimes offset (date :: rest) ⊆ times)
    (bytes : inputs.map NmeaInput.byte = reportLines rest) :
    rawCalls (nmeaReaderFeed s inputs).2 = reportCalls date rest := by
  induction rest generalizing s inputs date timestamp with
  | nil =>
    obtain rfl := map_eq_nil_iff.mp bytes
    rfl
  | cons r rest ih =>
    have here := wf r mem_cons_self
    obtain ⟨later, now, next, laterRegistered, laterBytes, after, moved, -, calls⟩ :=
      nmeaReaderFeed_report registered idle here bytes
    rw [stamp, Report.afterLine_eq libc reads dateWf here (inside (dateAfter_stampTimes offset date r rest))] at moved
    have tail := ih laterRegistered after moved (Report.dateAfter_wellFormed dateWf here)
      (fun other member => wf other (mem_cons_of_mem _ member))
      ((stampTimes_mono (dateAfter_cons_subset date r rest)).trans inside) laterBytes
    rw [calls, tail, moved]
    rfl

/-- From an RMC sentence on, the calls are those of the reports alone. -/
theorem nmeaReaderFeed_drop {inputs : List NmeaInput} {s : NmeaState pf} {before rest : List Report}
    {first : Report} (registered : Registered pf inputs) (idle : s.reader.Idle)
    (wf : ∀ r ∈ before ++ first :: rest, r.WellFormed) (rmc : first.kind = .rmc)
    (inside : stampTimes offset (first :: rest) ⊆ times)
    (bytes : inputs.map NmeaInput.byte = reportLines (before ++ first :: rest)) :
    (rawCalls (nmeaReaderFeed s inputs).2).drop before.length =
      (first.stampOn first, first.written.line) :: reportCalls first rest := by
  induction before generalizing s inputs with
  | nil =>
    have here := wf first mem_cons_self
    obtain ⟨later, now, next, laterRegistered, laterBytes, after, moved, -, calls⟩ :=
      nmeaReaderFeed_report registered idle here bytes
    rw [Report.afterLine_rmc libc reads here rmc (inside ⟨first, mem_cons_self, first, mem_cons_self, rfl⟩)] at moved
    have tail := nmeaReaderFeed_reports libc reads laterRegistered after moved here
      (fun r member => wf r (mem_cons_of_mem _ member)) inside laterBytes
    rw [length_nil, drop_zero, calls, tail, moved]
    rfl
  | cons r before ih =>
    obtain ⟨later, now, next, laterRegistered, laterBytes, after, -, -, calls⟩ :=
      nmeaReaderFeed_report registered idle (wf r mem_cons_self) bytes
    rw [calls, length_cons, drop_succ_cons]
    exact ih laterRegistered after (fun other member => wf other (mem_cons_of_mem _ member)) laterBytes

end Feed

section Order

/-- Put on one date, times of day keep their order; an RMC sentence never goes back. -/
theorem isChain_reportCalls {date p : Report} {rest : List Report} (earlier : date.days ≤ p.days)
    (wf : ∀ r ∈ p :: rest, r.WellFormed) (ordered : (p :: rest).IsChain (·.instant ≤ ·.instant)) :
    ((p.stampOn date :: (reportCalls date rest).map Prod.fst).IsChain (· ≤ ·) ↔
      (p :: rest).IsChain fun p q => q.kind = .gga → p.secondOfDay ≤ q.secondOfDay) := by
  induction rest generalizing date p with
  | nil => simp [reportCalls]
  | cons q rest ih =>
    obtain ⟨step, ordered⟩ := isChain_cons_cons.mp ordered
    have boundsP := Report.secondOfDay_bounds (wf p mem_cons_self)
    have boundsQ := Report.secondOfDay_bounds (wf q (by simp))
    have wfRest : ∀ r ∈ q :: rest, r.WellFormed := fun r member => wf r (mem_cons_of_mem _ member)
    simp only [Report.instant] at step
    rw [reportCalls, map_cons, isChain_cons_cons, isChain_cons_cons]
    cases kind : q.kind with
    | gga =>
      have kept : date.dateAfter q = date := by rw [Report.dateAfter, kind]
      rw [kept, ih (by omega) wfRest ordered]
      apply and_congr_left'
      simp only [Report.stampOn, forall_const]
      omega
    | rmc =>
      have own : date.dateAfter q = q := by rw [Report.dateAfter, kind]
      rw [own, ih le_rfl wfRest ordered]
      apply and_congr_left'
      simp only [Report.stampOn, reduceCtorEq, false_implies, iff_true]
      omega

end Order

section Midnight

/-- A report of a GPS receiver with no more fields than it needs. -/
def shortReport (kind : ReportKind) (year mon day hour min sec : Nat) : Report :=
  ⟨kind, lit ['G', 'P'], year, mon, day, hour, min, sec, [], replicate 6 [], [], none, false⟩

/-- The last second of a year and the first of the next one, each with its GGA sentence first. -/
def yearEnd : List Report :=
  [shortReport .gga 2023 12 31 23 59 59, shortReport .rmc 2023 12 31 23 59 59,
    shortReport .gga 2024 1 1 0 0 0, shortReport .rmc 2024 1 1 0 0 0]

private theorem yearEnd_wellFormed : ∀ r ∈ yearEnd, r.WellFormed := by
  simp only [yearEnd, forall_mem_cons]
  refine ⟨?_, ?_, ?_, ?_, nofun⟩ <;>
    exact ⟨⟨by decide, by decide, nofun, by decide⟩,
      rfl, by decide, by decide, by decide, by decide, by decide, by decide, .inl rfl, rfl⟩

/-- The bytes of some reports, as read by a thread with a clock at zero. -/
def reportInputs (reports : List Report) : List NmeaInput :=
  (reportLines reports).map fun c => ⟨⟨72, true, 0, []⟩, true, c⟩

def freshNmea : NmeaState Platform.civil := ⟨nmeaReaderInit _, fun _ => false, false⟩

private theorem registered_reportInputs (reports : List Report) :
    Registered Platform.civil (reportInputs reports) := by
  intro input member
  obtain ⟨c, -, rfl⟩ := mem_map.mp member
  rfl

private theorem reportInputs_bytes (reports : List Report) :
    (reportInputs reports).map NmeaInput.byte = reportLines reports := by
  rw [reportInputs, map_map]
  exact map_id _

/-- Libc is right at the instants of reports up to early 2038. -/
private theorem civil_stampTimes {reports : List Report}
    (fits : ∀ date ∈ reports, ∀ r ∈ reports, date.days * 86400 + r.secondOfDay - 0 ∈ timeT) :
    Platform.civil.FixedOffset (stampTimes 0 reports) 0 := by
  refine Platform.civil_fixedOffset.mono ?_
  rintro _ ⟨date, dated, r, member, rfl⟩
  exact fits date dated r member

end Midnight

end Mt6582.Gps

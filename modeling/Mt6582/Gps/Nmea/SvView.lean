import Mt6582.Gps.Nmea.Line

/-! # The satellite data as a function of the sentences

`SvView` is what GSA and GSV sentences work on: the count of the current group, the satellite report
and `sv_used_in_fix`. Each sentence changes it by a function of the sentence's field texts alone,
`svEffect`; a reader fed whole sentences therefore computes a fold of `svEffect`, and the report at
the end of a read shows its result.
-/

namespace Mt6582.Gps

open List

variable {F : Type} {pf : Platform F}

structure SvView (pf : Platform F) where
  count : Int
  status : GnssSvStatus pf
  used : SvUsedInFix

def NmeaState.svView (s : NmeaState pf) : SvView pf := ⟨s.reader.svCount, s.reader.svStatusGnss, s.svUsedInFix⟩

section Effect

/-- The `prn` of a satellite id; BeiDou satellites are shifted by 200. -/
def svPrn (bds : Bool) (id : Int) : Int := if bds then wrap32 (id + 200) else id

/-- The entry of `sv_list` for a satellite given by its field texts. -/
def satelliteInfo (pf : Platform F) (used : SvUsedInFix) (prn : Int) (elevation azimuth snr : List Byte) : GnssSvInfo F :=
  ⟨prn, pf.toSingle (strToFloat pf snr), pf.toSingle (pf.ofInt (strToInt elevation)),
    pf.toSingle (pf.ofInt (strToInt azimuth)), used prn⟩

/-- The filter on `prn` of `nmea_reader_update_sv_status_gnss`. -/
def prnRejected (prn : Int) : Prop := prn ≤ 0 ∨ (prn < 65 ∧ gpsMaxSvs < prn) ∨ (96 < prn ∧ prn < 200) ∨ 232 < prn

instance (prn : Int) : Decidable (prnRejected prn) := inferInstanceAs (Decidable (_ ∨ _))

/-- `nmea_reader_update_sv_status_gnss` on the view. -/
def SvView.store (v : SvView pf) (info : GnssSvInfo F) : SvView pf :=
  if prnRejected info.prn ∨ pf.gnssMaxSvs ≤ v.count ∨ pf.gnssMaxSvs ≤ wrap32 (v.count + v.status.numSvs) then v
  else { v with
    status := { v.status with svList := storeAt v.status.svList (wrap32 (v.count + v.status.numSvs)) info }
    count := wrap32 (v.count + 1) }

/-- The satellite at index `idx` of a GSV sentence. -/
def gsvInfo (pf : Platform F) (line : List Byte) (used : SvUsedInFix) (idx : Nat) : GnssSvInfo F :=
  satelliteInfo pf used (svPrn (isBds line) (strToInt (field line (4 * (idx + 1)))))
    (field line (4 * (idx + 1) + 1)) (field line (4 * (idx + 1) + 2)) (field line (4 * (idx + 1) + 3))

def SvView.start (v : SvView pf) (seq : Int) : SvView pf := if seq = 1 then { v with count := 0 } else v

def SvView.close (v : SvView pf) (num seq cnt : Int) : SvView pf :=
  if seq = num then
    if v.count ≤ cnt then { v with status := { v.status with numSvs := wrap32 (v.status.numSvs + v.count) } }
    else { v with count := 0, status := { v.status with numSvs := 0 } }
  else v

/-- The GSV branch on the view. -/
def gsvEffect (line : List Byte) (v : SvView pf) : SvView pf :=
  let seq := strToInt (field line 2)
  let cnt := strToInt (field line 3)
  (((List.range (gsvSvNum seq cnt).toNat).map (gsvInfo pf line v.used)).foldl SvView.store (v.start seq)).close
    (strToInt (field line 1)) seq cnt

/-- The satellite loop of the GSA branch on the id texts. -/
def gsaUsed (bds : Bool) : List (List Byte) → SvUsedInFix → SvUsedInFix
  | [], used => used
  | text :: rest, used =>
      let prn := svPrn bds (strToInt text)
      if text = [] then used
      else if 1 ≤ prn ∧ prn ≤ 32 then gsaUsed bds rest (Function.update used prn true)
      else if 193 ≤ prn ∧ prn ≤ 197 then gsaUsed bds rest (Function.update used prn false)
      else if 65 ≤ prn ∧ prn ≤ 96 then gsaUsed bds rest (Function.update used prn true)
      else if 201 ≤ prn ∧ prn ≤ 232 then gsaUsed bds rest (Function.update used prn true)
      else used

/-- The GSA branch on the view. -/
def gsaEffect (line : List Byte) (v : SvView pf) : SvView pf :=
  if strToInt (field line 2) = 2 ∨ strToInt (field line 2) = 3 then
    { v with used := gsaUsed (isBds line) ((List.range 12).map fun idx => field line (idx + 3)) v.used }
  else v

def svEffect (line : List Byte) (v : SvView pf) : SvView pf :=
  match sentenceKind line with
  | .gsa => gsaEffect line v
  | .gsv => gsvEffect line v
  | _ => v

end Effect

section Refinement

variable {s : NmeaState pf}

private theorem gsaLoop_eq {r : NmeaReader pf} (holds : r.HoldsLine) (bds : Bool) (left idx : Nat)
    (used : SvUsedInFix) :
    gsaLoop r.tokens bds left idx used =
      gsaUsed bds ((List.range left).map fun k => field r.line (idx + k + 3)) used := by
  induction left generalizing idx used with
  | zero => rfl
  | succ left ih =>
    have text :
        (nmeaTokenizerGet r.tokens (idx + 3)).p = (nmeaTokenizerGet r.tokens (idx + 3)).fin ↔
        field r.line (idx + 3) = [] := holds.same_iff (idx + 3)
    simp only [gsaLoop, map_field_succ, gsaUsed, text, holds.int, ih, svPrn]
    rfl

/-- The parts of the reader the view shows. -/
structure NmeaReader.Shows (r : NmeaReader pf) (v : SvView pf) : Prop where
  count : r.svCount = v.count
  status : r.svStatusGnss = v.status

private theorem nmeaReaderUpdateSvStatusGnss_shows {r next : NmeaReader pf} {v : SvView pf}
    (holds : r.HoldsLine) (shows : next.Shows v) (used : SvUsedInFix) (prn : Int) (i j k : Nat) :
    (nmeaReaderUpdateSvStatusGnss used next prn (nmeaTokenizerGet r.tokens i) (nmeaTokenizerGet r.tokens j)
      (nmeaTokenizerGet r.tokens k)).Shows
      (v.store (satelliteInfo pf used prn (field r.line i) (field r.line j) (field r.line k))) := by
  have rejected : (prn ≤ 0 ∨ (prn < 65 ∧ gpsMaxSvs < prn) ∨ (96 < prn ∧ prn < 200) ∨ 232 < prn ∨
      pf.gnssMaxSvs ≤ v.count) ↔ prnRejected prn ∨ pf.gnssMaxSvs ≤ v.count := by
    simp only [prnRejected, or_assoc]
  simp only [nmeaReaderUpdateSvStatusGnss, shows.count, shows.status, holds.int,
    holds.float, rejected]
  have named :
      (satelliteInfo pf used prn (field r.line i) (field r.line j) (field r.line k)).prn =
      prn := rfl
  rw [SvView.store, named]
  by_cases first : prnRejected prn ∨ pf.gnssMaxSvs ≤ v.count
  · rw [if_pos first, if_pos (or_assoc.mp (.inl first))]
    exact shows
  · rw [if_neg first]
    by_cases full : pf.gnssMaxSvs ≤ wrap32 (v.count + v.status.numSvs)
    · rw [if_pos full, if_pos (.inr (.inr full))]
      exact shows
    · rw [if_neg full, if_neg (by rw [← or_assoc]; exact not_or.mpr ⟨first, full⟩)]
      exact ⟨rfl, rfl⟩

/-- Storing satellites of the sentence, given by their indices. -/
theorem gsvStores_shows {r next : NmeaReader pf} {v : SvView pf} (holds : r.HoldsLine)
    (shows : next.Shows v) (used : SvUsedInFix) (indices : List Nat) :
    (indices.foldl (fun next idx => nmeaReaderUpdateSvStatusGnss used next (gsvSvId r.tokens (isBds r.line) idx)
      (nmeaTokenizerGet r.tokens (4 * (idx + 1) + 1)) (nmeaTokenizerGet r.tokens (4 * (idx + 1) + 2))
      (nmeaTokenizerGet r.tokens (4 * (idx + 1) + 3))) next).Shows
      ((indices.map (gsvInfo pf r.line used)).foldl SvView.store v) := by
  induction indices generalizing next v with
  | nil => exact shows
  | cons idx rest ih =>
    simp only [foldl_cons, map_cons, gsvInfo]
    apply ih
    have prn :
        gsvSvId r.tokens (isBds r.line) idx =
        svPrn (isBds r.line) (strToInt (field r.line (4 * (idx + 1)))) := by
      simp only [gsvSvId, holds.int, svPrn]
    rw [prn]
    exact nmeaReaderUpdateSvStatusGnss_shows holds shows used _ _ _ _

private theorem gsvClose_shows {next : NmeaReader pf} {v : SvView pf} (shows : next.Shows v)
    (num seq cnt : Int) :
    (gsvClose num seq cnt next).Shows (v.close num seq cnt) := by
  obtain ⟨count, status, used⟩ := v
  obtain ⟨rfl, rfl⟩ := shows
  rw [gsvClose, SvView.close]
  split_ifs <;> exact ⟨rfl, rfl⟩

@[simp] theorem SvView.start_used (v : SvView pf) (seq : Int) : (v.start seq).used = v.used := by
  rw [SvView.start]
  split <;> rfl

@[simp] theorem SvView.foldl_store_used (infos : List (GnssSvInfo F)) (v : SvView pf) :
    (infos.foldl SvView.store v).used = v.used := by
  induction infos generalizing v with
  | nil => rfl
  | cons info rest ih =>
    rw [foldl_cons, ih, SvView.store]
    split <;> rfl

@[simp] theorem SvView.close_used (v : SvView pf) (num seq cnt : Int) :
    (v.close num seq cnt).used = v.used := by
  rw [SvView.close]
  split_ifs <;> rfl

private theorem svView_eq {v : SvView pf} (shows : s.reader.Shows v)
    (used : s.svUsedInFix = v.used) : s.svView = v := by
  cases v
  simp only [NmeaState.svView, shows.count, shows.status, used]

/-- Sentences act on the view through their field texts alone. -/
theorem sentenceEffect_svView (env : ParseEnv) (holds : s.reader.HoldsLine) :
    (sentenceEffect env s).svView = svEffect s.reader.line s.svView := by
  by_cases gsa : sentenceKind s.reader.line = .gsa
  · simp only [svEffect, gsa, sentenceEffect, parseGsa, gsaEffect, NmeaReader.locFixed, holds.int,
      Bool.or_eq_true, beq_iff_eq, gsaLoop_eq holds, Nat.zero_add]
    split_ifs <;> rfl
  by_cases gsv : sentenceKind s.reader.line = .gsv
  · have start : (gsvStart (strToInt (field s.reader.line 2)) s.reader).Shows
        (s.svView.start (strToInt (field s.reader.line 2))) := by
      rw [gsvStart, SvView.start]
      split <;> exact ⟨rfl, rfl⟩
    have filled := gsvStores_shows holds start s.svUsedInFix
      (List.range (gsvSvNum (strToInt (field s.reader.line 2)) (strToInt (field s.reader.line 3))).toNat)
    apply svView_eq
    · simp only [svEffect, gsv, sentenceEffect, parseGsv, gsvEffect, holds.int]
      exact gsvClose_shows filled _ _ _
    · simp [svEffect, gsv, sentenceEffect, gsvEffect, NmeaState.svView]
  · have same : svEffect s.reader.line s.svView = s.svView := by
      rw [svEffect]
      split
      · exact absurd ‹_› gsa
      · exact absurd ‹_› gsv
      · rfl
    obtain ⟨count, status⟩ := sentenceEffect_sv env holds gsv
    rw [same]
    apply svView_eq ⟨count, status⟩
    cases kind : sentenceKind s.reader.line with
    | gsa => exact absurd kind gsa
    | _ => simp only [sentenceEffect, kind, NmeaState.svView]

end Refinement

section Feeding

def Call.svReport : Call pf → Option (GnssSvStatus pf)
  | .gnssSvStatus status => some status
  | _ => none

/-- The arguments of the calls of `gnss_sv_status_cb`, in order. -/
def svReports (calls : List (Call pf)) : List (GnssSvStatus pf) := calls.filterMap Call.svReport

theorem svReports_append (first second : List (Call pf)) :
    svReports (first ++ second) = svReports first ++ svReports second := filterMap_append

/-- The view after a report. -/
def SvView.reported (v : SvView pf) : SvView pf := ⟨0, { v.status with numSvs := 0 }, fun _ => false⟩

theorem nmeaReaderReport_svView {env : ParseEnv}
    (registered : env.callbacksSize = pf.sizeofGpsCallbacksMtk) (s : NmeaState pf) :
    svReports (nmeaReaderReport env s).2 =
        (if s.svView.status.numSvs ≠ 0 ∧ s.gpsNmeaEndTag = true then [s.svView.status] else []) ∧
      (nmeaReaderReport env s).1.svView =
        if s.svView.status.numSvs ≠ 0 ∧ s.gpsNmeaEndTag = true then s.svView.reported else s.svView := by
  have fix : svReports (nmeaReaderReportFix env s).2 = [] ∧
      (nmeaReaderReportFix env s).1.svView = s.svView ∧
      (nmeaReaderReportFix env s).1.gpsNmeaEndTag = s.gpsNmeaEndTag := by
    obtain ⟨flags, changed, calls⟩ := nmeaReaderReportFix_frame env s
    rw [changed]
    refine ⟨filterMap_eq_nil_iff.mpr ?_, rfl, rfl⟩
    intro c member
    cases c with
    | gnssSvStatus status => exact (calls _ member).elim
    | _ => rfl
  obtain ⟨none, same, tag⟩ := fix
  simp only [nmeaReaderReport, svReports_append, none, nil_append, ← same, ← tag]
  generalize (nmeaReaderReportFix env s).1 = middle
  simp only [nmeaReaderReportSv, registered, ↓reduceIte]
  by_cases shown : middle.reader.svStatusGnss.numSvs ≠ 0 ∧ middle.gpsNmeaEndTag = true
  · rw [if_pos shown]
    exact ⟨(if_pos shown).symm, (if_pos shown).symm⟩
  · rw [if_neg shown]
    exact ⟨(if_neg shown).symm, (if_neg shown).symm⟩

/-- Only the last of these bytes comes with the end tag raised. -/
def TaggedLast (inputs : List NmeaInput) : Prop :=
  ∀ before input after, inputs = before ++ input :: after → (input.endTag = true ↔ after = [])

theorem nmeaReaderFeed_line_svView {first : List NmeaInput} {last : NmeaInput} {s : NmeaState pf}
    {line : List Byte} (registered : Registered pf (first ++ [last])) (idle : s.reader.Idle)
    (isLine : IsLine lf line) (fits : line.length ≤ nmeaMaxSize)
    (known : sentenceKind line ≠ .ignored)
    (bytes : (first ++ [last]).map NmeaInput.byte = line) :
    (nmeaReaderFeed s (first ++ [last])).1.reader.Idle ∧
      svReports (nmeaReaderFeed s (first ++ [last])).2 =
        (if (svEffect line s.svView).status.numSvs ≠ 0 ∧ last.endTag = true then [(svEffect line s.svView).status] else []) ∧
      (nmeaReaderFeed s (first ++ [last])).1.svView =
        if (svEffect line s.svView).status.numSvs ≠ 0 ∧ last.endTag = true then (svEffect line s.svView).reported
        else svEffect line s.svView := by
  obtain ⟨first', last', pos, inBuf, split, holds, loaded, done, effect, fed, idle'⟩ :=
    nmeaReaderFeed_line registered idle isLine fits bytes
  obtain ⟨rfl, rfl⟩ := concat_inj.mp (by simpa only [concat_eq_append] using split)
  rw [lineEffect] at effect
  dsimp only at effect
  rw [loaded, if_neg known] at effect
  have view := sentenceEffect_svView last.env (s := { s with
    reader := { s.reader with pos := pos, inBuf := inBuf }, gpsNmeaEndTag := last.endTag }) holds
  dsimp only at view
  rw [loaded] at view
  obtain ⟨reports, after⟩ :=
    nmeaReaderReport_svView (registered last (by simp)) (sentenceEffect last.env { s with
    reader := { s.reader with pos := pos, inBuf := inBuf }, gpsNmeaEndTag := last.endTag })
  rw [← effect, view, sentenceEffect_endTag] at reports after
  rw [fed]
  refine ⟨idle', ?_, ?_⟩
  · rw [svReports_append, ← singleton_append, svReports_append]
    change [] ++ svReports done.2 ++ [] = _
    rw [nil_append, append_nil]
    exact reports
  · exact after

/-- The first of the lines: its inputs, and those of the lines after it. The tag is raised within the first line only if it
is the last. -/
theorem TaggedLast.firstLine {inputs : List NmeaInput} {line : List Byte} {rest : List (List Byte)}
    (tagged : TaggedLast inputs)
    (each : ∀ text ∈ line :: rest, IsLine lf text)
    (bytes : inputs.map NmeaInput.byte = (line :: rest).flatten) :
    ∃ first last there, inputs = first ++ [last] ++ there ∧
      (first ++ [last]).map NmeaInput.byte = line ∧
      there.map NmeaInput.byte = rest.flatten ∧ TaggedLast there ∧
        (last.endTag = true ↔ rest = []) := by
  have nonempty (text : List Byte) (member : text ∈ line :: rest) : text ≠ [] := by
    obtain ⟨body, rfl, -⟩ := each text member
    simp
  obtain ⟨here, there, rfl, hereBytes, thereBytes⟩ :=
    map_eq_append_iff.mp (bytes.trans flatten_cons)
  rcases eq_nil_or_concat here with rfl | ⟨first, last, rfl⟩
  · exact absurd hereBytes.symm (nonempty line mem_cons_self)
  rw [concat_eq_append] at *
  refine ⟨first, last, there, rfl, hereBytes, thereBytes, ?_, ?_⟩
  · intro before input after split
    exact tagged (first ++ [last] ++ before) input after (by simp [split])
  · rw [tagged first last there (by simp), ← map_eq_nil_iff (f := NmeaInput.byte), thereBytes]
    cases rest with
    | nil => simp
    | cons next rest => simp [nonempty next (by simp)]

/-- Whole lines, the end tag raised at the last byte: the view is folded along the lines and shown at the end. -/
theorem nmeaReaderFeed_lines_svView (lines : List (List Byte)) {inputs : List NmeaInput}
    {s : NmeaState pf} (registered : Registered pf inputs) (idle : s.reader.Idle)
    (each : ∀ line ∈ lines, IsLine lf line ∧ line.length ≤ nmeaMaxSize ∧ sentenceKind line ≠ .ignored)
    (bytes : inputs.map NmeaInput.byte = lines.flatten) (tagged : TaggedLast inputs) {v : SvView pf}
    (folded : lines.foldl (fun v line => svEffect line v) s.svView = v) :
    (nmeaReaderFeed s inputs).1.reader.Idle ∧
      svReports (nmeaReaderFeed s inputs).2 = (if lines ≠ [] ∧ v.status.numSvs ≠ 0 then [v.status] else []) ∧
      (nmeaReaderFeed s inputs).1.svView = if lines ≠ [] ∧ v.status.numSvs ≠ 0 then v.reported else v := by
  induction lines generalizing inputs s with
  | nil =>
    obtain rfl : inputs = [] := map_eq_nil_iff.mp bytes
    exact ⟨idle, rfl, folded⟩
  | cons line rest ih =>
    obtain ⟨isLine, fits, known⟩ := each line mem_cons_self
    obtain ⟨first, last, there, rfl, hereBytes, thereBytes, taggedThere, tag⟩ :=
      tagged.firstLine (fun line member => (each line member).1) bytes
    obtain ⟨idle', reports, view⟩ := nmeaReaderFeed_line_svView (s := s)
      (fun input member => registered input (mem_append_left _ member)) idle isLine fits known hereBytes
    rw [foldl_cons] at folded
    cases rest with
    | nil =>
      obtain rfl : there = [] := map_eq_nil_iff.mp thereBytes
      rw [foldl_nil] at folded
      subst folded
      rw [append_nil]
      simp only [tag, and_true] at reports view
      simp only [ne_eq, reduceCtorEq, not_false_eq_true, true_and]
      exact ⟨idle', reports, view⟩
    | cons next rest =>
      have silent : last.endTag = false := by simpa using tag
      simp only [silent, Bool.false_eq_true, and_false, ↓reduceIte] at reports view
      obtain ⟨laterIdle, laterReports, laterView⟩ :=
        ih (s := (nmeaReaderFeed s (first ++ [last])).1)
        (fun input member => registered input (mem_append_right _ member)) idle'
        (fun line member => each line (mem_cons_of_mem _ member)) thereBytes taggedThere (by rw [view]; exact folded)
      rw [nmeaReaderFeed_append, svReports_append, reports, nil_append]
      simp only [ne_eq, reduceCtorEq, not_false_eq_true, true_and] at laterReports laterView ⊢
      exact ⟨laterIdle, laterReports, laterView⟩

end Feeding

end Mt6582.Gps

import Mt6582.Gps.Nmea.Epoch
import Mt6582.Gps.Nmea.Legacy

/-! # The two copies of the satellite report agree

The legacy copy of the GSA, GSV and report code keeps the satellites used in the fix as a bit mask, which each GSA sentence
clears and which is read when the report is shown; the other copy keeps a table by `prn`, cleared by the report and read
when a satellite is stored. On epochs of one GPS GSA sentence and GPS and GLONASS groups the two make the same report.
-/

namespace Mt6582.Gps

open List hiding Vector

variable {F : Type} {pf : Platform F}

section Simulation

/-- The legacy part lists what the view lists, as far as its own array goes. -/
structure SvView.Mirrors (v : SvView pf) (p : SvPart pf) : Prop where
  count : p.count = v.count
  numSvs : p.gps.numSvs = v.status.numSvs
  list : p.gps.svList.toList = (v.status.svList.toList.take gpsMaxSvs).map GnssSvInfo.gps

variable {v : SvView pf} {p : SvPart pf} {done current : List (GnssSvInfo F)}

/-- Below 200 the two filters are the same. -/
theorem prnRejectedGps_iff {prn : Int} (below : prn < 200) :
    prnRejectedGps prn ↔ prnRejected prn := by
  simp only [prnRejectedGps, prnRejected]
  omega

theorem SvView.Mirrors.store (mirrors : v.Mirrors p) (holds : v.Holds done current)
    (wide : gpsMaxSvs ≤ pf.gnssMaxSvs) {info : GnssSvInfo F} (below : info.prn < 200)
    (room : done.length + current.length + (acceptedInfos [info]).length ≤ gpsMaxSvs) :
    (v.store info).Mirrors (p.store info.gps) := by
  have filter : prnRejectedGps info.gps.prn ↔ prnRejected info.prn := prnRejectedGps_iff below
  rw [SvView.store, SvPart.store]
  simp only [filter, mirrors.count, mirrors.numSvs]
  rcases Decidable.em (prnRejected info.prn) with rejected | accepted
  · rw [if_pos (.inl rejected), if_pos (.inl rejected)]
    exact mirrors
  · have one : acceptedInfos [info] = [info] := by simp [acceptedInfos, accepted]
    have small : gpsMaxSvs = 32 := rfl
    rw [one, length_singleton] at room
    have index : wrap32 (v.count + v.status.numSvs) = (done.length + current.length : Nat) := by
      rw [holds.count, holds.numSvs, wrap32_eq_self (by omega) (by omega)]
      omega
    have count : v.count = current.length := holds.count
    rw [index, if_neg (by simp only [accepted, false_or]; omega),
      if_neg (by simp only [accepted, false_or]; omega)]
    refine ⟨rfl, rfl, ?_⟩
    simp only [storeAt, Int.natCast_nonneg, ↓reduceIte, Int.toNat_natCast,
      Vector.toList_setIfInBounds, mirrors.list, take_set, map_set]

theorem SvView.Mirrors.foldl_store (mirrors : v.Mirrors p) (holds : v.Holds done current)
    (wide : gpsMaxSvs ≤ pf.gnssMaxSvs) (infos : List (GnssSvInfo F))
    (below : ∀ info ∈ infos, info.prn < 200)
    (room : done.length + current.length + (acceptedInfos infos).length ≤ gpsMaxSvs) :
    (infos.foldl SvView.store v).Mirrors ((infos.map GnssSvInfo.gps).foldl SvPart.store p) := by
  induction infos generalizing v p current with
  | nil => exact mirrors
  | cons info rest ih =>
    rw [acceptedInfos_cons, length_append] at room
    rw [foldl_cons, map_cons, foldl_cons]
    apply ih (mirrors.store holds wide (below info mem_cons_self) (by omega))
      (holds.store info (by omega))
    · exact fun info member => below info (mem_cons_of_mem _ member)
    · rw [length_append]
      omega

theorem SvView.Mirrors.start (mirrors : v.Mirrors p) (seq : Int) :
    (v.start seq).Mirrors (p.start seq) := by
  rw [SvView.start, SvPart.start]
  split
  · exact ⟨rfl, mirrors.numSvs, mirrors.list⟩
  · exact mirrors

theorem SvView.Mirrors.close (mirrors : v.Mirrors p) (num seq cnt : Int) :
    (v.close num seq cnt).Mirrors (p.close num seq cnt) := by
  rw [SvView.close, SvPart.close]
  rw [mirrors.count]
  split
  · split
    · exact ⟨rfl, by rw [mirrors.numSvs], mirrors.list⟩
    · exact ⟨rfl, rfl, mirrors.list⟩
  · exact mirrors

theorem SvView.Mirrors.reported (mirrors : v.Mirrors p) : v.reported.Mirrors p.reported :=
  ⟨rfl, rfl, mirrors.list⟩

variable {g : GsvSentence}

/-- The marks do not enter the legacy entry. -/
theorem GsvSentence.WellFormed.infosGps (wf : g.WellFormed) (used : SvUsedInFix) :
    (List.range g.sats.length).map (gsvInfoGps pf g.written.line) =
      (g.sats.map (Satellite.info pf g.talker used)).map GnssSvInfo.gps := by
  have infos : (List.range g.sats.length).map (gsvInfo pf g.written.line fun _ => false) =
      g.sats.map (Satellite.info pf g.talker fun _ => false) := wf.infos _
  calc (List.range g.sats.length).map (gsvInfoGps pf g.written.line)
    _ = ((List.range g.sats.length).map (gsvInfo pf g.written.line fun _ => false)).map GnssSvInfo.gps := by
      rw [map_map]
      rfl
    _ = (g.sats.map (Satellite.info pf g.talker fun _ => false)).map GnssSvInfo.gps := by rw [infos]
    _ = (g.sats.map (Satellite.info pf g.talker used)).map GnssSvInfo.gps := by
      rw [map_map, map_map]
      rfl

theorem GsvSentence.WellFormed.gpsEffect (wf : g.WellFormed) (p : SvPart pf) (used : SvUsedInFix)
    (carried : gsvSvNum (strToInt g.seq) (strToInt g.cnt) = g.sats.length) :
    gpsEffect g.written.line p =
      (((g.sats.map (Satellite.info pf g.talker used)).map GnssSvInfo.gps).foldl SvPart.store
      (p.start (strToInt g.seq))).close (strToInt g.num) (strToInt g.seq) (strToInt g.cnt) := by
  obtain ⟨num, seq, cnt⟩ := wf.numbers
  rw [Gps.gpsEffect, wf.kind]
  simp only [gsvEffectGps, num, seq, cnt, carried, Int.toNat_natCast, wf.infosGps used]

/-- A sentence of a GPS or GLONASS group with ids that both copies filter alike. -/
structure GsvSentence.Common (g : GsvSentence) : Prop where
  talker : g.talker = lit ['G', 'P'] ∨ g.talker = lit ['G', 'L']
  below : ∀ sat ∈ g.sats, strToInt sat.id < 200

theorem GsvSentence.Common.prn_lt (common : g.Common) (used : SvUsedInFix) :
    ∀ info ∈ g.sats.map (Satellite.info pf g.talker used), info.prn < 200 := by
  intro info member
  obtain ⟨sat, inside, rfl⟩ := mem_map.mp member
  have other : ¬ g.talker = lit ['B', 'D'] := by
    rcases common.talker with gps | glonass
    · rw [gps]; decide
    · rw [glonass]; decide
  have prn : (sat.info pf g.talker used).prn = strToInt sat.id := by
    simp only [Satellite.info, satelliteInfo, talkerPrn, other, ↓reduceIte, Int.add_zero]
  rw [prn]
  exact common.below sat inside

/-- A sentence of a group keeps the legacy part in step, and leaves the mask. -/
theorem SvView.Mirrors.sentence (mirrors : v.Mirrors p) (wide : gpsMaxSvs ≤ pf.gnssMaxSvs)
    (wf : g.WellFormed)
    (common : g.Common) (holds : (v.start (strToInt g.seq)).Holds done current)
    (carried : gsvSvNum (strToInt g.seq) (strToInt g.cnt) = g.sats.length)
    (room : done.length + current.length + (g.accepted pf v.used).length ≤ gpsMaxSvs) :
    (svEffect g.written.line v).Mirrors (gpsEffect g.written.line p) := by
  rw [wf.svEffect v carried, wf.gpsEffect p v.used carried]
  exact ((mirrors.start _).foldl_store holds wide _ (common.prn_lt v.used) room).close _ _ _

/-- Sentences of a group from number `i + 1` on that do not close it. -/
theorem SvView.Mirrors.sentences (mirrors : v.Mirrors p) (wide : gpsMaxSvs ≤ pf.gnssMaxSvs)
    (num : Int) (rest : List GsvSentence) (i : Nat) (begins : v.Begins i done current)
    (before : (i + rest.length : Int) < num)
    (each : ∀ (k : Nat) g, rest[k]? = some g → g.WellFormed ∧ strToInt g.num = num ∧ strToInt g.seq = (i + k : Nat) + 1 ∧
      gsvSvNum (strToInt g.seq) (strToInt g.cnt) = g.sats.length) (common : ∀ g ∈ rest, g.Common)
    (room : done.length + current.length + (rest.flatMap (GsvSentence.accepted pf v.used)).length ≤ gpsMaxSvs) :
    ((rest.map (·.written.line)).foldl (fun v line => svEffect line v) v).Mirrors
      ((rest.map (·.written.line)).foldl (fun p line => gpsEffect line p) p) := by
  induction rest generalizing v p i current with
  | nil => exact mirrors
  | cons g rest ih =>
    obtain ⟨wf, total, seq, carried⟩ := each 0 g rfl
    rw [flatMap_cons, length_append] at room
    rw [length_cons] at before
    rw [Nat.add_zero] at seq
    have middle : strToInt g.seq ≠ strToInt g.num := by rw [seq, total]; omega
    obtain ⟨next, used⟩ := wf.begins begins carried seq middle (by omega)
    have step :=
      mirrors.sentence wide wf (common g mem_cons_self) (by rw [seq]; exact begins.start) carried (by omega)
    simp only [map_cons, foldl_cons]
    apply ih step (i + 1) next
    · push_cast at before ⊢
      omega
    · intro k g present
      obtain ⟨wf, total, seq, carried⟩ := each (k + 1) g (by simpa using present)
      exact ⟨wf, total, by rw [seq]; push_cast; omega, carried⟩
    · exact fun g member => common g (mem_cons_of_mem _ member)
    · rw [used, length_append]
      omega

/-- A complete group. -/
theorem SvView.Mirrors.group (mirrors : v.Mirrors p) (wide : gpsMaxSvs ≤ pf.gnssMaxSvs)
    {group : GsvGroup} (wf : group.WellFormed) (common : ∀ g ∈ group.sentences, g.Common)
    (isDone : v.Done done)
    (room : done.length + (group.sentences.flatMap (GsvSentence.accepted pf v.used)).length ≤ gpsMaxSvs) :
    ((group.sentences.map (·.written.line)).foldl (fun v line => svEffect line v) v).Mirrors
      ((group.sentences.map (·.written.line)).foldl (fun p line => gpsEffect line p) p) := by
  have last : group.sentences[group.full.length]? = some group.last := by simp [GsvGroup.sentences]
  obtain ⟨-, seq, -⟩ := wf.numbered _ _ last
  rw [GsvGroup.sentences, flatMap_append, flatMap_singleton, length_append] at room
  obtain ⟨begins, used⟩ := wf.begins isDone (by omega)
  have middles :=
    mirrors.sentences wide (group.full.length + 1) group.full 0 isDone.begins (by omega) wf.middles
    (fun g member => common g (mem_append_left _ member)) (by rw [length_nil]; omega)
  rw [GsvGroup.sentences, map_append, foldl_append, foldl_append, map_singleton, foldl_cons,
    foldl_nil, foldl_cons, foldl_nil]
  apply middles.sentence wide (wf.each group.last (mem_of_getElem? last)).1
    (common group.last (mem_of_getElem? last))
    (by rw [seq]; exact begins.start) (wf.carried last)
  rw [used]
  omega

theorem SvView.Mirrors.groups (mirrors : v.Mirrors p) (wide : gpsMaxSvs ≤ pf.gnssMaxSvs)
    (groups : List GsvGroup) (each : ∀ group ∈ groups, group.WellFormed)
    (common : ∀ group ∈ groups, ∀ g ∈ group.sentences, g.Common) (isDone : v.Done done)
    (room : done.length + (groups.flatMap fun group =>
      group.sentences.flatMap (GsvSentence.accepted pf v.used)).length ≤ gpsMaxSvs) :
    ((groups.flatMap fun group => group.sentences.map (·.written.line)).foldl (fun v line => svEffect line v) v).Mirrors
      ((groups.flatMap fun group => group.sentences.map (·.written.line)).foldl (fun p line => gpsEffect line p) p) := by
  induction groups generalizing v p done with
  | nil => exact mirrors
  | cons group rest ih =>
    rw [flatMap_cons, length_append] at room
    have wf := each group mem_cons_self
    obtain ⟨next, used⟩ := wf.foldl isDone (by omega)
    rw [flatMap_cons, foldl_append, foldl_append]
    apply ih (mirrors.group wide wf (common group mem_cons_self) isDone (by omega))
      (fun group member => each group (mem_cons_of_mem _ member))
      (fun group member => common group (mem_cons_of_mem _ member)) next
    rw [used, length_append]
    omega

end Simulation

section Marks

variable {p : SvPart pf}

theorem gsaMask_append_empty (ids rest : List (List Byte)) (mask : BitVec 32) :
    gsaMask (ids ++ [] :: rest) mask = gsaMask ids mask := by
  induction ids generalizing mask with
  | nil => simp [gsaMask]
  | cons id ids ih => simp only [cons_append, gsaMask, ih]

/-- An id of a GPS GSA sentence: GPS or QZSS. -/
def IsGpsId (id : List Byte) : Prop := (1 ≤ strToInt id ∧ strToInt id ≤ 32) ∨ (193 ≤ strToInt id ∧ strToInt id ≤ 197)

instance (id : List Byte) : Decidable (IsGpsId id) := inferInstanceAs (Decidable (_ ∨ _))

/-- The mask has a bit for each GPS satellite among the ids. -/
theorem getLsbD_gsaMask (ids : List (List Byte)) (nonempty : ∀ id ∈ ids, id ≠ [])
    (known : ∀ id ∈ ids, IsGpsId id) (mask : BitVec 32) {prn : Int} (gps : 1 ≤ prn ∧ prn ≤ 32) :
    (gsaMask ids mask).getLsbD (prn - 1).toNat =
      (mask.getLsbD (prn - 1).toNat || (ids.map strToInt).contains prn) := by
  induction ids generalizing mask with
  | nil => simp [gsaMask]
  | cons id rest ih =>
    have tail (mask : BitVec 32) := ih (fun id member => nonempty id (mem_cons_of_mem _ member))
      (fun id member => known id (mem_cons_of_mem _ member)) mask
    rw [gsaMask, map_cons, contains_cons]
    simp only [if_neg (nonempty id mem_cons_self)]
    rcases known id mem_cons_self with here | other
    · have inside : decide ((strToInt id - 1).toNat < 32) = true := by
        rw [decide_eq_true_eq]
        omega
      have same : decide ((strToInt id - 1).toNat = (prn - 1).toNat) = (prn == strToInt id) := by
        rw [Bool.eq_iff_iff, decide_eq_true_eq, beq_iff_eq]
        omega
      rw [if_pos here, tail, BitVec.getLsbD_or, BitVec.getLsbD_twoPow, inside, same, Bool.true_and,
        Bool.or_assoc]
    · have differ : (prn == strToInt id) = false := by
        rw [beq_eq_false_iff_ne]
        omega
      rw [if_neg (by omega), if_pos other, tail, differ, Bool.false_or]

/-- A GPS GSA sentence both copies read to its end. -/
structure GsaSentence.Common (g : GsaSentence) : Prop where
  talker : g.talker = lit ['G', 'P']
  known : ∀ id ∈ g.ids, IsGpsId id

theorem GsaSentence.WellFormed.gpsEffect {g : GsaSentence} (wf : g.WellFormed) (p : SvPart pf) :
    gpsEffect g.written.line p =
      { p with gps := { p.gps with usedInFixMask := if g.fixing then gsaMask g.ids 0 else 0 } } := by
  have ids :
      gsaMask ((List.range 12).map fun idx => field g.written.line (idx + 3)) 0 = gsaMask g.ids 0 := by
    rcases wf.texts with full | ⟨rest, short⟩
    · rw [full]
    · rw [short, gsaMask_append_empty]
  rw [Gps.gpsEffect, wf.kind]
  simp only [gsaEffectGps, ids, wf.fixing_iff]

/-- The mask and the table mark the same GPS satellites. -/
theorem GsaSentence.Common.marked {g : GsaSentence} (common : g.Common) (wf : g.WellFormed)
    (groups : List GsvGroup) {prn : Int} (gps : 1 ≤ prn ∧ prn ≤ 32) :
    (gpsEffect g.written.line p).gps.usedInFixMask.getLsbD (prn - 1).toNat =
      (Epoch.mk [g] groups).marked prn := by
  have prns : g.prns = g.ids.map strToInt := by
    have other : ¬ lit ['G', 'P'] = lit ['B', 'D'] := by decide
    apply map_congr_left
    intro id _
    rw [talkerPrn, common.talker, if_neg other, Int.add_zero]
  have recognised : g.prns.takeWhile prnRecognised = g.ids.map strToInt := by
    rw [prns, takeWhile_eq_self_iff]
    intro prn member
    obtain ⟨id, inside, rfl⟩ := mem_map.mp member
    simp only [prnRecognised, Bool.or_eq_true, Bool.and_eq_true, decide_eq_true_eq, or_assoc]
    rcases common.known id inside with here | qzss
    · exact .inl here
    · exact .inr (.inl qzss)
  rw [wf.gpsEffect, Epoch.marked, any_cons, any_nil, Bool.or_false, recognised]
  cases g.fixing with
  | false => simp
  | true =>
    dsimp only
    rw [if_pos rfl, getLsbD_gsaMask g.ids wf.nonempty common.known 0 gps]
    simp

/-- GSV sentences leave the mask. -/
theorem foldl_gpsEffect_mask (lines : List (List Byte))
    (kinds : ∀ line ∈ lines, sentenceKind line = .gsv) (p : SvPart pf) :
    (lines.foldl (fun p line => gpsEffect line p) p).gps.usedInFixMask = p.gps.usedInFixMask := by
  induction lines generalizing p with
  | nil => rfl
  | cons line rest ih =>
    rw [foldl_cons, ih (fun line member => kinds line (mem_cons_of_mem _ member)), gpsEffect,
      kinds line mem_cons_self]
    exact (gsvEffectGps_marks line p).2

end Marks

section Epochs

variable {v : SvView pf} {p : SvPart pf}

/-- One GPS GSA sentence, then GPS and GLONASS groups with ids below 200. -/
structure Epoch.Common (epoch : Epoch) : Prop where
  wellFormed : epoch.WellFormed
  gsa : ∃ g, epoch.gsas = [g] ∧ g.Common
  groups : ∀ group ∈ epoch.groups, ∀ g ∈ group.sentences, g.Common

theorem GsaSentence.Common.knownTalker {g : GsaSentence} (common : g.Common) (wf : g.WellFormed) :
    KnownTalker g.written.line := by
  have id : field g.written.line 0 = g.talker ++ lit ['G', 'S', 'A'] := wf.field_lt (by decide)
  constructor
  · intro _
    rw [id, common.talker]
    decide
  · intro gsv
    rw [wf.kind] at gsv
    cases gsv

theorem GsvSentence.Common.knownTalker {g : GsvSentence} (common : g.Common) (wf : g.WellFormed) :
    KnownTalker g.written.line := by
  have id : field g.written.line 0 = g.talker ++ lit ['G', 'S', 'V'] := wf.field_lt (by decide)
  constructor
  · intro gsa
    rw [wf.kind] at gsa
    cases gsa
  · intro _
    rw [id]
    rcases common.talker with gps | glonass
    · rw [gps]; decide
    · rw [glonass]; decide

/-- Both copies take every line of such an epoch. -/
theorem Epoch.Common.commonLine {epoch : Epoch} (common : epoch.Common) :
    ∀ line ∈ epoch.lines, CommonLine line := by
  intro line member
  obtain ⟨isLine, fits, taken⟩ := common.wellFormed.lines line member
  refine ⟨isLine, fits, taken, ?_⟩
  rcases mem_append.mp member with gsa | gsv
  · obtain ⟨g, inside, rfl⟩ := mem_map.mp gsa
    obtain ⟨only, same, known⟩ := common.gsa
    obtain rfl : g = only := by simpa [same] using inside
    exact known.knownTalker (common.wellFormed.gsas g inside)
  · obtain ⟨group, inside, later⟩ := mem_flatMap.mp gsv
    obtain ⟨g, inner, rfl⟩ := mem_map.mp later
    exact (common.groups group inside g inner).knownTalker ((common.wellFormed.groups group inside).each g inner).1

/-- Along an epoch the legacy part stays in step, and its mask ends with the epoch's marks. -/
theorem SvView.Mirrors.epoch (mirrors : v.Mirrors p) (wide : gpsMaxSvs ≤ pf.gnssMaxSvs)
    {epoch : Epoch} (common : epoch.Common) (empty : v.status.numSvs = 0)
    (clear : v.used = fun _ => false)
    (room : (epoch.accepted pf epoch.marked).length ≤ gpsMaxSvs) :
    (epoch.lines.foldl (fun v line => svEffect line v) v).Mirrors
        (epoch.lines.foldl (fun p line => gpsEffect line p) p) ∧
      ∀ prn : Int, 1 ≤ prn ∧ prn ≤ 32 →
        (epoch.lines.foldl (fun p line => gpsEffect line p) p).gps.usedInFixMask.getLsbD (prn - 1).toNat =
          epoch.marked prn := by
  have wf := common.wellFormed
  have same := wf.accepted_marked clear
  have status := (wf.foldl_gsas clear).1
  obtain ⟨gsas, groups⟩ := epoch
  obtain ⟨g, rfl, known⟩ := common.gsa
  have gsaWf := wf.gsas g mem_cons_self
  rw [Epoch.lines, foldl_append, foldl_append]
  simp only [map_cons, map_nil, foldl_cons, foldl_nil] at same status ⊢
  have marked : (svEffect g.written.line v).Mirrors (gpsEffect g.written.line p) := by
    rw [gsaWf.svEffect, gsaWf.gpsEffect]
    split <;> exact ⟨mirrors.count, mirrors.numSvs, mirrors.list⟩
  refine ⟨?_, ?_⟩
  · have fresh : (svEffect g.written.line v).Done [] := ⟨by rw [status]; exact empty, rfl⟩
    apply marked.groups wide groups wf.groups common.groups fresh
    rw [same, length_nil]
    omega
  · intro prn gps
    rw [foldl_gpsEffect_mask, known.marked gsaWf groups gps]
    intro line member
    obtain ⟨group, inside, later⟩ := mem_flatMap.mp member
    obtain ⟨g, inner, rfl⟩ := mem_map.mp later
    exact ((wf.groups group inside).each g inner).1.kind

/-- The line carries satellite data. -/
def carriesSatellites (line : List Byte) : Bool := sentenceKind line = .gsa ∨ sentenceKind line = .gsv

/-- An epoch as it is sent: with other sentences between its own, byte by byte. -/
structure SentEpoch where
  epoch : Epoch
  lines : List (List Byte)
  inputs : List NmeaInput

/-- At least 1 and at most 32 satellites are accepted, the sentences between those of the epoch are GGA, RMC and ACCURACY
sentences, and the end tag is raised at the last newline. -/
structure SentEpoch.Common (pf : Platform F) (sent : SentEpoch) : Prop where
  epoch : sent.epoch.Common
  some : 1 ≤ (sent.epoch.accepted pf sent.epoch.marked).length
  room : (sent.epoch.accepted pf sent.epoch.marked).length ≤ 32
  own : sent.lines.filter carriesSatellites = sent.epoch.lines
  between : ∀ line ∈ sent.lines, carriesSatellites line = false → IsLine lf line ∧ line.length ≤ nmeaMaxSize ∧
    (sentenceKind line = .gga ∨ sentenceKind line = .rmc ∨ sentenceKind line = .accuracy)
  bytes : sent.inputs.map NmeaInput.byte = sent.lines.flatten
  tagged : TaggedLast sent.inputs

theorem SentEpoch.Common.commonLine {sent : SentEpoch} (common : sent.Common pf) :
    ∀ line ∈ sent.lines, CommonLine line := by
  intro line member
  cases carries : carriesSatellites line with
  | true =>
    apply common.epoch.commonLine
    rw [← common.own]
    exact mem_filter.mpr ⟨member, carries⟩
  | false =>
    obtain ⟨isLine, fits, kind⟩ := common.between line member carries
    rcases kind with kind | kind | kind <;> exact ⟨isLine, fits, by rw [kind]; decide, by simp [kind], by simp [kind]⟩

theorem SentEpoch.Common.lines_ne_nil {sent : SentEpoch} (common : sent.Common pf) :
    sent.lines ≠ [] := by
  intro none
  have own := common.own
  rw [none, filter_nil] at own
  exact sent.epoch.lines_ne_nil (length_pos_iff.mp common.some) own.symm

/-- Sentences without satellite data do not enter the folds. -/
theorem SentEpoch.Common.foldl {sent : SentEpoch} (common : sent.Common pf) (v : SvView pf)
    (p : SvPart pf) :
    sent.lines.foldl (fun v line => svEffect line v) v = sent.epoch.lines.foldl (fun v line => svEffect line v) v ∧
    sent.lines.foldl (fun p line => gpsEffect line p) p = sent.epoch.lines.foldl (fun p line => gpsEffect line p) p := by
  have inert (line : List Byte) (v : SvView pf) (p : SvPart pf) (carries : ¬ carriesSatellites line = true) :
      svEffect line v = v ∧ gpsEffect line p = p := by
    rw [carriesSatellites, decide_eq_true_eq] at carries
    rw [svEffect, gpsEffect]
    cases kind : sentenceKind line with
    | gsa => exact absurd (.inl kind) carries
    | gsv => exact absurd (.inr kind) carries
    | _ => exact ⟨rfl, rfl⟩
  rw [← common.own, foldl_filter, foldl_filter]
  constructor
  · congr 1
    funext v line
    split
    · rfl
    · next carries => exact (inert line v p carries).1
  · congr 1
    funext p line
    split
    · rfl
    · next carries => exact (inert line v p carries).2

end Epochs

section Reports

variable {mtkSize : Nat} {s : NmeaState pf} {p : SvPart pf}

/-- The two reports list the same satellites, and the mask has the marks of the GPS satellites among them. -/
structure GnssSvStatus.Matches (status : GnssSvStatus pf) (report : GpsSvStatus F) : Prop where
  numSvs : report.numSvs = status.numSvs
  slots : ∀ i : Nat, i < status.numSvs → ∃ info : GnssSvInfo F,
    status.svList[i]? = some info ∧ report.svList[i]? = some info.gps ∧
    (1 ≤ info.prn ∧ info.prn ≤ 32 → report.usedInFixMask.getLsbD (info.prn - 1).toNat = info.usedInFix)

/-- One report each, which match, and otherwise the same calls. -/
structure ReportsAgree (gnss legacy : List (Call pf)) : Prop where
  once : ∃ status report, svReports gnss = [status] ∧ gpsReports legacy = [report] ∧ status.Matches report
  only : gpsReports gnss = [] ∧ svReports legacy = []
  others : otherCalls legacy = otherCalls gnss

theorem Epoch.usedInFix_accepted (epoch : Epoch) {used : SvUsedInFix} :
    ∀ info ∈ epoch.accepted pf used, info.usedInFix = used info.prn := by
  intro info member
  obtain ⟨group, -, inside⟩ := mem_flatMap.mp member
  obtain ⟨g, -, inner⟩ := mem_flatMap.mp inside
  obtain ⟨sat, -, rfl⟩ := mem_map.mp (mem_filter.mp inner).1
  rfl

/-- A view and a part in step show matching reports. -/
theorem SvView.Mirrors.matches {v : SvView pf} (mirrors : v.Mirrors p) {epoch : Epoch}
    (collected : v.Done (epoch.accepted pf epoch.marked))
    (room : (epoch.accepted pf epoch.marked).length ≤ 32)
    (marks : ∀ prn : Int, 1 ≤ prn ∧ prn ≤ 32 → p.gps.usedInFixMask.getLsbD (prn - 1).toNat = epoch.marked prn) :
    v.status.Matches p.gps := by
  refine ⟨mirrors.numSvs, ?_⟩
  intro i inside
  rw [collected.numSvs] at inside
  have below : i < (epoch.accepted pf epoch.marked).length := by omega
  obtain ⟨info, present⟩ : ∃ info, (epoch.accepted pf epoch.marked)[i]? = some info :=
    ⟨_, List.getElem?_eq_getElem below⟩
  have entry : v.status.svList.toList[i]? = some info := by
    rw [← collected.list, List.getElem?_take_of_lt below] at present
    exact present
  refine ⟨info, ?_, ?_, ?_⟩
  · rw [← Vector.getElem?_toList]
    exact entry
  · have early : i < gpsMaxSvs := by rw [gpsMaxSvs]; omega
    rw [← Vector.getElem?_toList, mirrors.list, List.getElem?_map, List.getElem?_take_of_lt early,
      entry, Option.map_some]
  · intro gps
    rw [marks info.prn gps, epoch.usedInFix_accepted info (mem_of_getElem? present)]

theorem registered_registering (inputs : List NmeaInput) :
    Registered pf (inputs.map (NmeaInput.registering pf.sizeofGpsCallbacks)) := by
  intro input member
  obtain ⟨_, -, rfl⟩ := mem_map.mp member
  rfl

theorem TaggedLast.registering {inputs : List NmeaInput} (tagged : TaggedLast inputs) (size : Nat) :
    TaggedLast (inputs.map (NmeaInput.registering size)) := by
  intro before input after split
  obtain ⟨first, second, rfl, -, rest⟩ := map_eq_append_iff.mp split
  obtain ⟨here, later, rfl, rfl, rfl⟩ := map_eq_cons_iff.mp rest
  have tag := tagged first here later rfl
  rw [map_eq_nil_iff]
  exact tag

/-- The two readers between epochs: `s`, and `s` with the legacy satellites' part `p`. -/
structure Beside (s : NmeaState pf) (p : SvPart pf) : Prop where
  start : EpochStart s
  mirrors : s.svView.Mirrors p

/-- Both readers over one epoch. -/
theorem Beside.epoch (beside : Beside s p) (wide : gpsMaxSvs ≤ pf.gnssMaxSvs)
    (differ : pf.sizeofGpsCallbacks ≠ mtkSize) {sent : SentEpoch} (common : sent.Common pf)
    {inputs : List NmeaInput}
    (registering : inputs = sent.inputs.map (NmeaInput.registering pf.sizeofGpsCallbacks)) :
    (∃ q, (nmeaReaderFeed (s.withSv p) inputs mtkSize).1 = (nmeaReaderFeed s inputs).1.withSv q ∧
      Beside (nmeaReaderFeed s inputs).1 q) ∧
    ReportsAgree (nmeaReaderFeed s inputs).2 (nmeaReaderFeed (s.withSv p) inputs mtkSize).2 := by
  have registered : Registered pf inputs := registering ▸ registered_registering sent.inputs
  have tagged : TaggedLast inputs := registering ▸ common.tagged.registering _
  have bytes : inputs.map NmeaInput.byte = sent.lines.flatten := by
    rw [registering, map_map, ← common.bytes]
    rfl
  have each := common.commonLine
  obtain ⟨gnssFold, gpsFold⟩ := common.foldl s.svView p
  obtain ⟨mirrors, marks⟩ :=
    beside.mirrors.epoch wide common.epoch beside.start.numSvs beside.start.used common.room
  have collected :=
    common.epoch.wellFormed.foldl (v := s.svView) beside.start.numSvs beside.start.used (common.room.trans wide)
  obtain ⟨idle, reports, view⟩ :=
    nmeaReaderFeed_lines_svView sent.lines registered beside.start.idle
    (fun line member => ⟨(each line member).isLine, (each line member).fits, (each line member).taken⟩) bytes tagged gnssFold
  have legacy :=
    nmeaReaderFeed_gps_lines differ sent.lines registered beside.start.idle each bytes tagged gpsFold
  generalize sent.epoch.lines.foldl (fun v line => svEffect line v) s.svView = v at *
  generalize sent.epoch.lines.foldl (fun p line => gpsEffect line p) p = q at *
  have some := common.some
  have positive : 0 < v.status.numSvs := by rw [collected.numSvs]; omega
  have shown : sent.lines ≠ [] ∧ v.status.numSvs ≠ 0 := ⟨common.lines_ne_nil, by omega⟩
  have shown' : sent.lines ≠ [] ∧ q.Shown true := by
    rw [SvPart.Shown, mirrors.numSvs]
    exact ⟨common.lines_ne_nil, shown.2, rfl, positive⟩
  rw [if_pos shown] at reports view
  have state := legacy.state
  have report := legacy.gps
  rw [if_pos shown'] at state report
  refine ⟨⟨q.reported, state, ⟨idle, ?_, ?_⟩, ?_⟩, ?_⟩
  · exact congrArg (·.status.numSvs) view
  · exact congrArg SvView.used view
  · rw [view]
    exact mirrors.reported
  · exact ⟨⟨v.status, q.gps, reports, report, mirrors.matches collected common.room marks⟩,
      ⟨legacy.noGps, legacy.gnss⟩, legacy.others⟩

end Reports

section Sequences

/-- The calls of each epoch in turn. -/
def feedEpochs (feed : NmeaState pf → List NmeaInput → NmeaState pf × List (Call pf)) :
    NmeaState pf → List (List NmeaInput) → List (List (Call pf))
  | _, [] => []
  | s, inputs :: rest => (feed s inputs).2 :: feedEpochs feed (feed s inputs).1 rest

/-- The bytes of the epochs, with callbacks of the given size registered. -/
def inputsRegistering (size : Nat) (epochs : List SentEpoch) : List (List NmeaInput) :=
  epochs.map fun sent => sent.inputs.map (NmeaInput.registering size)

/-- A fresh reader, `sv_used_in_fix` and `gps_nmea_end_tag` still zero. -/
def nmeaStateInit (pf : Platform F) : NmeaState pf := ⟨nmeaReaderInit pf, fun _ => false, false⟩

theorem beside_init (wide : gpsMaxSvs ≤ pf.gnssMaxSvs) :
    Beside (nmeaStateInit pf) (nmeaStateInit pf).svPart := by
  refine ⟨⟨⟨rfl, rfl⟩, rfl, rfl⟩, rfl, rfl, ?_⟩
  simp [NmeaState.svPart, NmeaState.svView, nmeaStateInit, nmeaReaderInit, take_replicate,
    min_eq_left wide, GnssSvInfo.gps]

theorem feedEpochs_mtk (mtkSize : Nat) (epochs : List SentEpoch) (s : NmeaState pf) :
    feedEpochs (nmeaReaderFeed · · mtkSize) s (inputsRegistering mtkSize epochs) =
      feedEpochs nmeaReaderFeed s (inputsRegistering pf.sizeofGpsCallbacksMtk epochs) := by
  induction epochs generalizing s with
  | nil => rfl
  | cons sent rest ih =>
    simp only [inputsRegistering, map_cons, feedEpochs] at ih ⊢
    rw [nmeaReaderFeed_mtk, ih]

/-- Both readers over any number of epochs. -/
theorem Beside.epochs {mtkSize : Nat} {s : NmeaState pf} {p : SvPart pf} (beside : Beside s p)
    (wide : gpsMaxSvs ≤ pf.gnssMaxSvs) (differ : pf.sizeofGpsCallbacks ≠ mtkSize)
    (epochs : List SentEpoch) (common : ∀ sent ∈ epochs, sent.Common pf) :
    Forall₂ ReportsAgree (feedEpochs nmeaReaderFeed s (inputsRegistering pf.sizeofGpsCallbacksMtk epochs))
      (feedEpochs (nmeaReaderFeed · · mtkSize) (s.withSv p) (inputsRegistering pf.sizeofGpsCallbacks epochs)) := by
  induction epochs generalizing s p with
  | nil => exact .nil
  | cons sent rest ih =>
    obtain ⟨⟨q, state, next⟩, agree⟩ := beside.epoch wide differ (common sent mem_cons_self) rfl
    have later := ih next (fun sent member => common sent (mem_cons_of_mem _ member))
    rw [← state] at later
    exact .cons agree later

/-- As the header stands, both registrations get the same calls, with one report of `gnss_sv_status_cb` in each epoch and
none of `sv_status_cb`. Were the sizes different, the legacy copy would make the same reports. -/
theorem reportsAgree_sizes (wide : gpsMaxSvs ≤ pf.gnssMaxSvs) (epochs : List SentEpoch)
    (common : ∀ sent ∈ epochs, sent.Common pf) :
    (feedEpochs nmeaReaderFeed (nmeaStateInit pf) (inputsRegistering pf.sizeofGpsCallbacks epochs) =
        feedEpochs nmeaReaderFeed (nmeaStateInit pf) (inputsRegistering pf.sizeofGpsCallbacksMtk epochs) ∧
      ∀ calls ∈ feedEpochs nmeaReaderFeed (nmeaStateInit pf) (inputsRegistering pf.sizeofGpsCallbacksMtk epochs),
        (∃ status, svReports calls = [status]) ∧ gpsReports calls = []) ∧
    ∀ mtkSize, mtkSize ≠ pf.sizeofGpsCallbacks → Forall₂ ReportsAgree
      (feedEpochs (nmeaReaderFeed · · mtkSize) (nmeaStateInit pf) (inputsRegistering mtkSize epochs))
      (feedEpochs (nmeaReaderFeed · · mtkSize) (nmeaStateInit pf) (inputsRegistering pf.sizeofGpsCallbacks epochs)) := by
  have agree (mtkSize : Nat) (differ : mtkSize ≠ pf.sizeofGpsCallbacks) :=
    (beside_init wide).epochs wide differ.symm epochs common
  refine ⟨⟨rfl, ?_⟩, ?_⟩
  · -- The calls as the header stands are those of the first reader for any other size.
    have other := agree (pf.sizeofGpsCallbacks + 1) (Nat.succ_ne_self _)
    refine (forall₂_and_left _ _).mp (other.imp fun calls legacy paired => ⟨?_, paired⟩) |>.1
    obtain ⟨status, report, once, -⟩ := paired.once
    exact ⟨⟨status, once⟩, paired.only.1⟩
  · intro mtkSize differ
    rw [feedEpochs_mtk]
    exact agree mtkSize differ

/-- Satellite 5, used in the fix, with a GGA sentence before its group. -/
def sentFive : SentEpoch where
  epoch := oneSatellite [lit ['5']]
  lines := (oneSatellite [lit ['5']]).lines.insertIdx 1 (lit ['$', 'G', 'P', 'G', 'G', 'A', ',', ','] ++ [lf])
  inputs := readInputs ⟨72, true, 0, []⟩ ((oneSatellite [lit ['5']]).lines.insertIdx 1
    (lit ['$', 'G', 'P', 'G', 'G', 'A', ',', ','] ++ [lf])).flatten.dropLast lf

private theorem sixtyFour_lt : 64 < 2 ^ 28 := by decide

theorem sentFive_common : sentFive.Common (Platform.utc 64 sixtyFour_lt) where
  epoch := by
    refine ⟨oneSatellite_wellFormed _ (by decide) (by decide) (by decide),
      ⟨_, rfl, rfl, by decide⟩, ?_⟩
    intro group member g inside
    obtain rfl := mem_singleton.mp member
    obtain rfl := mem_singleton.mp inside
    exact ⟨.inl rfl, by decide⟩
  some := by decide +kernel
  room := by decide +kernel
  own := by decide +kernel
  between := by
    have shape (line : List Byte) (member : line ∈ sentFive.lines)
        (other : carriesSatellites line = false) :
        line = lit ['$', 'G', 'P', 'G', 'G', 'A', ',', ','] ++ [lf] := by
      revert line
      decide +kernel
    intro line member other
    rw [shape line member other]
    exact ⟨⟨_, rfl, by decide⟩, by decide, .inl (by decide)⟩
  bytes := by decide +kernel
  tagged := taggedLast_readInputs _ _ _

theorem reportsAgree_sizes_five :
    (∀ calls ∈ feedEpochs nmeaReaderFeed (nmeaStateInit (Platform.utc 64 sixtyFour_lt))
        (inputsRegistering 72 [sentFive, sentFive]),
      (∃ status, svReports calls = [status]) ∧ gpsReports calls = []) ∧
    Forall₂ ReportsAgree
      (feedEpochs (nmeaReaderFeed · · 80) (nmeaStateInit (Platform.utc 64 sixtyFour_lt))
        (inputsRegistering 80 [sentFive, sentFive]))
      (feedEpochs (nmeaReaderFeed · · 80) (nmeaStateInit (Platform.utc 64 sixtyFour_lt))
        (inputsRegistering 72 [sentFive, sentFive])) := by
  have common : ∀ sent ∈ [sentFive, sentFive], sent.Common (Platform.utc 64 sixtyFour_lt) := by
    simp [sentFive_common]
  obtain ⟨⟨-, once⟩, agree⟩ := reportsAgree_sizes (by decide) [sentFive, sentFive] common
  exact ⟨once, agree 80 (by decide)⟩

/-- As the header stands, the second reader shows satellite 5 as used through `gnss_sv_status_cb`, and its legacy mask stays
zero. -/
theorem not_reportsAgree_header :
    (¬ ∀ epochs : List SentEpoch, (∀ sent ∈ epochs, sent.Common (Platform.utc 64 sixtyFour_lt)) → Forall₂ ReportsAgree
      (feedEpochs nmeaReaderFeed (nmeaStateInit (Platform.utc 64 sixtyFour_lt))
        (inputsRegistering (Platform.utc 64 sixtyFour_lt).sizeofGpsCallbacksMtk epochs))
      (feedEpochs nmeaReaderFeed (nmeaStateInit (Platform.utc 64 sixtyFour_lt))
        (inputsRegistering (Platform.utc 64 sixtyFour_lt).sizeofGpsCallbacks epochs))) ∧
    (Platform.utc 64 sixtyFour_lt).sizeofGpsCallbacks = 72 ∧
    (svReports (nmeaReaderFeed (nmeaStateInit (Platform.utc 64 sixtyFour_lt))
        (sentFive.inputs.map (NmeaInput.registering 72))).2).map
        (fun status => (status.svList.toList.take 1).map fun info => (info.prn, info.usedInFix)) = [[(5, true)]] ∧
    (nmeaReaderFeed (nmeaStateInit (Platform.utc 64 sixtyFour_lt))
        (sentFive.inputs.map (NmeaInput.registering 72))).1.reader.svStatusGps.usedInFixMask = 0 := by
  refine ⟨?_, rfl, by decide +kernel, by decide +kernel⟩
  intro claimed
  have agree := claimed [sentFive] (by simp [sentFive_common])
  obtain ⟨paired, -⟩ := forall₂_cons.mp agree
  obtain ⟨status, report, once, -⟩ := paired.once
  -- The two runs are one run, which cannot both make the report and not make it.
  exact absurd (once.symm.trans paired.only.2) (cons_ne_nil _ _)

end Sequences

end Mt6582.Gps

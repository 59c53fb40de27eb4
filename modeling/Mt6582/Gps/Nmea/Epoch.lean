import Mathlib.Data.Vector.Defs
import Mt6582.Gps.Nmea.SvView

/-! # The satellite report of an epoch

An epoch is a list of GSA sentences followed by complete GSV groups. The report at its end lists the
accepted satellites of all groups in order. A satellite is marked as used when a GSA sentence with mode
2 or 3 lists it; the GSA branch gives a sentence up at the first id outside the ranges it knows, so
only the ids before such an id count.
-/

namespace Mt6582.Gps

open List hiding Vector

variable {F : Type} {pf : Platform F}

section Written

/-- A satellite by its four field texts. -/
structure Satellite where
  id : List Byte
  elevation : List Byte
  azimuth : List Byte
  snr : List Byte

def Satellite.fields (sat : Satellite) : List (List Byte) := [sat.id, sat.elevation, sat.azimuth, sat.snr]

/-- The `prn` of an id sent by a talker. -/
def talkerPrn (talker id : List Byte) : Int := strToInt id + if talker = lit ['B', 'D'] then 200 else 0

/-- A GSA sentence: the ids, then `more` fields (empty slots and the dilutions of precision). -/
structure GsaSentence where
  talker : List Byte
  selection : List Byte
  mode : List Byte
  ids : List (List Byte)
  more : List (List Byte)
  checksum : Option (Byte × Byte)
  crlf : Bool

def GsaSentence.written (g : GsaSentence) : Sentence :=
  ⟨(g.talker ++ lit ['G', 'S', 'A']) :: g.selection :: g.mode :: (g.ids ++ g.more), g.checksum, g.crlf⟩

/-- At most twelve ids, packed first; an id shifted by 200 is still an `int`. -/
structure GsaSentence.WellFormed (g : GsaSentence) : Prop where
  written : g.written.WellFormed
  talker : g.talker = lit ['G', 'P'] ∨ g.talker = lit ['G', 'L'] ∨ g.talker = lit ['B', 'D']
  nonempty : ∀ id ∈ g.ids, id ≠ []
  few : g.ids.length ≤ 12
  packed : g.ids.length < 12 → g.more.headD [] = []
  small : ∀ id ∈ g.ids, strToInt id + 200 < 2 ^ 31

structure GsvSentence where
  talker : List Byte
  num : List Byte
  seq : List Byte
  cnt : List Byte
  sats : List Satellite
  checksum : Option (Byte × Byte)
  crlf : Bool

def GsvSentence.written (g : GsvSentence) : Sentence :=
  ⟨(g.talker ++ lit ['G', 'S', 'V']) :: g.num :: g.seq :: g.cnt :: g.sats.flatMap Satellite.fields, g.checksum, g.crlf⟩

structure GsvSentence.WellFormed (g : GsvSentence) : Prop where
  written : g.written.WellFormed
  talker : g.talker.length = 2
  few : g.sats.length ≤ nmeaMaxSvInfo
  small : ∀ sat ∈ g.sats, strToInt sat.id + 200 < 2 ^ 31

/-- A group: sentences of four satellites each, and the last one. -/
structure GsvGroup where
  talker : List Byte
  full : List GsvSentence
  last : GsvSentence

def GsvGroup.sentences (group : GsvGroup) : List GsvSentence := group.full ++ [group.last]

/-- The sentences carry `num`, `seq` from 1 on, and the number of satellites of the whole group. -/
structure GsvGroup.WellFormed (group : GsvGroup) : Prop where
  each : ∀ g ∈ group.sentences, g.WellFormed ∧ g.talker = group.talker
  four : ∀ g ∈ group.full, g.sats.length = nmeaMaxSvInfo
  numbered : ∀ (i : Nat) (g : GsvSentence), group.sentences[i]? = some g → strToInt g.num = group.full.length + 1 ∧
    strToInt g.seq = i + 1 ∧ strToInt g.cnt = 4 * group.full.length + group.last.sats.length

structure Epoch where
  gsas : List GsaSentence
  groups : List GsvGroup

structure Epoch.WellFormed (epoch : Epoch) : Prop where
  gsas : ∀ g ∈ epoch.gsas, g.WellFormed
  groups : ∀ group ∈ epoch.groups, group.WellFormed

/-- The lines of the epoch in the order they are sent. -/
def Epoch.lines (epoch : Epoch) : List (List Byte) :=
  epoch.gsas.map (·.written.line) ++ epoch.groups.flatMap fun group => group.sentences.map (·.written.line)

/-- The entry of the report for a satellite. -/
def Satellite.info (pf : Platform F) (talker : List Byte) (used : SvUsedInFix) (sat : Satellite) : GnssSvInfo F :=
  satelliteInfo pf used (talkerPrn talker sat.id) sat.elevation sat.azimuth sat.snr

/-- The entries that pass the filter on `prn`. -/
def acceptedInfos (infos : List (GnssSvInfo F)) : List (GnssSvInfo F) := infos.filter fun info => ¬ prnRejected info.prn

def GsvSentence.accepted (pf : Platform F) (used : SvUsedInFix) (g : GsvSentence) : List (GnssSvInfo F) :=
  acceptedInfos (g.sats.map (Satellite.info pf g.talker used))

/-- The accepted satellites of an epoch, in order. -/
def Epoch.accepted (pf : Platform F) (used : SvUsedInFix) (epoch : Epoch) : List (GnssSvInfo F) :=
  epoch.groups.flatMap fun group => group.sentences.flatMap (GsvSentence.accepted pf used)

/-- The mode field of a GSA sentence reads 2 or 3. -/
def GsaSentence.fixing (g : GsaSentence) : Bool := strToInt g.mode == 2 || strToInt g.mode == 3

def GsaSentence.prns (g : GsaSentence) : List Int := g.ids.map (talkerPrn g.talker)

/-- The ids a GSA sentence may carry: GPS, QZSS, GLONASS and BeiDou. -/
def prnRecognised (prn : Int) : Bool :=
  (1 ≤ prn && prn ≤ 32) || (193 ≤ prn && prn ≤ 197) || (65 ≤ prn && prn ≤ 96) || (201 ≤ prn && prn ≤ 232)

/-- Some GSA sentence with mode 2 or 3 lists the `prn`. -/
def Epoch.listed (epoch : Epoch) (prn : Int) : Bool := epoch.gsas.any fun g => g.fixing && g.prns.contains prn

/-- Some GSA sentence with mode 2 or 3 lists the `prn` before any id outside the known ranges. -/
def Epoch.marked (epoch : Epoch) (prn : Int) : Bool :=
  epoch.gsas.any fun g => g.fixing && (g.prns.takeWhile prnRecognised).contains prn

end Written

section Lines

private theorem length_body (a b c : List Byte) (rest : List (List Byte)) :
    a.length + 2 ≤ ([comma].intercalate (a :: b :: c :: rest)).length := by
  rw [intercalate_cons_cons, intercalate_cons_cons]
  simp only [length_append, length_singleton]
  omega

private theorem length_line (sentence : Sentence) {a b c : List Byte} {rest : List (List Byte)}
    (fields : sentence.fields = a :: b :: c :: rest) : a.length + 4 ≤ sentence.line.length := by
  have body := length_body a b c rest
  rw [Sentence.line, Sentence.body, fields]
  cases sentence.crlf <;> simp only [length_cons, length_append, Bool.false_eq_true,
    ↓reduceIte] <;> omega

variable {g : GsvSentence}

theorem GsvSentence.WellFormed.field_lt (wf : g.WellFormed) {index : Nat}
    (inside : index < maxNmeaTokens) :
    field g.written.line index = g.written.fields.getD index [] := field_line wf.written inside

theorem GsvSentence.WellFormed.kind (wf : g.WellFormed) : sentenceKind g.written.line = .gsv := by
  have id : field g.written.line 0 = g.talker ++ lit ['G', 'S', 'V'] := wf.field_lt (by decide)
  have size := length_line g.written rfl
  obtain ⟨first, second, talker⟩ := length_eq_two.mp wf.talker
  have long : ¬ (g.written.line.length < 9 ∨ (field g.written.line 0).length < 5) := by
    rw [id, talker]
    rw [talker] at size
    simp only [lit, map_cons, map_nil, length_append, length_cons, length_nil] at size ⊢
    omega
  have notA : ¬ 'A'.toUInt8 = 'V'.toUInt8 := by decide
  have notR : ¬ 'R'.toUInt8 = 'G'.toUInt8 := by decide
  unfold sentenceKind
  dsimp only
  rw [if_neg long, id, talker]
  simp [lit, cons_prefix_cons, notA, notR]

theorem GsvSentence.WellFormed.bds (wf : g.WellFormed) :
    isBds g.written.line ↔ g.talker = lit ['B', 'D'] := by
  have id : field g.written.line 0 = g.talker ++ lit ['G', 'S', 'V'] := wf.field_lt (by decide)
  obtain ⟨first, second, talker⟩ := length_eq_two.mp wf.talker
  rw [isBds, id, talker]
  simp [lit, cons_prefix_cons, eq_comm]

private theorem getD_flatMap_fields (sats : List Satellite) (i j : Nat) (few : j < 4)
    {sat : Satellite}
    (present : sats[i]? = some sat) :
    (sats.flatMap Satellite.fields).getD (4 * i + j) [] = sat.fields.getD j [] := by
  induction sats generalizing i with
  | nil => simp at present
  | cons first rest ih =>
    cases i with
    | zero =>
      obtain rfl : first = sat := by simpa using present
      rw [flatMap_cons, Nat.mul_zero, Nat.zero_add,
        getD_append _ _ _ _ (by simpa [Satellite.fields] using few)]
    | succ i =>
      rw [flatMap_cons, getD_append_right _ _ _ _ (by simp [Satellite.fields]; omega)]
      rw [← ih i (by simpa using present)]
      congr 1
      simp only [Satellite.fields, length_cons, length_nil]
      omega

theorem GsvSentence.WellFormed.sat_field (wf : g.WellFormed) {i j : Nat} (few : j < 4)
    {sat : Satellite} (present : g.sats[i]? = some sat) :
    field g.written.line (4 * (i + 1) + j) = sat.fields.getD j [] := by
  have bound : i < g.sats.length := (List.getElem?_eq_some_iff.mp present).1
  have four := wf.few
  rw [nmeaMaxSvInfo] at four
  rw [wf.field_lt (by rw [maxNmeaTokens]; omega), ← getD_flatMap_fields g.sats i j few present]
  rw [GsvSentence.written, show 4 * (i + 1) + j = 4 * i + j + 1 + 1 + 1 + 1 by omega]
  simp only [getD_cons_succ]

variable {h : GsaSentence}

theorem GsaSentence.WellFormed.field_lt (wf : h.WellFormed) {index : Nat}
    (inside : index < maxNmeaTokens) :
    field h.written.line index = h.written.fields.getD index [] := field_line wf.written inside

section Identifier

variable (written : h.written.WellFormed)
  (talker : h.talker = lit ['G', 'P'] ∨ h.talker = lit ['G', 'L'] ∨ h.talker = lit ['B', 'D'])

include written talker

theorem GsaSentence.kind_eq : sentenceKind h.written.line = .gsa := by
  have id : field h.written.line 0 = h.talker ++ lit ['G', 'S', 'A'] :=
    field_line written (by decide)
  have size := length_line h.written rfl
  have two : h.talker.length = 2 := by rcases talker with same | same | same <;> rw [same] <;> rfl
  have long : ¬ (h.written.line.length < 9 ∨ (field h.written.line 0).length < 5) := by
    rw [id]
    simp only [lit, map_cons, map_nil, length_append, length_cons, length_nil, two] at size ⊢
    omega
  unfold sentenceKind
  dsimp only
  rw [if_neg long, id]
  rcases talker with same | same | same <;> rw [same] <;> decide

theorem GsaSentence.bds_iff : isBds h.written.line ↔ h.talker = lit ['B', 'D'] := by
  have id : field h.written.line 0 = h.talker ++ lit ['G', 'S', 'A'] :=
    field_line written (by decide)
  rw [isBds, id]
  rcases talker with same | same | same <;> rw [same] <;> decide

end Identifier

theorem GsaSentence.WellFormed.kind (wf : h.WellFormed) : sentenceKind h.written.line = .gsa :=
  GsaSentence.kind_eq wf.written wf.talker

theorem GsaSentence.WellFormed.bds (wf : h.WellFormed) :
    isBds h.written.line ↔ h.talker = lit ['B', 'D'] :=
  GsaSentence.bds_iff wf.written wf.talker

/-- Every line of a well-formed epoch is a sentence the reader takes as a whole. -/
theorem Epoch.WellFormed.lines {epoch : Epoch} (wf : epoch.WellFormed) :
    ∀ line ∈ epoch.lines, IsLine lf line ∧ line.length ≤ nmeaMaxSize ∧
      sentenceKind line ≠ .ignored := by
  intro line member
  rcases mem_append.mp member with gsa | gsv
  · obtain ⟨g, inside, rfl⟩ := mem_map.mp gsa
    have each := wf.gsas g inside
    exact ⟨each.written.isLine, each.written.fits, by rw [each.kind]; decide⟩
  · obtain ⟨group, inside, later⟩ := mem_flatMap.mp gsv
    obtain ⟨g, inner, rfl⟩ := mem_map.mp later
    have each := ((wf.groups group inside).each g inner).1
    exact ⟨each.written.isLine, each.written.fits, by rw [each.kind]; decide⟩

end Lines

section Numbers

/-- The values of a 32-bit `int`. -/
def IsInt (value : Int) : Prop := -2 ^ 31 ≤ value ∧ value < 2 ^ 31

theorem isInt_wrap32 (value : Int) : IsInt (wrap32 value) := by
  have lower := Int.le_bmod (x := value) (m := 2 ^ 32) (by decide)
  have upper := Int.bmod_lt (x := value) (m := 2 ^ 32) (by decide)
  exact ⟨by unfold wrap32; omega, by unfold wrap32; omega⟩

private theorem isInt_decimal {text : List Byte} {result value : Int} (small : IsInt result)
    (read : decimal text result = some value) : IsInt value := by
  induction text generalizing result with
  | nil => cases read; exact small
  | cons c rest ih =>
    rw [decimal] at read
    split_ifs at read
    exact ih (isInt_wrap32 _) read

/-- Every number a field denotes is an `int`. -/
theorem isInt_strToInt (text : List Byte) : IsInt (strToInt text) := by
  rw [strToInt]
  split_ifs
  · split
    · exact isInt_wrap32 _
    · exact ⟨by decide, by decide⟩
  · cases found : decimal text 0 with
    | none => exact ⟨by decide, by decide⟩
    | some value => exact isInt_decimal ⟨by decide, by decide⟩ found

theorem svPrn_talker {bds : Prop} [Decidable bds] {talker id : List Byte}
    (same : bds ↔ talker = lit ['B', 'D']) (small : strToInt id + 200 < 2 ^ 31) :
    svPrn bds (strToInt id) = talkerPrn talker id := by
  have lower := (isInt_strToInt id).1
  rw [svPrn, talkerPrn]
  by_cases shifted : bds
  · rw [if_pos (decide_eq_true shifted), if_pos (same.mp shifted), wrap32_eq_self (by omega) small]
  · rw [if_neg (by simpa using shifted), if_neg (same.not.mp shifted), Int.add_zero]

/-- A sentence of a group carries four satellites, the last one the rest. -/
theorem gsvSvNum_eq {n m i : Nat} (small : IsInt (4 * n + m)) (few : m ≤ nmeaMaxSvInfo)
    (inside : i ≤ n) :
    gsvSvNum (i + 1) (4 * n + m) = if i < n then nmeaMaxSvInfo else m := by
  have upper := small.2
  rw [nmeaMaxSvInfo] at few
  have before :
      wrap32 ((i : Int) + 1 - 1) = i := by
    rw [Int.add_sub_cancel, wrap32_eq_self (by omega) (by omega)]
  have base : wrap32 ((i : Int) * (nmeaMaxSvInfo : Nat)) = 4 * i := by
    rw [nmeaMaxSvInfo, wrap32_eq_self (by omega) (by omega)]
    omega
  simp only [gsvSvNum, before, base]
  rw [wrap32_eq_self (by omega) (by omega), nmeaMaxSvInfo]
  by_cases early : i < n
  · rw [if_pos early]
    split <;> omega
  · rw [if_neg early]
    split <;> omega

end Numbers

section Collect

/-- The report holds the finished groups' entries, and behind them those of the current group. -/
structure SvView.Holds (v : SvView pf) (done current : List (GnssSvInfo F)) : Prop where
  numSvs : v.status.numSvs = done.length
  count : v.count = current.length
  list : v.status.svList.toList.take (done.length + current.length) = done ++ current

/-- The report holds the finished groups' entries. -/
structure SvView.Done (v : SvView pf) (done : List (GnssSvInfo F)) : Prop where
  numSvs : v.status.numSvs = done.length
  list : v.status.svList.toList.take done.length = done

variable {v : SvView pf} {done current : List (GnssSvInfo F)}

theorem SvView.Holds.store (holds : v.Holds done current) (info : GnssSvInfo F)
    (room : done.length + current.length + (acceptedInfos [info]).length ≤ pf.gnssMaxSvs) :
    (v.store info).Holds done (current ++ acceptedInfos [info]) := by
  have small := pf.gnssMaxSvs_lt
  rw [SvView.store]
  by_cases rejected : prnRejected info.prn
  · rw [if_pos (.inl rejected)]
    simpa [acceptedInfos, rejected] using holds
  · have one : acceptedInfos [info] = [info] := by simp [acceptedInfos, rejected]
    rw [one, length_singleton] at room
    rw [one]
    have index : wrap32 (v.count + v.status.numSvs) = (done.length + current.length : Nat) := by
      rw [holds.count, holds.numSvs, wrap32_eq_self (by omega) (by omega)]
      omega
    have free : ¬ (prnRejected info.prn ∨ pf.gnssMaxSvs ≤ v.count ∨
        (pf.gnssMaxSvs : Int) ≤ (done.length + current.length : Nat)) := by
      rw [holds.count]
      simp only [rejected, false_or, not_or]
      omega
    rw [index, if_neg free]
    refine ⟨holds.numSvs, ?_, ?_⟩
    · dsimp only
      rw [holds.count, wrap32_eq_self (by omega) (by omega), length_append, length_singleton]
      omega
    · have inside : done.length + current.length < v.status.svList.toList.length := by
        rw [Vector.length_toList]
        omega
      simp only [storeAt, Int.natCast_nonneg, ↓reduceIte, Int.toNat_natCast,
        Vector.toList_setIfInBounds, length_append, length_singleton, ← Nat.add_assoc]
      rw [take_add_one, take_set_of_le le_rfl, getElem?_set_self inside, holds.list, append_assoc]
      rfl

theorem acceptedInfos_cons (info : GnssSvInfo F) (rest : List (GnssSvInfo F)) :
    acceptedInfos (info :: rest) = acceptedInfos [info] ++ acceptedInfos rest := by
  rw [acceptedInfos, ← singleton_append, filter_append]
  rfl

theorem SvView.Holds.foldl_store (holds : v.Holds done current) (infos : List (GnssSvInfo F))
    (room : done.length + current.length + (acceptedInfos infos).length ≤ pf.gnssMaxSvs) :
    (infos.foldl SvView.store v).Holds done (current ++ acceptedInfos infos) := by
  induction infos generalizing v current with
  | nil => simpa [acceptedInfos] using holds
  | cons info rest ih =>
    rw [acceptedInfos_cons, length_append] at room
    rw [acceptedInfos_cons, foldl_cons, ← append_assoc]
    apply ih (holds.store info (by omega))
    rw [length_append]
    omega

/-- The view before sentence `i` of a group: what the first one finds in `sv_count` does not matter. -/
def SvView.Begins (v : SvView pf) (i : Nat) (done current : List (GnssSvInfo F)) : Prop :=
  (i = 0 → v.Done done ∧ current = []) ∧ (i ≠ 0 → v.Holds done current)

theorem SvView.Begins.start {i : Nat} (begins : v.Begins i done current) :
    (v.start (i + 1)).Holds done current := by
  rw [SvView.start]
  by_cases first : i = 0
  · obtain ⟨isDone, rfl⟩ := begins.1 first
    rw [if_pos (by omega)]
    exact ⟨isDone.numSvs, rfl, by simpa using isDone.list⟩
  · rw [if_neg (by omega)]
    exact begins.2 first

theorem SvView.Holds.close (holds : v.Holds done current) {num cnt : Int}
    (complete : current.length ≤ cnt)
    (room : done.length + current.length ≤ pf.gnssMaxSvs) :
    (v.close num num cnt).Done (done ++ current) := by
  have small := pf.gnssMaxSvs_lt
  have total : wrap32 (v.status.numSvs + v.count) = ((done ++ current).length : Nat) := by
    rw [holds.numSvs, holds.count, wrap32_eq_self (by omega) (by omega), length_append]
    omega
  rw [SvView.close, if_pos rfl, if_pos (by rw [holds.count]; exact complete), total]
  exact ⟨rfl, by rw [length_append]; exact holds.list⟩

theorem length_accepted_le (used : SvUsedInFix) (g : GsvSentence) :
    (g.accepted pf used).length ≤ g.sats.length := by
  rw [GsvSentence.accepted, acceptedInfos]
  exact (length_filter_le _ _).trans (length_map _).le

variable {g : GsvSentence}

/-- The satellites the loop reads are those the sentence was written with. -/
theorem GsvSentence.WellFormed.infos (wf : g.WellFormed) (used : SvUsedInFix) :
    (List.range g.sats.length).map (gsvInfo pf g.written.line used) =
      g.sats.map (Satellite.info pf g.talker used) := by
  apply ext_getElem?
  intro i
  rcases Nat.lt_or_ge i g.sats.length with inside | outside
  · obtain ⟨sat, present⟩ : ∃ sat, g.sats[i]? = some sat := ⟨_, List.getElem?_eq_getElem inside⟩
    have member := mem_of_getElem? present
    have prn := svPrn_talker wf.bds (wf.small sat member)
    have id : field g.written.line (4 * (i + 1)) = sat.id :=
      wf.sat_field (j := 0) (by decide) present
    have elevation : field g.written.line (4 * (i + 1) + 1) = sat.elevation :=
      wf.sat_field (by decide) present
    have azimuth : field g.written.line (4 * (i + 1) + 2) = sat.azimuth :=
      wf.sat_field (by decide) present
    have snr : field g.written.line (4 * (i + 1) + 3) = sat.snr := wf.sat_field (by decide) present
    rw [List.getElem?_map, List.getElem?_map, present, List.getElem?_range inside]
    simp only [Option.map_some, gsvInfo, Satellite.info, id, elevation, azimuth, snr, prn]
  · rw [List.getElem?_eq_none (by simpa using outside),
      List.getElem?_eq_none (by simpa using outside)]

theorem GsvSentence.WellFormed.numbers (wf : g.WellFormed) : field g.written.line 1 = g.num ∧
    field g.written.line 2 = g.seq ∧ field g.written.line 3 = g.cnt :=
  ⟨wf.field_lt (by decide), wf.field_lt (by decide), wf.field_lt (by decide)⟩

/-- A written GSV sentence stores its accepted satellites. -/
theorem GsvSentence.WellFormed.svEffect (wf : g.WellFormed) (v : SvView pf)
    (carried : gsvSvNum (strToInt g.seq) (strToInt g.cnt) = g.sats.length) :
    svEffect g.written.line v = ((g.sats.map (Satellite.info pf g.talker v.used)).foldl SvView.store
      (v.start (strToInt g.seq))).close (strToInt g.num) (strToInt g.seq) (strToInt g.cnt) := by
  obtain ⟨num, seq, cnt⟩ := wf.numbers
  rw [Gps.svEffect, wf.kind]
  simp only [gsvEffect, num, seq, cnt, carried, Int.toNat_natCast, wf.infos]

/-- A sentence that does not close its group. -/
theorem GsvSentence.WellFormed.begins (wf : g.WellFormed) {i : Nat}
    (begins : v.Begins i done current)
    (carried : gsvSvNum (strToInt g.seq) (strToInt g.cnt) = g.sats.length)
    (seq : strToInt g.seq = i + 1) (middle : strToInt g.seq ≠ strToInt g.num)
    (room : done.length + current.length + (g.accepted pf v.used).length ≤ pf.gnssMaxSvs) :
    (Gps.svEffect g.written.line v).Begins (i + 1) done (current ++ g.accepted pf v.used) ∧
      (Gps.svEffect g.written.line v).used = v.used := by
  have filled := begins.start.foldl_store (g.sats.map (Satellite.info pf g.talker v.used)) room
  have effect := wf.svEffect v carried
  rw [SvView.close, if_neg middle, seq] at effect
  refine ⟨⟨fun zero => absurd zero (Nat.succ_ne_zero i), fun _ => ?_⟩, by rw [effect]; simp⟩
  rw [effect]
  exact filled

/-- Sentences of a group from number `i + 1` on that do not close it. -/
theorem begins_foldl (num : Int) (rest : List GsvSentence) (i : Nat)
    (begins : v.Begins i done current) (before : (i + rest.length : Int) < num)
    (each : ∀ (k : Nat) g, rest[k]? = some g → g.WellFormed ∧ strToInt g.num = num ∧ strToInt g.seq = (i + k : Nat) + 1 ∧
      gsvSvNum (strToInt g.seq) (strToInt g.cnt) = g.sats.length)
    (room : done.length + current.length + (rest.flatMap (GsvSentence.accepted pf v.used)).length ≤ pf.gnssMaxSvs) :
    ((rest.map (·.written.line)).foldl (fun v line => svEffect line v) v).Begins (i + rest.length) done
        (current ++ rest.flatMap (GsvSentence.accepted pf v.used)) ∧
      ((rest.map (·.written.line)).foldl (fun v line => svEffect line v) v).used = v.used := by
  induction rest generalizing v i current with
  | nil => simpa using begins
  | cons g rest ih =>
    obtain ⟨wf, total, seq, carried⟩ := each 0 g rfl
    rw [flatMap_cons, length_append] at room
    rw [length_cons] at before
    rw [Nat.add_zero] at seq
    have middle : strToInt g.seq ≠ strToInt g.num := by rw [seq, total]; omega
    obtain ⟨next, used⟩ := wf.begins begins carried seq middle (by omega)
    obtain ⟨begins', used'⟩ := ih (i + 1) next (by push_cast at before ⊢; omega)
      (fun k g present => by
        obtain ⟨wf, total, seq, carried⟩ := each (k + 1) g (by simpa using present)
        exact ⟨wf, total, by rw [seq]; push_cast; omega, carried⟩)
      (by rw [used, length_append]; omega)
    rw [used] at begins' used'
    simp only [map_cons, foldl_cons, flatMap_cons, length_cons]
    refine ⟨?_, used'⟩
    rw [← append_assoc, show i + (rest.length + 1) = i + 1 + rest.length by omega]
    exact begins'

private theorem getElem?_full {group : GsvGroup} {k : Nat} {g : GsvSentence}
    (present : group.full[k]? = some g) :
    group.sentences[k]? = some g := by
  have inside : k < group.full.length := (List.getElem?_eq_some_iff.mp present).1
  rw [GsvGroup.sentences, List.getElem?_append_left inside, present]

theorem GsvGroup.WellFormed.carried {group : GsvGroup} (wf : group.WellFormed) {i : Nat}
    {g : GsvSentence} (present : group.sentences[i]? = some g) :
    gsvSvNum (strToInt g.seq) (strToInt g.cnt) = g.sats.length := by
  obtain ⟨-, seq, cnt⟩ := wf.numbered i g present
  have bound : i < group.sentences.length := (List.getElem?_eq_some_iff.mp present).1
  rw [GsvGroup.sentences, length_append, length_singleton] at bound
  have few := (wf.each group.last (by simp [GsvGroup.sentences])).1.few
  have small : IsInt (4 * group.full.length + group.last.sats.length) := cnt ▸ isInt_strToInt g.cnt
  rw [seq, cnt, gsvSvNum_eq small few (by omega)]
  rw [GsvGroup.sentences] at present
  split_ifs with early
  · rw [List.getElem?_append_left early] at present
    rw [wf.four g (mem_of_getElem? present)]
  · obtain rfl : i = group.full.length := by omega
    obtain rfl : group.last = g := by simpa using present
    rfl

/-- The sentences before the last one. -/
theorem GsvGroup.WellFormed.middles {group : GsvGroup} (wf : group.WellFormed) (k : Nat)
    (g : GsvSentence) (present : group.full[k]? = some g) :
    g.WellFormed ∧ strToInt g.num = group.full.length + 1 ∧
      strToInt g.seq = (0 + k : Nat) + 1 ∧
      gsvSvNum (strToInt g.seq) (strToInt g.cnt) = g.sats.length := by
  have inside := getElem?_full present
  obtain ⟨num, seq, -⟩ := wf.numbered k g inside
  exact ⟨(wf.each g (mem_of_getElem? inside)).1, num, by rw [seq, Nat.zero_add], wf.carried inside⟩

theorem SvView.Done.begins (isDone : v.Done done) : v.Begins 0 done [] :=
  ⟨fun _ => ⟨isDone, rfl⟩, fun nonzero => absurd rfl nonzero⟩

/-- The view before the last sentence of a group. -/
theorem GsvGroup.WellFormed.begins {group : GsvGroup} (wf : group.WellFormed) (isDone : v.Done done)
    (room : done.length + (group.full.flatMap (GsvSentence.accepted pf v.used)).length ≤ pf.gnssMaxSvs) :
    ((group.full.map (·.written.line)).foldl (fun v line => svEffect line v) v).Begins group.full.length done
        (group.full.flatMap (GsvSentence.accepted pf v.used)) ∧
      ((group.full.map (·.written.line)).foldl (fun v line => svEffect line v) v).used = v.used := by
  have begins :=
    begins_foldl (group.full.length + 1) group.full 0 isDone.begins (by omega) wf.middles
    (by rw [length_nil]; omega)
  rwa [Nat.zero_add, nil_append] at begins

/-- A complete group appends its accepted satellites to those of the groups before it. -/
theorem GsvGroup.WellFormed.foldl {group : GsvGroup} (wf : group.WellFormed) (isDone : v.Done done)
    (room : done.length + (group.sentences.flatMap (GsvSentence.accepted pf v.used)).length ≤ pf.gnssMaxSvs) :
    ((group.sentences.map (·.written.line)).foldl (fun v line => svEffect line v) v).Done
        (done ++ group.sentences.flatMap (GsvSentence.accepted pf v.used)) ∧
      ((group.sentences.map (·.written.line)).foldl (fun v line => svEffect line v) v).used = v.used := by
  have last : group.sentences[group.full.length]? = some group.last := by simp [GsvGroup.sentences]
  obtain ⟨num, seq, cnt⟩ := wf.numbered _ _ last
  have lastWf := (wf.each group.last (by simp [GsvGroup.sentences])).1
  have sum : group.sentences.flatMap (GsvSentence.accepted pf v.used) =
      group.full.flatMap (GsvSentence.accepted pf v.used) ++ group.last.accepted pf v.used := by
    simp [GsvGroup.sentences]
  rw [sum, length_append] at room
  obtain ⟨begins, used⟩ := wf.begins isDone (by omega)
  rw [sum, GsvGroup.sentences, map_append, foldl_append, map_singleton, foldl_cons, foldl_nil]
  generalize (group.full.map (·.written.line)).foldl (fun v line => svEffect line v) v = middle at begins used ⊢
  have filled :=
    begins.start.foldl_store (group.last.sats.map (Satellite.info pf group.last.talker v.used))
    (show _ + (group.last.accepted pf v.used).length ≤ _ by omega)
  -- The group's count cannot exceed the number of satellites it announced.
  have complete : ((group.full.flatMap (GsvSentence.accepted pf v.used) ++
      group.last.accepted pf v.used).length : Int) ≤ strToInt group.last.cnt := by
    have full :
        (group.full.flatMap (GsvSentence.accepted pf v.used)).length ≤ 4 * group.full.length := by
      have four := wf.four
      generalize group.full = sentences at four
      induction sentences with
      | nil => simp
      | cons g rest ih =>
        have here : (g.accepted pf v.used).length ≤ g.sats.length := length_accepted_le v.used g
        have tail := ih (fun g member => four g (mem_cons_of_mem _ member))
        rw [four g mem_cons_self, nmeaMaxSvInfo] at here
        rw [flatMap_cons, length_append, length_cons]
        omega
    have rest : (group.last.accepted pf v.used).length ≤ group.last.sats.length :=
      length_accepted_le v.used group.last
    rw [cnt, length_append]
    omega
  rw [lastWf.svEffect middle (wf.carried last), seq, num, used]
  refine ⟨?_, by simpa using used⟩
  have sized : done.length + (group.full.flatMap (GsvSentence.accepted pf v.used) ++
      group.last.accepted pf v.used).length ≤ pf.gnssMaxSvs := by rwa [length_append]
  exact filled.close complete sized

end Collect

section Used

/-- An empty slot ends the list of ids. -/
private theorem gsaUsed_append_empty (bds : Bool) (ids rest : List (List Byte))
    (used : SvUsedInFix) :
    gsaUsed bds (ids ++ [] :: rest) used = gsaUsed bds ids used := by
  induction ids generalizing used with
  | nil => simp [gsaUsed]
  | cons id ids ih => simp only [cons_append, gsaUsed, ih]

/-- Among accepted satellites, a GSA sentence marks those it lists before an id outside the known ranges. -/
private theorem gsaUsed_iff (bds : Bool) (ids : List (List Byte)) (nonempty : ∀ id ∈ ids, id ≠ [])
    (used : SvUsedInFix) {prn : Int} (accepted : ¬ prnRejected prn) :
    gsaUsed bds ids used prn = true ↔
      used prn = true ∨
      prn ∈ (ids.map fun id => svPrn bds (strToInt id)).takeWhile prnRecognised := by
  have qzss : ¬ (193 ≤ prn ∧ prn ≤ 197) := by
    simp only [prnRejected] at accepted
    omega
  induction ids generalizing used with
  | nil => simp [gsaUsed]
  | cons id rest ih =>
    have tail (used : SvUsedInFix) : gsaUsed bds rest used prn = true ↔
        used prn = true ∨
          prn ∈ (rest.map fun id => svPrn bds (strToInt id)).takeWhile prnRecognised :=
      ih (fun id member => nonempty id (mem_cons_of_mem _ member)) used
    rw [gsaUsed, map_cons, takeWhile_cons]
    simp only [if_neg (nonempty id mem_cons_self)]
    generalize svPrn bds (strToInt id) = first
    have recognised : prnRecognised first = true ↔ (1 ≤ first ∧ first ≤ 32) ∨
        (193 ≤ first ∧ first ≤ 197) ∨
        (65 ≤ first ∧ first ≤ 96) ∨ (201 ≤ first ∧ first ≤ 232) := by
      simp only [prnRecognised, Bool.or_eq_true, Bool.and_eq_true, decide_eq_true_eq, or_assoc]
    have marks : gsaUsed bds rest (Function.update used first true) prn = true ↔
        used prn = true ∨
          prn ∈ first :: (rest.map fun id => svPrn bds (strToInt id)).takeWhile prnRecognised := by
      rw [tail (Function.update used first true), mem_cons, Function.update_apply]
      by_cases same : prn = first <;> simp [same]
    by_cases known : prnRecognised first = true
    · rw [if_pos known]
      rcases recognised.mp known with gps | ignored | glonass | beidou
      · rw [if_pos gps, marks]
      · have other : prn ≠ first := by rintro rfl; exact qzss ignored
        rw [if_neg (by omega), if_pos ignored, tail (Function.update used first false),
          Function.update_of_ne other, mem_cons]
        simp [other]
      · rw [if_neg (by omega), if_neg (by omega), if_pos glonass, marks]
      · rw [if_neg (by omega), if_neg (by omega), if_neg (by omega), if_pos beidou, marks]
    · have unknown := recognised.not.mp known
      simp only [not_or] at unknown
      rw [if_neg known, if_neg unknown.1, if_neg unknown.2.1, if_neg unknown.2.2.1,
        if_neg unknown.2.2.2]
      simp

variable {h : GsaSentence}

theorem map_range_getD (first rest : List (List Byte)) :
    (List.range first.length).map (fun idx => (first ++ rest).getD idx []) = first := by
  apply ext_getElem?
  intro i
  rcases Nat.lt_or_ge i first.length with inside | outside
  · rw [List.getElem?_map, List.getElem?_range inside, Option.map_some, getD_append _ _ _ _ inside,
      getD_eq_getElem _ _ inside, List.getElem?_eq_getElem inside]
  · rw [List.getElem?_eq_none (by simpa using outside),
      List.getElem?_eq_none (by simpa using outside)]

/-- The slots the loop reads hold the ids, with an empty one after them when there is room. -/
theorem GsaSentence.WellFormed.texts (wf : h.WellFormed) :
    (List.range 12).map (fun idx => field h.written.line (idx + 3)) = h.ids ∨
      ∃ rest, (List.range 12).map (fun idx => field h.written.line (idx + 3)) = h.ids ++ [] :: rest := by
  have texts : (List.range 12).map (fun idx => field h.written.line (idx + 3)) =
      (List.range 12).map fun idx => (h.ids ++ h.more).getD idx [] := by
    apply map_congr_left
    intro idx member
    have inside := mem_range.mp member
    rw [wf.field_lt (by rw [maxNmeaTokens]; omega)]
    rfl
  have few := wf.few
  have prefixed := map_range_getD h.ids h.more
  rw [texts]
  rcases Nat.lt_or_ge h.ids.length 12 with short | full
  · have empty : (h.ids ++ h.more).getD h.ids.length [] = [] := by
      rw [getD_append_right _ _ _ _ le_rfl, Nat.sub_self]
      cases found : h.more with
      | nil => rfl
      | cons first rest => simpa [found] using wf.packed short
    obtain ⟨rest, split⟩ :
      ∃ rest, List.range 12 = List.range h.ids.length ++ h.ids.length :: rest := by
      refine ⟨(List.range (11 - h.ids.length)).map (h.ids.length + 1 + ·), ?_⟩
      rw [show 12 = h.ids.length + 1 + (11 - h.ids.length) by omega, List.range_add, List.range_succ, append_assoc]
      rfl
    right
    rw [split, map_append, map_cons, empty, prefixed]
    exact ⟨_, rfl⟩
  · left
    rw [show 12 = h.ids.length by omega, prefixed]

theorem GsaSentence.WellFormed.fixing_iff (wf : h.WellFormed) :
    (strToInt (field h.written.line 2) = 2 ∨ strToInt (field h.written.line 2) = 3) ↔
      h.fixing = true := by
  have mode : field h.written.line 2 = h.mode := wf.field_lt (by decide)
  rw [mode]
  simp only [GsaSentence.fixing, Bool.or_eq_true, beq_iff_eq]

theorem GsaSentence.WellFormed.svEffect (wf : h.WellFormed) (v : SvView pf) :
    svEffect h.written.line v =
      if h.fixing then { v with used := gsaUsed (isBds h.written.line) h.ids v.used } else v := by
  have ids :
      gsaUsed (isBds h.written.line) ((List.range 12).map fun idx => field h.written.line (idx + 3)) v.used =
      gsaUsed (isBds h.written.line) h.ids v.used := by
    rcases wf.texts with full | ⟨rest, short⟩
    · rw [full]
    · rw [short, gsaUsed_append_empty]
  rw [Gps.svEffect, wf.kind]
  simp only [gsaEffect, ids, wf.fixing_iff]

private theorem foldl_gsas (gsas : List GsaSentence) (each : ∀ g ∈ gsas, g.WellFormed)
    (v : SvView pf) :
    ((gsas.map (·.written.line)).foldl (fun v line => svEffect line v) v).status = v.status ∧
    ∀ prn, ¬ prnRejected prn →
      (((gsas.map (·.written.line)).foldl (fun v line => svEffect line v) v).used prn = true ↔ v.used prn = true ∨
        (gsas.any fun g => g.fixing && (g.prns.takeWhile prnRecognised).contains prn) = true) := by
  induction gsas generalizing v with
  | nil => simp
  | cons g rest ih =>
    have wf := each g mem_cons_self
    obtain ⟨status, used⟩ :=
      ih (fun g member => each g (mem_cons_of_mem _ member)) (svEffect g.written.line v)
    rw [map_cons, foldl_cons, status]
    refine ⟨?_, fun prn accepted => ?_⟩
    · rw [wf.svEffect]
      split <;> rfl
    · have prns : (g.ids.map fun id => svPrn (isBds g.written.line) (strToInt id)) = g.prns := by
        apply map_congr_left
        intro id member
        exact svPrn_talker wf.bds (wf.small id member)
      have marks := gsaUsed_iff (isBds g.written.line) g.ids wf.nonempty v.used accepted
      rw [prns] at marks
      rw [used prn accepted, wf.svEffect, any_cons, Bool.or_eq_true]
      cases g.fixing with
      | true => simp [marks, or_assoc]
      | false => simp

/-- The GSA sentences of an epoch mark exactly the satellites that `marked` says. -/
theorem Epoch.WellFormed.foldl_gsas {epoch : Epoch} (wf : epoch.WellFormed) {v : SvView pf}
    (clear : v.used = fun _ => false) :
    ((epoch.gsas.map (·.written.line)).foldl (fun v line => svEffect line v) v).status = v.status ∧
    ∀ prn, ¬ prnRejected prn →
      ((epoch.gsas.map (·.written.line)).foldl (fun v line => svEffect line v) v).used prn = epoch.marked prn := by
  obtain ⟨status, used⟩ := Gps.foldl_gsas epoch.gsas wf.gsas v
  refine ⟨status, fun prn accepted => ?_⟩
  rw [Bool.eq_iff_iff, used prn accepted, clear, Epoch.marked]
  simp

end Used

section Report

/-- Entries of accepted satellites depend on the marks of accepted satellites only. -/
theorem accepted_congr {used other : SvUsedInFix}
    (same : ∀ prn, ¬ prnRejected prn → used prn = other prn) (g : GsvSentence) :
    g.accepted pf used = g.accepted pf other := by
  rw [GsvSentence.accepted, GsvSentence.accepted]
  generalize g.sats = sats
  induction sats with
  | nil => rfl
  | cons sat rest ih =>
    have prn : ((sat.info pf g.talker used).prn : Int) = (sat.info pf g.talker other).prn := rfl
    simp only [acceptedInfos, map_cons, filter_cons] at ih ⊢
    rw [ih, prn]
    split
    · next accepted =>
      have mark : used (talkerPrn g.talker sat.id) = other (talkerPrn g.talker sat.id) :=
        same _ (of_decide_eq_true accepted)
      have equal : sat.info pf g.talker used = sat.info pf g.talker other := by
        simp only [Satellite.info, satelliteInfo, mark]
      rw [equal]
    · rfl

private theorem foldl_groups (groups : List GsvGroup) (each : ∀ group ∈ groups, group.WellFormed)
    {v : SvView pf} {done : List (GnssSvInfo F)} (isDone : v.Done done)
    (room : done.length + (groups.flatMap fun group =>
      group.sentences.flatMap (GsvSentence.accepted pf v.used)).length ≤ pf.gnssMaxSvs) :
    ((groups.flatMap fun group => group.sentences.map (·.written.line)).foldl (fun v line => svEffect line v) v).Done
      (done ++ groups.flatMap fun group => group.sentences.flatMap (GsvSentence.accepted pf v.used)) := by
  induction groups generalizing v done with
  | nil => simpa using isDone
  | cons group rest ih =>
    rw [flatMap_cons, length_append] at room
    obtain ⟨next, used⟩ := (each group mem_cons_self).foldl isDone (by omega)
    have later := ih (fun group member => each group (mem_cons_of_mem _ member)) next
      (by rw [used, length_append]; omega)
    rw [used] at later
    rw [flatMap_cons, foldl_append, flatMap_cons, ← append_assoc]
    exact later

/-- The satellites a group stores under the marks of the epoch's GSA sentences are those the epoch accepts. -/
theorem Epoch.WellFormed.accepted_marked {epoch : Epoch} (wf : epoch.WellFormed) {v : SvView pf}
    (clear : v.used = fun _ => false) :
    (epoch.groups.flatMap fun group => group.sentences.flatMap (GsvSentence.accepted pf
      ((epoch.gsas.map (·.written.line)).foldl (fun v line => svEffect line v) v).used)) =
      epoch.accepted pf epoch.marked := by
  have sentence : GsvSentence.accepted pf _ = GsvSentence.accepted pf epoch.marked :=
    funext (accepted_congr (wf.foldl_gsas clear).2)
  rw [Epoch.accepted, sentence]

/-- The lines of an epoch collect its accepted satellites. -/
theorem Epoch.WellFormed.foldl {epoch : Epoch} (wf : epoch.WellFormed) {v : SvView pf}
    (empty : v.status.numSvs = 0)
    (clear : v.used = fun _ => false)
    (room : (epoch.accepted pf epoch.marked).length ≤ pf.gnssMaxSvs) :
    (epoch.lines.foldl (fun v line => svEffect line v) v).Done (epoch.accepted pf epoch.marked) := by
  have same := wf.accepted_marked clear
  have status := (wf.foldl_gsas clear).1
  rw [Epoch.lines, foldl_append]
  generalize (epoch.gsas.map (·.written.line)).foldl (fun v line => svEffect line v) v = marked at *
  have fresh : marked.Done [] := ⟨by rw [status]; exact empty, rfl⟩
  have collected := foldl_groups epoch.groups wf.groups fresh (by rw [same, length_nil]; omega)
  rwa [same, nil_append] at collected

/-- Satellites come in lines. -/
theorem Epoch.lines_ne_nil (epoch : Epoch) {used : SvUsedInFix}
    (some : epoch.accepted pf used ≠ []) : epoch.lines ≠ [] := by
  intro none
  apply some
  have groups : epoch.groups = [] := by
    apply eq_nil_iff_forall_not_mem.mpr
    intro group member
    have lines := flatMap_eq_nil_iff.mp (append_eq_nil_iff.mp none).2 group member
    simp [GsvGroup.sentences] at lines
  rw [Epoch.accepted, groups, flatMap_nil]

/-- The state at the start of an epoch. -/
structure EpochStart (s : NmeaState pf) : Prop where
  idle : s.reader.Idle
  numSvs : s.reader.svStatusGnss.numSvs = 0
  used : s.svUsedInFix = fun _ => false

/-- One report of exactly the accepted satellites, marked by `used`, after which the counters and marks are zero. -/
structure EpochReported (epoch : Epoch) (used : SvUsedInFix) (s : NmeaState pf) (inputs : List NmeaInput) : Prop where
  once : ∃ list : Vector (GnssSvInfo F) pf.gnssMaxSvs,
    list.toList.take (epoch.accepted pf used).length = epoch.accepted pf used ∧
    svReports (nmeaReaderFeed s inputs).2 =
      if epoch.accepted pf used = [] then [] else [⟨(epoch.accepted pf used).length, list⟩]
  numSvs : (nmeaReaderFeed s inputs).1.reader.svStatusGnss.numSvs = 0
  after : epoch.accepted pf used ≠ [] → (nmeaReaderFeed s inputs).1.reader.svCount = 0 ∧
    (nmeaReaderFeed s inputs).1.svUsedInFix = fun _ => false

/-- A well-formed epoch whose accepted satellites fit the list is reported once, with each satellite
marked as used exactly when a GSA sentence with mode 2 or 3 lists it before any id outside the known ranges. -/
theorem nmeaReaderFeed_epoch {epoch : Epoch} {s : NmeaState pf} {inputs : List NmeaInput} (wf : epoch.WellFormed)
    (room : (epoch.accepted pf epoch.marked).length ≤ pf.gnssMaxSvs) (start : EpochStart s)
    (registered : Registered pf inputs) (bytes : inputs.map NmeaInput.byte = epoch.lines.flatten)
    (tagged : TaggedLast inputs) : EpochReported epoch epoch.marked s inputs := by
  obtain ⟨-, reports, after⟩ :=
    nmeaReaderFeed_lines_svView epoch.lines registered start.idle wf.lines bytes tagged rfl
  have collected := wf.foldl (v := s.svView) start.numSvs start.used room
  generalize epoch.lines.foldl (fun v line => svEffect line v) s.svView = final at *
  have shown : (epoch.lines ≠ [] ∧ final.status.numSvs ≠ 0) ↔
      epoch.accepted pf epoch.marked ≠ [] := by
    rw [collected.numSvs]
    constructor
    · rintro ⟨-, nonzero⟩ none
      exact nonzero (by rw [none]; rfl)
    · intro some
      refine ⟨epoch.lines_ne_nil some, ?_⟩
      rw [Ne, Int.natCast_eq_zero, length_eq_zero_iff]
      exact some
  simp only [shown] at reports after
  refine ⟨⟨final.status.svList, collected.list, ?_⟩, ?_, fun some => ?_⟩
  · rw [reports]
    by_cases none : epoch.accepted pf epoch.marked = []
    · rw [if_neg (not_not_intro none), if_pos none]
    · rw [if_pos none, if_neg none, ← collected.numSvs]
  · have num := congrArg (·.status.numSvs) after
    apply num.trans
    split
    · rfl
    · next none =>
      rw [collected.numSvs, not_not.mp none]
      rfl
  · rw [if_pos some] at after
    exact ⟨congrArg SvView.count after, congrArg SvView.used after⟩

/-- The bytes of one read, the end tag raised at its last byte. -/
def readInputs (env : ParseEnv) (first : List Byte) (last : Byte) : List NmeaInput :=
  first.map (fun c => ⟨env, false, c⟩) ++ [⟨env, true, last⟩]

theorem taggedLast_readInputs (env : ParseEnv) (first : List Byte) (last : Byte) :
    TaggedLast (readInputs env first last) := by
  intro before input after split
  rcases eq_nil_or_concat after with rfl | ⟨between, final, rfl⟩
  · obtain ⟨-, same⟩ := append_inj' split rfl
    obtain rfl := singleton_inj.mp same
    simp
  · rw [concat_eq_append, ← cons_append, ← append_assoc] at split
    obtain ⟨same, -⟩ := append_inj' split rfl
    have member : input ∈ first.map fun c => (⟨env, false, c⟩ : NmeaInput) := by rw [same]; simp
    obtain ⟨c, -, rfl⟩ := mem_map.mp member
    simp

theorem registered_readInputs {env : ParseEnv}
    (registered : env.callbacksSize = pf.sizeofGpsCallbacksMtk) (first : List Byte) (last : Byte) :
    Registered pf (readInputs env first last) := by
  intro input member
  rcases mem_append.mp member with inside | inside
  · obtain ⟨c, -, rfl⟩ := mem_map.mp inside
    exact registered
  · obtain rfl := mem_singleton.mp inside
    exact registered

/-- A GSA sentence with the given ids and a group of the single GPS satellite 5. -/
def oneSatellite (ids : List (List Byte)) : Epoch where
  gsas := [⟨lit ['G', 'P'], lit ['A'], lit ['3'], ids, [[]], none, false⟩]
  groups := [⟨lit ['G', 'P'], [], ⟨lit ['G', 'P'], lit ['1'], lit ['1'], lit ['1'],
    [⟨lit ['5'], lit ['4', '0'], lit ['8', '3'], []⟩], none, false⟩⟩]

theorem oneSatellite_wellFormed (ids : List (List Byte))
    (plain : ∀ id ∈ ids, PlainText id ∧ id ≠ [] ∧
    strToInt id + 200 < 2 ^ 31) (few : ids.length < 12)
    (fits : (Sentence.line ⟨lit ['G', 'P', 'G', 'S', 'A'] :: lit ['A'] :: lit ['3'] :: (ids ++ [[]]), none, false⟩).length ≤
      nmeaMaxSize) : (oneSatellite ids).WellFormed := by
  refine ⟨?_, ?_⟩
  · intro g member
    obtain rfl := mem_singleton.mp member
    refine ⟨⟨nofun, ?_, nofun, fits⟩, .inl rfl, fun id inside => (plain id inside).2.1, few.le, fun _ => rfl,
      fun id inside => (plain id inside).2.2⟩
    intro text inside
    simp only [GsaSentence.written, mem_cons, mem_append, not_mem_nil, or_false] at inside
    rcases inside with rfl | rfl | rfl | inside | rfl
    · decide
    · decide
    · decide
    · exact (plain text inside).1
    · decide
  · intro group member
    obtain rfl := mem_singleton.mp member
    refine ⟨?_, nofun, ?_⟩
    · intro g inside
      obtain rfl := mem_singleton.mp inside
      exact ⟨⟨⟨nofun, by decide, nofun, by decide⟩, rfl, by decide, by decide⟩, rfl⟩
    · intro i g present
      cases i with
      | zero =>
        cases present
        exact ⟨by decide, by decide, by decide⟩
      | succ i => cases present

private def fiveSurroundings : ParseEnv := ⟨72, true, 0, []⟩

theorem nmeaReaderFeed_epoch_one_satellite :
    EpochReported (oneSatellite [lit ['5']]) (oneSatellite [lit ['5']]).marked
      (⟨nmeaReaderInit (Platform.utc 64 (by decide)), fun _ => false, false⟩ : NmeaState _)
      (readInputs fiveSurroundings (oneSatellite [lit ['5']]).lines.flatten.dropLast lf) := by
  apply nmeaReaderFeed_epoch
  · exact oneSatellite_wellFormed _ (by decide) (by decide) (by decide)
  · decide +kernel
  · exact ⟨⟨rfl, rfl⟩, rfl, rfl⟩
  · exact registered_readInputs rfl _ _
  · decide +kernel
  · exact taggedLast_readInputs _ _ _

private theorem epoch_after_sbas :
    ¬ EpochReported (oneSatellite [lit ['4', '0'], lit ['5']]) (oneSatellite [lit ['4', '0'], lit ['5']]).listed
      (⟨nmeaReaderInit (Platform.utc 64 (by decide)), fun _ => false, false⟩ : NmeaState _)
      (readInputs fiveSurroundings (oneSatellite [lit ['4', '0'], lit ['5']]).lines.flatten.dropLast lf) := by
  rintro ⟨⟨list, entries, once⟩, -⟩
  have unused :
      ((svReports (nmeaReaderFeed (⟨nmeaReaderInit (Platform.utc 64 (by decide)), fun _ => false, false⟩ : NmeaState _)
      (readInputs fiveSurroundings (oneSatellite [lit ['4', '0'], lit ['5']]).lines.flatten.dropLast lf)).2).map
        fun status => (status.svList.toList.take 1).map GnssSvInfo.usedInFix) = [[false]] := by
    decide +kernel
  have marks : ((oneSatellite [lit ['4', '0'], lit ['5']]).accepted (Platform.utc 64 (by decide))
      (oneSatellite [lit ['4', '0'], lit ['5']]).listed).map GnssSvInfo.usedInFix = [true] := by
    decide +kernel
  have one := congrArg length marks
  rw [length_map] at one
  have some : (oneSatellite [lit ['4', '0'], lit ['5']]).accepted (Platform.utc 64 (by decide))
      (oneSatellite [lit ['4', '0'], lit ['5']]).listed ≠ [] := by
    intro none
    rw [none] at one
    exact absurd one (by simp)
  rw [once, if_neg some, map_singleton] at unused
  rw [one] at entries
  have shown := congrArg (map GnssSvInfo.usedInFix) entries
  rw [marks] at shown
  exact absurd (shown.symm.trans (singleton_inj.mp unused)) (by decide)

/-- With an SBAS id before it, satellite 5 is listed by the GSA sentence and reported as unused; and an epoch
without a satellite to report leaves the marks of its GSA sentences in place. -/
theorem nmeaReaderFeed_epoch_after_sbas :
    (¬ ∀ (epoch : Epoch) (s : NmeaState (Platform.utc 64 (by decide))) (inputs : List NmeaInput), epoch.WellFormed →
      (epoch.accepted (Platform.utc 64 (by decide)) epoch.listed).length ≤ 64 → EpochStart s →
      Registered (Platform.utc 64 (by decide)) inputs → inputs.map NmeaInput.byte = epoch.lines.flatten →
      TaggedLast inputs → EpochReported epoch epoch.listed s inputs) ∧
    ¬ ∀ (epoch : Epoch) (s : NmeaState (Platform.utc 64 (by decide))) (inputs : List NmeaInput), epoch.WellFormed →
      (epoch.accepted (Platform.utc 64 (by decide)) epoch.listed).length ≤ 64 → EpochStart s →
      Registered (Platform.utc 64 (by decide)) inputs → inputs.map NmeaInput.byte = epoch.lines.flatten →
      TaggedLast inputs → (nmeaReaderFeed s inputs).1.svUsedInFix = fun _ => false := by
  constructor
  · intro reported
    refine epoch_after_sbas
      (reported _ _ _ (oneSatellite_wellFormed _ (by decide) (by decide) (by decide))
      (by decide +kernel) ⟨⟨rfl, rfl⟩, rfl, rfl⟩ (registered_readInputs rfl _ _) ?_ (taggedLast_readInputs _ _ _))
    decide +kernel
  · intro cleared
    have wf := oneSatellite_wellFormed [lit ['5']] (by decide) (by decide) (by decide)
    have zero :=
      cleared { oneSatellite [lit ['5']] with groups := [] } ⟨nmeaReaderInit _, fun _ => false, false⟩
      (readInputs fiveSurroundings (({ oneSatellite [lit ['5']] with groups := [] } : Epoch).lines.flatten.dropLast) lf)
      ⟨wf.gsas, nofun⟩ (by decide +kernel) ⟨⟨rfl, rfl⟩, rfl, rfl⟩ (registered_readInputs rfl _ _) (by decide +kernel)
      (taggedLast_readInputs _ _ _)
    have marked :
        (nmeaReaderFeed (⟨nmeaReaderInit (Platform.utc 64 (by decide)), fun _ => false, false⟩ : NmeaState _)
        (readInputs fiveSurroundings (({ oneSatellite [lit ['5']] with groups := [] } : Epoch).lines.flatten.dropLast)
          lf)).1.svUsedInFix 5 = true := by decide +kernel
    rw [zero] at marked
    exact absurd marked (by decide)

end Report

end Mt6582.Gps

import Mt6582.Ygps.SkyView

/-! # Groups of satellites in view

The sentences 1 to `num` of a talker together list its satellites. A group is shown whole when no field of
zeros loses a satellite and the last sentence reports.
-/

namespace Mt6582.Ygps

open Machine

/-- The sentences 1 to `num` in order. -/
structure GsvGroup where
  sentences : List GsvSentence
  nonempty : sentences ≠ []
  numbered : ∀ k sentence, sentences[k]? = some sentence →
    sentence.num.value = sentences.length ∧ sentence.seq.value = k + 1

variable {F : Type} [Zero F] {floatOf : JavaString → Option F} {talker : Talker}

/-- The numbers of a satellite, in the order of its fields. -/
def SatelliteInfo.values (info : SatelliteInfo F) : Int × F × F × F :=
  (info.mPrn, info.mElevation, info.mAzimuth, info.mSnr)

/-- The satellites with a positive identifier. -/
def GsvSentence.listed (sentence : GsvSentence) : List GsvSatellite :=
  sentence.satellites.filter fun satellite => 0 < satellite.id.value

/-- `parse` on the records of sentences. -/
def parseSentences (floatOf : JavaString → Option F) (talker : Talker) (sentences : List GsvSentence)
    (parser : NmeaParser F) : NmeaParser F :=
  sentences.foldl (fun parser sentence => parser.parse floatOf (sentence.record talker)) parser

/-- After the group the talker's list is the group's, one message was sent and no other list has changed. -/
def GsvGroup.ShownFrom (group : GsvGroup) (floatOf : JavaString → Option F) (talker : Talker)
    (parser : NmeaParser F) : Prop :=
  ((parseSentences floatOf talker group.sentences parser).mSatelInfoList talker).map SatelliteInfo.values =
      (group.sentences.flatMap GsvSentence.listed).map (GsvSatellite.values floatOf) ∧
    (parseSentences floatOf talker group.sentences parser).svUpdates = parser.svUpdates + 1 ∧
      ∀ other ≠ talker,
        (parseSentences floatOf talker group.sentences parser).mSatelInfoList other = parser.mSatelInfoList other

/-- From the first field of zeros on there are only identifiers of zeros, and the others fit an `int`. -/
def GsvSentence.Meets (sentence : GsvSentence) : Prop :=
  (∀ satellite ∈ sentence.satellites.dropWhile (fun satellite => ¬ satellite.ZeroField), satellite.id.value = 0) ∧
    ∀ satellite ∈ sentence.satellites, satellite.id.value < 2 ^ 31

/-- The group can be counted, no sentence loses a satellite and the last one reports. -/
def GsvGroup.Meets (group : GsvGroup) : Prop :=
  group.sentences.length < 2 ^ 31 ∧ (∀ sentence ∈ group.sentences, sentence.Meets) ∧
    (group.sentences.getLast group.nonempty).Reports

/-! ## What is lost -/

section Lost

variable {α β : Type*} {part whole : α → List β}

theorem sublist_flatMap (sub : ∀ a, (part a).Sublist (whole a)) (l : List α) :
    (l.flatMap part).Sublist (l.flatMap whole) := by
  induction l with
  | nil => exact List.Sublist.refl []
  | cons a l ih =>
    rw [List.flatMap_cons, List.flatMap_cons]
    exact (sub a).append ih

theorem flatMap_eq_of_length (sub : ∀ a, (part a).Sublist (whole a)) {l : List α}
    (length : (l.flatMap part).length = (l.flatMap whole).length) : ∀ a ∈ l, part a = whole a := by
  induction l with
  | nil => exact fun _ absent => absurd absent List.not_mem_nil
  | cons a l ih =>
    have here := (sub a).length_le
    have later := (sublist_flatMap sub l).length_le
    simp only [List.flatMap_cons, List.length_append] at length
    rw [List.forall_mem_cons]
    exact ⟨(sub a).eq_of_length (by omega), ih (by omega)⟩

theorem filter_eq_append_filter_iff {kept lost : List α} {p q : α → Bool} :
    kept.filter p = kept ++ lost.filter q ↔ (∀ a ∈ kept, p a) ∧ ∀ a ∈ lost, ¬ q a := by
  constructor
  · intro equal
    have short := (List.filter_sublist (p := p) (l := kept)).length_le
    have lengths := congrArg List.length equal
    rw [List.length_append] at lengths
    have nothing := List.eq_nil_of_length_eq_zero (by omega : (lost.filter q).length = 0)
    rw [nothing, List.append_nil] at equal
    exact ⟨List.filter_eq_self.mp equal, List.filter_eq_nil_iff.mp nothing⟩
  · rintro ⟨all, nothing⟩
    rw [List.filter_eq_self.mpr all, List.filter_eq_nil_iff.mpr nothing, List.append_nil]

variable (satellites : List GsvSatellite)

theorem GsvSatellite.filter_takeWhile :
    (satellites.takeWhile fun satellite => ¬ satellite.ZeroField).filter (fun satellite => 0 < satellite.id.value) =
      satellites.takeWhile fun satellite => ¬ satellite.ZeroField := by
  rw [List.filter_eq_self]
  intro satellite member
  have complete :=
    List.mem_takeWhile_imp (p := fun satellite : GsvSatellite => ¬ satellite.ZeroField) member
  have nonzero : satellite.id.value ≠ 0 := fun zero => of_decide_eq_true complete (.inl zero)
  exact decide_eq_true (Nat.pos_of_ne_zero nonzero)

theorem GsvSatellite.shown_sublist :
    (shown satellites).Sublist (satellites.filter fun satellite => 0 < satellite.id.value) := by
  have reached :=
    (List.takeWhile_sublist (l := satellites) fun satellite => ¬ satellite.ZeroField).filter
    fun satellite => 0 < satellite.id.value
  rw [filter_takeWhile] at reached
  exact List.filter_sublist.trans reached

theorem GsvSentence.shown_eq_listed_iff (sentence : GsvSentence) :
    GsvSatellite.shown sentence.satellites = sentence.listed ↔ sentence.Meets := by
  have parts :=
    @List.takeWhile_append_dropWhile _ (fun satellite => decide (¬ satellite.ZeroField)) sentence.satellites
  have listed :
      sentence.listed = (sentence.satellites.takeWhile fun satellite => ¬ satellite.ZeroField) ++
      (sentence.satellites.dropWhile fun satellite => ¬ satellite.ZeroField).filter
        fun satellite => 0 < satellite.id.value := by
    rw [GsvSentence.listed]
    nth_rewrite 1 [← parts]
    rw [List.filter_append, GsvSatellite.filter_takeWhile]
  rw [listed, GsvSatellite.shown, filter_eq_append_filter_iff, Meets]
  simp only [decide_eq_true_eq, Nat.pos_iff_ne_zero, not_not]
  constructor
  · rintro ⟨small, zeros⟩
    refine ⟨zeros, fun satellite member => ?_⟩
    rw [← parts, List.mem_append] at member
    rcases member with reached | lost
    · exact small satellite reached
    · rw [zeros satellite lost]
      exact Nat.two_pow_pos 31
  · rintro ⟨zeros, small⟩
    exact ⟨fun satellite reached => small satellite (List.takeWhile_subset _ reached), zeros⟩

end Lost

/-! ## A run over sentences -/

section Run

/-- The talker's list is `old` and then `added`, so many messages were sent and the other lists are as before. -/
structure Shows (talker : Talker) (old added : List (Int × F × F × F)) (messages : Nat) (parser next : NmeaParser F) :
    Prop where
  list : (next.mSatelInfoList talker).map SatelliteInfo.values = old ++ added
  messages : next.svUpdates = parser.svUpdates + messages
  others : ∀ other ≠ talker, next.mSatelInfoList other = parser.mSatelInfoList other

omit [Zero F] in
theorem Shows.trans {parser next last : NmeaParser F} {old first second : List (Int × F × F × F)}
    {early late : Nat} (before : Shows talker old first early parser next)
    (after : Shows talker ((next.mSatelInfoList talker).map SatelliteInfo.values) second late next last) :
    Shows talker old (first ++ second) (early + late) parser last where
  list := by rw [after.list, before.list, List.append_assoc]
  messages := by rw [after.messages, before.messages, Nat.add_assoc]
  others other different := (after.others other different).trans (before.others other different)

variable (ignores : IgnoresZeros floatOf)

include ignores in
/-- `parse_sentence` without the marks and colours. -/
theorem parse_sentence_shows (sentence : GsvSentence) (parser : NmeaParser F)
    (numPositive : sentence.num.value ≠ 0) (seqPositive : sentence.seq.value ≠ 0) :
    Shows talker ((sentence.base (parser.mSatelInfoList talker)).map SatelliteInfo.values)
      ((GsvSatellite.shown sentence.satellites).map (GsvSatellite.values floatOf)) (if sentence.Reports then 1 else 0)
      parser (parser.parse floatOf (sentence.record talker)) := by
  obtain ⟨list, messages⟩ := parse_sentence ignores sentence talker parser numPositive seqPositive
  refine ⟨?_, messages, fun other different => ?_⟩
  · rw [list, Function.update_self, List.map_append, List.map_map]
    rfl
  · rw [list, Function.update_of_ne different]

/-- What sentences show together. -/
def allShown (floatOf : JavaString → Option F) (sentences : List GsvSentence) : List (Int × F × F × F) :=
  (sentences.flatMap fun sentence => GsvSatellite.shown sentence.satellites).map (GsvSatellite.values floatOf)

theorem allShown_cons (floatOf : JavaString → Option F) (sentence : GsvSentence)
    (sentences : List GsvSentence) :
    allShown floatOf (sentence :: sentences) =
      (GsvSatellite.shown sentence.satellites).map (GsvSatellite.values floatOf) ++ allShown floatOf sentences := by
  rw [allShown, List.flatMap_cons, List.map_append]
  rfl

theorem countP_reports_cons (sentence : GsvSentence) (sentences : List GsvSentence) :
    (sentence :: sentences).countP (fun sentence => sentence.Reports) =
      (if sentence.Reports then 1 else 0) + sentences.countP fun sentence => sentence.Reports := by
  rw [List.countP_cons, Nat.add_comm]
  simp only [decide_eq_true_eq]

include ignores in
/-- Sentences behind the first only add. -/
theorem parseSentences_tail {sentences : List GsvSentence} (parser : NmeaParser F)
    (numbered : ∀ sentence ∈ sentences, sentence.num.value ≠ 0 ∧ 1 < sentence.seq.value) :
    Shows talker ((parser.mSatelInfoList talker).map SatelliteInfo.values) (allShown floatOf sentences)
      (sentences.countP fun sentence => sentence.Reports) parser (parseSentences floatOf talker sentences parser) := by
  induction sentences generalizing parser with
  | nil => exact ⟨(List.append_nil _).symm, rfl, fun _ _ => rfl⟩
  | cons sentence sentences ih =>
    obtain ⟨⟨numPositive, seqLater⟩, rest⟩ := List.forall_mem_cons.mp numbered
    have first := @parse_sentence_shows _ _ _ talker ignores sentence parser numPositive (by omega)
    rw [GsvSentence.base, if_neg (by omega)] at first
    rw [allShown_cons, countP_reports_cons]
    exact first.trans (ih (parser.parse floatOf (sentence.record talker)) rest)

include ignores in
/-- A group that can be counted starts from nothing, one that cannot keeps the old list. -/
theorem parseSentences_group (group : GsvGroup) (parser : NmeaParser F) :
    Shows talker
      ((if group.sentences.length < 2 ^ 31 then [] else parser.mSatelInfoList talker).map SatelliteInfo.values)
      (allShown floatOf group.sentences) (group.sentences.countP fun sentence => sentence.Reports) parser
      (parseSentences floatOf talker group.sentences parser) := by
  obtain ⟨sentences, nonempty, numbered⟩ := group
  cases sentences with
  | nil => exact absurd rfl nonempty
  | cons first rest =>
    obtain ⟨num, seq⟩ := numbered 0 first rfl
    have later : ∀ sentence ∈ rest, sentence.num.value ≠ 0 ∧ 1 < sentence.seq.value := by
      intro sentence member
      obtain ⟨k, found⟩ := List.mem_iff_getElem?.mp member
      obtain ⟨num, seq⟩ := numbered (k + 1) sentence found
      rw [List.length_cons] at num
      omega
    have positive : first.num.value ≠ 0 := by
      rw [num, List.length_cons]
      exact Nat.succ_ne_zero _
    have starts := @parse_sentence_shows _ _ _ talker ignores first parser positive (by omega)
    rw [GsvSentence.base, num, seq] at starts
    simp only [Nat.zero_add, and_true] at starts
    rw [allShown_cons, countP_reports_cons]
    exact starts.trans
      (parseSentences_tail ignores (parser.parse floatOf (first.record talker)) later)

/-- Only the last sentence can report. -/
theorem GsvGroup.countP_reports (group : GsvGroup) :
    group.sentences.countP (fun sentence => sentence.Reports) =
      if (group.sentences.getLast group.nonempty).Reports then 1 else 0 := by
  have parts := List.dropLast_append_getLast group.nonempty
  have early : group.sentences.dropLast.countP (fun sentence => sentence.Reports) = 0 := by
    rw [List.countP_eq_zero]
    intro sentence member reports
    obtain ⟨k, found⟩ := List.mem_iff_getElem?.mp member
    obtain ⟨inside, -⟩ := List.getElem?_eq_some_iff.mp found
    rw [List.length_dropLast] at inside
    have place : group.sentences[k]? = some sentence := by
      rw [← found, List.getElem?_dropLast, if_pos inside]
    obtain ⟨num, seq⟩ := group.numbered k sentence place
    have same : sentence.num.value = sentence.seq.value :=
      congrArg Numeral.valueOf (of_decide_eq_true reports).2
    omega
  nth_rewrite 1 [← parts]
  rw [List.countP_append, early, List.countP_singleton, Nat.zero_add]
  simp only [decide_eq_true_eq]

/-- The satellites that are shown are those listed exactly when no sentence loses one. -/
theorem allShown_eq_iff (floatOf : JavaString → Option F) (sentences : List GsvSentence) :
    allShown floatOf sentences = (sentences.flatMap GsvSentence.listed).map (GsvSatellite.values floatOf) ↔
      ∀ sentence ∈ sentences, sentence.Meets := by
  simp only [allShown, ← GsvSentence.shown_eq_listed_iff]
  constructor
  · intro equal
    have lengths := congrArg List.length equal
    rw [List.length_map, List.length_map] at lengths
    exact flatMap_eq_of_length (fun sentence : GsvSentence => GsvSatellite.shown_sublist sentence.satellites) lengths
  · intro all
    rw [List.flatMap_congr all]

include ignores in
theorem GsvGroup.shownFrom_iff_of_counted (group : GsvGroup)
    (counted : group.sentences.length < 2 ^ 31) (parser : NmeaParser F) :
    group.ShownFrom floatOf talker parser ↔ group.Meets := by
  have shows := @parseSentences_group _ _ _ talker ignores group parser
  rw [ShownFrom, Meets, shows.list, shows.messages, if_pos counted, List.map_nil, List.nil_append,
    allShown_eq_iff, group.countP_reports, Nat.add_left_cancel_iff]
  have once : (if (group.sentences.getLast group.nonempty).Reports then 1 else 0) = 1 ↔
      (group.sentences.getLast group.nonempty).Reports := by
    split_ifs with reports
    · exact iff_of_true rfl reports
    · exact iff_of_false not_false reports
  rw [once]
  exact ⟨fun shown => ⟨counted, shown.1, shown.2.1⟩,
    fun meets => ⟨meets.2.1, meets.2.2, shows.others⟩⟩

include ignores in
/-- A group that cannot be counted is shown behind whatever was there. -/
theorem GsvGroup.not_shownFrom_of_uncounted (group : GsvGroup)
    (uncounted : ¬ group.sentences.length < 2 ^ 31) :
    ¬ ∀ parser : NmeaParser F, group.ShownFrom floatOf talker parser := by
  intro shown
  have listOf (parser : NmeaParser F) :
      (parser.mSatelInfoList talker).length + (allShown floatOf group.sentences).length =
        (group.sentences.flatMap GsvSentence.listed).length := by
    have list := (@parseSentences_group _ _ _ talker ignores group parser).list
    rw [(shown parser).1, if_neg uncounted] at list
    have lengths := congrArg List.length list
    simpa only [List.length_append, List.length_map] using lengths.symm
  have empty := listOf (NmeaParser.new F)
  have full := listOf { NmeaParser.new F with mSatelInfoList := fun _ => [⟨0, 0, 0, 0, false, 0⟩] }
  simp only [NmeaParser.new, List.length_nil, List.length_singleton] at empty full
  omega

include ignores in
/-- From every state a group is shown whole exactly when nothing of it is lost. -/
theorem GsvGroup.shown_iff (group : GsvGroup) (talker : Talker) :
    (∀ parser : NmeaParser F, group.ShownFrom floatOf talker parser) ↔ group.Meets := by
  rcases Decidable.em (group.sentences.length < 2 ^ 31) with counted | uncounted
  · constructor
    · intro shown
      exact (group.shownFrom_iff_of_counted ignores counted (NmeaParser.new F)).mp (shown _)
    · intro meets parser
      exact (group.shownFrom_iff_of_counted ignores counted parser).mpr meets
  · exact iff_of_false (group.not_shownFrom_of_uncounted ignores uncounted) fun meets =>
      uncounted meets.1

end Run

/-! ## The example of the documentation -/

/-- `*67`. -/
def checksum67 : Checksum := ⟨54, 55, by decide, by decide⟩

/-- A group of one sentence. -/
def oneSentence (satellites : List GsvSatellite) (atMostFour : satellites.length ≤ 4) : GsvGroup where
  sentences := [⟨Numeral.lit ['1'] (by decide) (by decide), Numeral.lit ['1'] (by decide) (by decide),
    Numeral.lit ['1', '3'] (by decide) (by decide), satellites, atMostFour, checksum67⟩]
  nonempty := List.cons_ne_nil _ _
  numbered := by
    intro k sentence found
    cases k with
    | zero =>
      cases found
      exact ⟨rfl, rfl⟩
    | succ k => cases found

/-- `02,02,213,`. -/
def satellite02 : GsvSatellite :=
  ⟨Numeral.lit ['0', '2'] (by decide) (by decide), false, Numeral.lit ['0', '2'] (by decide) (by decide),
    Numeral.lit ['2', '1', '3'] (by decide) (by decide), none⟩

/-- `03,-3,000,`. -/
def satellite03 : GsvSatellite :=
  ⟨Numeral.lit ['0', '3'] (by decide) (by decide), true, Numeral.lit ['3'] (by decide) (by decide),
    Numeral.lit ['0', '0', '0'] (by decide) (by decide), none⟩

/-- `11,00,121,`. -/
def satellite11 : GsvSatellite :=
  ⟨Numeral.lit ['1', '1'] (by decide) (by decide), false, Numeral.lit ['0', '0'] (by decide) (by decide),
    Numeral.lit ['1', '2', '1'] (by decide) (by decide), none⟩

/-- `14,13,172,05`. -/
def satellite14 : GsvSatellite :=
  ⟨Numeral.lit ['1', '4'] (by decide) (by decide), false, Numeral.lit ['1', '3'] (by decide) (by decide),
    Numeral.lit ['1', '7', '2'] (by decide) (by decide), some (Numeral.lit ['0', '5'] (by decide) (by decide))⟩

example : (oneSentence [satellite02, satellite03, satellite11, satellite14] (by decide)).sentences.map
    (GsvSentence.record · .gp) =
      [javaLit "$GPGSV,1,1,13,02,02,213,,03,-3,000,,11,00,121,,14,13,172,05*67".toList] := by
  decide

/-- Without the two satellites that have a field of zeros the example is shown. -/
theorem GsvGroup.shown_withoutZeros :
    (oneSentence [satellite02, satellite14] (by decide)).ShownFrom wholeNumber .gp (NmeaParser.new WholeFloat) := by
  apply (GsvGroup.shown_iff wholeNumber_ignoresZeros (oneSentence [satellite02, satellite14] (by decide)) .gp).mpr
  refine ⟨by decide, List.forall_mem_singleton.mpr ⟨?_, ?_⟩, ?_, ?_⟩
  · decide
  · decide
  · decide
  · rfl

/-- The example of the documentation is not. -/
theorem GsvGroup.documented_lost :
    ¬ ∀ parser : NmeaParser WholeFloat,
      (oneSentence [satellite02, satellite03, satellite11, satellite14] (by decide)).ShownFrom wholeNumber .gp parser := by
  intro shown
  have meets :=
    (GsvGroup.shownFrom_iff_of_counted wholeNumber_ignoresZeros _ (by decide) (NmeaParser.new WholeFloat)).mp (shown _)
  exact absurd meets.2.2.1 (by decide)

end Mt6582.Ygps

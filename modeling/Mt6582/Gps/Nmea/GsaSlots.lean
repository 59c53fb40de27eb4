import Mt6582.Gps.Nmea.Epoch

/-! # GSA sentences with empty id fields

A GSA sentence has twelve slots for the ids of the satellites in use; a receiver may leave any of them empty. The
loop over the slots stops at the first empty one, so the ids behind it are marked only if they are already.
-/

namespace Mt6582.Gps

open List

variable {F : Type} {pf : Platform F} {g : GsaSentence}

/-! ## The sentence -/

namespace GsaSentence

variable (g)

/-- The ids the talker sends. -/
def ValidId (id : Int) : Prop := if g.talker = lit ['G', 'L'] then 65 ≤ id ∧ id ≤ 96 else 1 ≤ id ∧ id ≤ 32

instance (id : Int) : Decidable (g.ValidId id) := inferInstanceAs (Decidable (ite _ _ _))

/-- The mode reads 2 or 3, and each of the twelve slots in `ids` is empty or holds an id of the talker. -/
structure Slotted : Prop where
  written : g.written.WellFormed
  talker : g.talker = lit ['G', 'P'] ∨ g.talker = lit ['G', 'L'] ∨ g.talker = lit ['B', 'D']
  fixing : g.fixing = true
  twelve : g.ids.length = 12
  valid : ∀ text ∈ g.ids, text = [] ∨ g.ValidId (strToInt text)

/-- The entries of `sv_used_in_fix` for the ids listed. -/
def slotted : List Int := (g.ids.filter (· ≠ [])).map (talkerPrn g.talker)

/-- The entries of the ids before the first empty slot. -/
def front : List Int := (g.ids.takeWhile (· ≠ [])).map (talkerPrn g.talker)

/-- The entries of the ids behind the first empty slot. -/
def behind : List Int := ((g.ids.dropWhile (· ≠ [])).filter (· ≠ [])).map (talkerPrn g.talker)

theorem mem_slotted_iff (prn : Int) : prn ∈ g.slotted ↔ prn ∈ g.front ∨ prn ∈ g.behind := by
  have split : g.slotted = g.front ++ g.behind := by
    rw [slotted, front, behind, ← map_append]
    congr 1
    have whole : (g.ids.takeWhile (· ≠ [])).filter (· ≠ []) = g.ids.takeWhile (· ≠ []) :=
      filter_eq_self.mpr fun _ member =>
        @mem_takeWhile_imp _ (fun text => decide (text ≠ [])) _ _ member
    rw [← whole, ← filter_append, takeWhile_append_dropWhile]
  rw [split, mem_append]

end GsaSentence

/-! ## The loop -/

section Loop

variable (talker : g.talker = lit ['G', 'P'] ∨ g.talker = lit ['G', 'L'] ∨ g.talker = lit ['B', 'D'])

include talker

theorem GsaSentence.svPrn_eq {text : List Byte} (valid : g.ValidId (strToInt text)) :
    svPrn (g.talker = lit ['B', 'D']) (strToInt text) = talkerPrn g.talker text ∧
      ((1 ≤ talkerPrn g.talker text ∧ talkerPrn g.talker text ≤ 32) ∨
        (65 ≤ talkerPrn g.talker text ∧ talkerPrn g.talker text ≤ 96) ∨
          (201 ≤ talkerPrn g.talker text ∧ talkerPrn g.talker text ≤ 232)) := by
  rw [GsaSentence.ValidId] at valid
  rw [svPrn, talkerPrn]
  have notGl : ¬ lit ['G', 'P'] = lit ['G', 'L'] := by decide
  have glBd : ¬ lit ['G', 'L'] = lit ['B', 'D'] := by decide
  have gpBd : ¬ lit ['G', 'P'] = lit ['B', 'D'] := by decide
  have bdGl : ¬ lit ['B', 'D'] = lit ['G', 'L'] := by decide
  rcases talker with same | same | same
  · rw [same, if_neg notGl] at valid
    simp only [same, gpBd, decide_false, Bool.false_eq_true, ↓reduceIte, Int.add_zero, true_and]
    exact .inl valid
  · rw [same, if_pos rfl] at valid
    simp only [same, glBd, decide_false, Bool.false_eq_true, ↓reduceIte, Int.add_zero, true_and]
    exact .inr (.inl valid)
  · rw [same, if_neg bdGl] at valid
    have small : wrap32 (strToInt text + 200) = strToInt text + 200 :=
      wrap32_eq_self (by omega) (by omega)
    simp only [same, decide_true, ↓reduceIte, small, true_and]
    omega

omit talker in
/-- A known id marks its entry and the loop goes on. -/
theorem gsaUsed_known {bds : Bool} {text : List Byte} {rest : List (List Byte)}
    {used : SvUsedInFix} {prn : Int} (filled : text ≠ []) (same : svPrn bds (strToInt text) = prn)
    (known : (1 ≤ prn ∧ prn ≤ 32) ∨ (65 ≤ prn ∧ prn ≤ 96) ∨ (201 ≤ prn ∧ prn ≤ 232)) :
    gsaUsed bds (text :: rest) used = gsaUsed bds rest (Function.update used prn true) := by
  rw [gsaUsed]
  simp only [if_neg filled, same]
  split_ifs
  · rfl
  · omega
  · rfl
  · rfl
  · omega

/-- The loop marks the ids before the first empty slot. -/
theorem GsaSentence.gsaUsed_eq_true_iff (slots : List (List Byte))
    (valid : ∀ text ∈ slots, text = [] ∨ g.ValidId (strToInt text)) (used : SvUsedInFix)
    (prn : Int) :
    gsaUsed (g.talker = lit ['B', 'D']) slots used prn = true ↔
      prn ∈ (slots.takeWhile (· ≠ [])).map (talkerPrn g.talker) ∨ used prn = true := by
  induction slots generalizing used with
  | nil => simp [gsaUsed]
  | cons text rest ih =>
    rcases Decidable.em (text = []) with empty | filled
    · simp [gsaUsed, empty]
    · obtain ⟨same, known⟩ :=
        GsaSentence.svPrn_eq talker ((valid text mem_cons_self).resolve_left filled)
      rw [gsaUsed_known filled same known,
        ih (fun text member => valid text (mem_cons_of_mem _ member)),
        takeWhile_cons_of_pos (by simpa using filled), map_cons, mem_cons, Function.update_apply]
      rcases Decidable.em (prn = talkerPrn g.talker text) with here | elsewhere
      · simp [here]
      · simp [elsewhere]

end Loop

/-- The texts the loop reads are the slots. -/
theorem GsaSentence.Slotted.texts (slotted : g.Slotted) :
    (List.range 12).map (fun idx => field g.written.line (idx + 3)) = g.ids := by
  have read : (List.range 12).map (fun idx => field g.written.line (idx + 3)) =
      (List.range 12).map fun idx => (g.ids ++ g.more).getD idx [] := by
    apply map_congr_left
    intro idx member
    have inside := mem_range.mp member
    rw [field_line slotted.written (by rw [maxNmeaTokens]; omega)]
    rfl
  rw [read, ← slotted.twelve]
  exact map_range_getD g.ids g.more

/-- The table after the branch of a slotted sentence. -/
theorem GsaSentence.Slotted.used (slotted : g.Slotted) {env : ParseEnv} {s : NmeaState pf}
    (holds : s.reader.HoldsLine) (line : s.reader.line = g.written.line) (prn : Int) :
    (sentenceEffect env s).svUsedInFix prn = true ↔ prn ∈ g.front ∨ s.svUsedInFix prn = true := by
  have view := congrArg SvView.used (sentenceEffect_svView env holds)
  have kind := GsaSentence.kind_eq slotted.written slotted.talker
  have bds : decide (isBds g.written.line) = decide (g.talker = lit ['B', 'D']) :=
    decide_eq_decide.mpr (GsaSentence.bds_iff slotted.written slotted.talker)
  have mode : field g.written.line 2 = g.mode := field_line slotted.written (by decide)
  have fixing := slotted.fixing
  rw [GsaSentence.fixing, Bool.or_eq_true, beq_iff_eq, beq_iff_eq] at fixing
  rw [line, svEffect, kind] at view
  simp only [gsaEffect, mode, fixing, ↓reduceIte, slotted.texts, bds] at view
  change (sentenceEffect env s).svUsedInFix = _ at view
  rw [view]
  exact GsaSentence.gsaUsed_eq_true_iff slotted.talker g.ids slotted.valid _ prn

/-! ## The table -/

/-- The entries listed are set and every other entry is as before. -/
def GsaSentence.MarksListed (g : GsaSentence) (before after : SvUsedInFix) : Prop :=
  (∀ prn ∈ g.slotted, after prn = true) ∧ ∀ prn, prn ∉ g.slotted → after prn = before prn

theorem GsaSentence.marksListed_iff {before after : SvUsedInFix}
    (marked : ∀ prn, after prn = true ↔ prn ∈ g.front ∨ before prn = true) :
    g.MarksListed before after ↔ ∀ prn ∈ g.behind, prn ∈ g.front ∨ before prn = true := by
  constructor
  · rintro ⟨set, -⟩ prn later
    exact (marked prn).mp (set prn ((g.mem_slotted_iff prn).mpr (.inr later)))
  · intro covered
    constructor
    · intro prn listed
      rcases (g.mem_slotted_iff prn).mp listed with early | later
      · exact (marked prn).mpr (.inl early)
      · exact (marked prn).mpr (covered prn later)
    · intro prn absent
      have early : prn ∉ g.front := fun early => absent ((g.mem_slotted_iff prn).mpr (.inl early))
      rw [Bool.eq_iff_iff, marked, or_iff_right early]

/-- The state in which the reports at the end of `nmea_reader_parse` find the reader. -/
def branchTaken (env : ParseEnv) (s : NmeaState pf) : NmeaState pf :=
  nmeaReaderDispatch env s.reader.tokens (nmeaTokenizerGet s.reader.tokens 0) s

section Parse

variable {env : ParseEnv} {s : NmeaState pf} (registered : env.callbacksSize = pf.sizeofGpsCallbacksMtk)
  (slotted : g.Slotted) (holds : s.reader.HoldsLine) (line : s.reader.line = g.written.line)

include registered slotted holds line

theorem GsaSentence.Slotted.branchTaken_eq : branchTaken env s = sentenceEffect env s ∧
    nmeaReaderParse env s = nmeaReaderReport env (branchTaken env s) := by
  have kind := GsaSentence.kind_eq slotted.written slotted.talker
  have long : ¬ (s.reader.line.length < 9 ∨ (field s.reader.line 0).length < 5) := by
    intro short
    rw [← line, sentenceKind, if_pos short] at kind
    cases kind
  have dispatch := (nmeaReaderDispatch_eq registered holds long).1
  refine ⟨dispatch, ?_⟩
  rw [nmeaReaderParse_eq registered holds, line, kind, branchTaken, dispatch]
  rfl

/-- A GSA sentence marks exactly the ids it lists, unless one behind an empty slot is neither listed before it nor
marked already. -/
theorem nmeaReaderParse_marksListed_iff :
    nmeaReaderParse env s = nmeaReaderReport env (branchTaken env s) ∧
      (g.MarksListed s.svUsedInFix (branchTaken env s).svUsedInFix ↔
        ∀ prn ∈ g.behind, prn ∈ g.front ∨ s.svUsedInFix prn = true) := by
  obtain ⟨taken, parsed⟩ := slotted.branchTaken_eq registered holds line
  refine ⟨parsed, ?_⟩
  rw [taken]
  exact GsaSentence.marksListed_iff (slotted.used holds line)

end Parse

section Instances

/-- The reader with a line in its buffer. -/
def NmeaReader.loaded (r : NmeaReader pf) (line : List Byte) : NmeaReader pf :=
  { r with pos := line.length, inBuf := Vector.ofFn fun i => line.getD i 0 }

variable {r : NmeaReader pf} {line : List Byte}

theorem NmeaReader.loaded_byteAt {i : Nat} (inside : i < nmeaMaxSize + 1) :
    byteAt (r.loaded line).inBuf.toList i = line.getD i 0 := by
  simp [NmeaReader.loaded, byteAt, inside]

theorem NmeaReader.loaded_line (fits : line.length ≤ nmeaMaxSize) :
    (r.loaded line).line = line := by
  apply ext_getElem?
  intro i
  rcases Nat.lt_or_ge i line.length with inside | outside
  · have room : i < nmeaMaxSize + 1 := by omega
    simp [NmeaReader.line, NmeaReader.loaded, inside, room]
  · simp [NmeaReader.line, NmeaReader.loaded, outside]

theorem NmeaReader.loaded_holdsLine (fits : line.length ≤ nmeaMaxSize) (isLine : IsLine lf line) :
    (r.loaded line).HoldsLine := by
  obtain ⟨body, rfl, -⟩ := isLine
  have length : (body ++ [lf]).length = body.length + 1 := length_append
  rw [length] at fits
  refine ⟨?_, ?_, ?_⟩
  · change 0 < (body ++ [lf]).length
    omega
  · change (body ++ [lf]).length ≤ nmeaMaxSize
    omega
  · change byteAt _ ((body ++ [lf]).length - 1) = lf
    rw [length, Nat.add_sub_cancel, NmeaReader.loaded_byteAt (by omega)]
    simp

end Instances

/-- A GPS sentence with the given slots and the other fields of the one documented by `NmeaParser`. -/
def documentedGsa (slots : List (List Byte)) : GsaSentence where
  talker := lit ['G', 'P']
  selection := lit ['A']
  mode := lit ['3']
  ids := slots
  more := [lit ['3', '.', '6'], lit ['2', '.', '1'], lit ['2', '.', '2']]
  checksum := some ('3'.toUInt8, 'C'.toUInt8)
  crlf := true

private def gnssSurroundings : ParseEnv := ⟨72, true, 0, []⟩

private def gnssLoaded (g : GsaSentence) : NmeaState (Platform.utc 64 (by decide)) :=
  ⟨(nmeaReaderInit _).loaded g.written.line, fun _ => false, false⟩

/-- Two ids in the first slots. -/
def packedSlots : List (List Byte) := [lit ['1', '6'], lit ['1', '8']] ++ .replicate 10 []

/-- The slots of the documented sentence. -/
def documentedSlots : List (List Byte) :=
  .replicate 5 [] ++ [lit ['1', '6'], lit ['1', '8'], [], lit ['2', '2'], lit ['2', '4'], [], []]

private theorem documentedGsa_slotted {slots : List (List Byte)}
    (plain : ∀ text ∈ (documentedGsa slots).written.fields, PlainText text)
    (fits : (documentedGsa slots).written.line.length ≤ nmeaMaxSize) (twelve : slots.length = 12)
    (valid : ∀ text ∈ slots, text = [] ∨ (documentedGsa slots).ValidId (strToInt text)) :
    (documentedGsa slots).Slotted := by
  refine ⟨⟨cons_ne_nil _ _, plain, ?_, fits⟩, .inl rfl, rfl, twelve, valid⟩
  intro high low equal
  cases equal
  decide

theorem nmeaReaderParse_marksListed_packed : (documentedGsa packedSlots).MarksListed
    (gnssLoaded (documentedGsa packedSlots)).svUsedInFix
      (branchTaken gnssSurroundings (gnssLoaded (documentedGsa packedSlots))).svUsedInFix := by
  have slotted : (documentedGsa packedSlots).Slotted :=
    documentedGsa_slotted (by decide) (by decide) (by decide) (by decide)
  apply (nmeaReaderParse_marksListed_iff rfl slotted
    (NmeaReader.loaded_holdsLine slotted.written.fits slotted.written.isLine)
    (NmeaReader.loaded_line slotted.written.fits)).2.mpr
  decide

/-- The sentence documented by `NmeaParser` lists 16, 18, 22 and 24 behind empty slots; none is marked. -/
theorem nmeaReaderParse_documented_unmarked :
    ¬ ∀ (env : ParseEnv) (g : GsaSentence) (s : NmeaState (Platform.utc 64 (by decide))),
      env.callbacksSize = (Platform.utc 64 (by decide)).sizeofGpsCallbacksMtk → g.Slotted → s.reader.HoldsLine →
        s.reader.line = g.written.line → g.MarksListed s.svUsedInFix (branchTaken env s).svUsedInFix := by
  intro marks
  have slotted : (documentedGsa documentedSlots).Slotted :=
    documentedGsa_slotted (by decide) (by decide) (by decide) (by decide)
  have holds :=
    NmeaReader.loaded_holdsLine (r := nmeaReaderInit (Platform.utc 64 (by decide))) slotted.written.fits
    slotted.written.isLine
  have line :=
    NmeaReader.loaded_line (r := nmeaReaderInit (Platform.utc 64 (by decide))) slotted.written.fits
  have set := (marks gnssSurroundings _ (gnssLoaded _) rfl slotted holds line).1 16 (by decide)
  rw [(slotted.branchTaken_eq (s := gnssLoaded (documentedGsa documentedSlots)) rfl holds line).1] at set
  rcases (slotted.used holds line 16).mp set with front | before
  · revert front
    decide
  · cases before

end Mt6582.Gps

import Mt6582.Ygps.NmeaParser

/-! # The texts of sentences

A sentence is its fields with commas between them and a checksum behind the last. `split` gives the
fields back with the checksum still on, and the searches of `parse` find the header and nothing else.
-/

namespace Mt6582.Ygps

open Machine

/-- The two digits behind `*`. -/
structure Checksum where
  high : UInt16
  low : UInt16
  highDigit : IsHexDigit high
  lowDigit : IsHexDigit low

def Checksum.text (checksum : Checksum) : JavaString := [42, checksum.high, checksum.low]

/-- The fields with the checksum behind the last one. -/
def closeLast (checksum : Checksum) : List JavaString → List JavaString
  | [] => []
  | [field] => [field ++ checksum.text]
  | field :: next :: fields => field :: closeLast checksum (next :: fields)

def header (talker : Talker) (kind : JavaString) : JavaString := 36 :: (talker.text ++ kind)

def record (talker : Talker) (kind : JavaString) (fields : List JavaString) (checksum : Checksum) : JavaString :=
  [44].intercalate (closeLast checksum (header talker kind :: fields))

/-- A character of a field: neither a comma nor a letter that the searches start with. -/
def FieldChar (c : UInt16) : Prop := c ≠ 44 ∧ c ≠ 71 ∧ c ≠ 82

instance (c : UInt16) : Decidable (FieldChar c) := inferInstanceAs (Decidable (_ ∧ _))

theorem fieldChar_decimal {c : UInt16} (decimal : IsDecimal c) : FieldChar c := by
  refine ⟨?_, ?_, ?_⟩ <;> rintro rfl <;> exact absurd decimal (by decide)

theorem fieldChar_hex {c : UInt16} (hex : IsHexDigit c) : FieldChar c := by
  refine ⟨?_, ?_, ?_⟩ <;> rintro rfl <;> exact absurd hex (by decide)

variable {checksum : Checksum}

theorem Checksum.text_fieldChar : ∀ c ∈ checksum.text, FieldChar c := by
  simp only [text, List.forall_mem_cons]
  refine ⟨by decide, fieldChar_hex checksum.highDigit, fieldChar_hex checksum.lowDigit, ?_⟩
  exact fun _ absent => absurd absent List.not_mem_nil

theorem closeLast_ne_nil {fields : List JavaString} (nonempty : fields ≠ []) :
    closeLast checksum fields ≠ [] := by
  cases fields with
  | nil => exact absurd rfl nonempty
  | cons field fields =>
    cases fields with
    | nil => exact List.cons_ne_nil _ _
    | cons next fields => exact List.cons_ne_nil _ _

theorem getLast_closeLast {fields : List JavaString} (nonempty : closeLast checksum fields ≠ []) :
    (closeLast checksum fields).getLast nonempty ≠ [] := by
  induction fields using closeLast.induct with
  | case1 => exact absurd rfl nonempty
  | case2 field => simp [closeLast, Checksum.text]
  | case3 field next fields ih =>
    simp only [closeLast, List.getLast_cons (closeLast_ne_nil (List.cons_ne_nil next fields))]
    exact ih _

theorem closeLast_forall {good : UInt16 → Prop} {fields : List JavaString}
    (each : ∀ field ∈ fields, ∀ c ∈ field, good c) (close : ∀ c ∈ checksum.text, good c) :
    ∀ field ∈ closeLast checksum fields, ∀ c ∈ field, good c := by
  induction fields using closeLast.induct with
  | case1 => exact each
  | case2 field =>
    rw [closeLast, List.forall_mem_singleton, List.forall_mem_append]
    exact ⟨List.forall_mem_singleton.mp each, close⟩
  | case3 field next fields ih =>
    obtain ⟨first, rest⟩ := List.forall_mem_cons.mp each
    rw [closeLast, List.forall_mem_cons]
    exact ⟨first, ih rest⟩

theorem split_record {talker : Talker} {kind : JavaString} {fields : List JavaString}
    (bare : 44 ∉ header talker kind) (each : ∀ field ∈ fields, ∀ c ∈ field, FieldChar c) :
    split 44 (record talker kind fields checksum) =
      closeLast checksum (header talker kind :: fields) := by
  have nonempty : closeLast checksum (header talker kind :: fields) ≠ [] :=
    closeLast_ne_nil (List.cons_ne_nil _ _)
  apply split_intercalate nonempty _ (getLast_closeLast nonempty)
  have chars : ∀ field ∈ closeLast checksum (header talker kind :: fields), ∀ c ∈ field,
      c ≠ 44 := by
    apply closeLast_forall _ fun c member => (Checksum.text_fieldChar c member).1
    rw [List.forall_mem_cons]
    exact ⟨fun c member equal => bare (equal ▸ member),
      fun field member c inside => (each field member c inside).1⟩
  exact fun field member comma => chars field member 44 comma rfl

theorem mem_intercalate {c : UInt16} {fields : List JavaString}
    (member : c ∈ [44].intercalate fields) :
    c = 44 ∨ ∃ field ∈ fields, c ∈ field := by
  induction fields with
  | nil => cases member
  | cons field fields ih =>
    cases fields with
    | nil => exact .inr ⟨field, List.mem_singleton_self field, by simpa using member⟩
    | cons next fields =>
      rw [List.intercalate_cons_cons] at member
      simp only [List.append_assoc, List.mem_append, List.mem_singleton] at member
      rcases member with here | comma | later
      · exact .inr ⟨field, List.mem_cons_self, here⟩
      · exact .inl comma
      · rcases ih later with comma | ⟨other, among, inside⟩
        · exact .inl comma
        · exact .inr ⟨other, List.mem_cons_of_mem field among, inside⟩

/-- Behind the header there is no letter that the searches start with. -/
theorem record_eq {talker : Talker} {kind : JavaString} {fields : List JavaString}
    (nonempty : fields ≠ []) (each : ∀ field ∈ fields, ∀ c ∈ field, FieldChar c) :
    ∃ tail, record talker kind fields checksum = header talker kind ++ 44 :: tail ∧ 71 ∉ tail ∧
      82 ∉ tail := by
  cases fields with
  | nil => exact absurd rfl nonempty
  | cons field fields =>
    have rest : closeLast checksum (field :: fields) ≠ [] := closeLast_ne_nil (List.cons_ne_nil _ _)
    have chars := closeLast_forall each (@Checksum.text_fieldChar checksum)
    refine ⟨[44].intercalate (closeLast checksum (field :: fields)), ?_, fun member => ?_,
      fun member => ?_⟩
    · rw [record, closeLast, List.intercalate_cons_of_ne_nil rest, List.append_assoc]
      rfl
    · rcases mem_intercalate member with comma | ⟨other, among, inside⟩
      · exact absurd comma (by decide)
      · exact (chars other among 71 inside).2.1 rfl
    · rcases mem_intercalate member with comma | ⟨other, among, inside⟩
      · exact absurd comma (by decide)
      · exact (chars other among 82 inside).2.2 rfl

/-- `GSA`. -/
def gsa : JavaString := javaLit ['G', 'S', 'A']

/-- `GSV`. -/
def gsv : JavaString := javaLit ['G', 'S', 'V']

section Searches

variable {talker : Talker} {fields : List JavaString}

theorem not_infix_of_not_mem {c : UInt16} {pattern tail : JavaString} (absent : c ∉ tail) :
    ¬ (c :: pattern) <:+: tail :=
  fun found => absent (found.subset List.mem_cons_self)

theorem checkTalker_record {kind : JavaString} (known : kind = gsa ∨ kind = gsv)
    (nonempty : fields ≠ []) (each : ∀ field ∈ fields, ∀ c ∈ field, FieldChar c) :
    checkTalker (record talker kind fields checksum) = some talker := by
  obtain ⟨tail, same, noG, -⟩ := @record_eq checksum talker kind fields nonempty each
  rw [same]
  rcases known with rfl | rfl <;> cases talker <;>
    simp [checkTalker, mTalker, contains, header, Talker.text, gsa, gsv, javaLit,
      List.infix_cons_iff, List.cons_prefix_cons, not_infix_of_not_mem noG]

theorem prefix_of_append_comma {pattern front tail : JavaString} (bare : 44 ∉ pattern)
    (found : pattern <+: front ++ 44 :: tail) : pattern <+: front := by
  have whole : front ++ [44] <+: front ++ 44 :: tail := ⟨tail, by simp⟩
  rcases List.prefix_or_prefix_of_prefix found whole with short | long
  · rcases List.prefix_concat_iff.mp short with rfl | inside
    · exact absurd (by simp) bare
    · exact inside
  · exact absurd (long.subset (by simp)) bare

/-- A pattern without a comma whose first letter is not behind the comma is found before it or nowhere. -/
theorem infix_append_comma_iff {c : UInt16} {pattern front tail : JavaString}
    (bare : 44 ∉ c :: pattern) (absent : c ∉ tail) : c :: pattern <:+: front ++ 44 :: tail ↔
      c :: pattern <:+: front := by
  refine ⟨fun found => ?_, List.infix_append_of_infix_left⟩
  induction front with
  | nil =>
    rcases List.infix_cons_iff.mp found with here | later
    · obtain ⟨rfl, -⟩ := List.cons_prefix_cons.mp here
      exact absurd List.mem_cons_self bare
    · exact absurd later (not_infix_of_not_mem absent)
  | cons a front ih =>
    rcases List.infix_cons_iff.mp found with here | later
    · exact (prefix_of_append_comma bare here).isInfix
    · exact (ih later).trans (List.suffix_cons a front).isInfix

theorem contains_record {kind pattern : JavaString} {c : UInt16} (first : c = 71 ∨ c = 82)
    (bare : 44 ∉ c :: pattern) (nonempty : fields ≠ [])
    (each : ∀ field ∈ fields, ∀ c ∈ field, FieldChar c) :
    contains (record talker kind fields checksum) (c :: pattern) =
      contains (header talker kind) (c :: pattern) := by
  obtain ⟨tail, same, noG, noR⟩ := @record_eq checksum talker kind fields nonempty each
  have absent : c ∉ tail := by rcases first with rfl | rfl <;> assumption
  rw [same, contains, contains, decide_eq_decide]
  exact infix_append_comma_iff bare absent

variable {F : Type} [Zero F] (floatOf : JavaString → Option F) (parser : NmeaParser F)

theorem parse_gsa (nonempty : fields ≠ []) (each : ∀ field ∈ fields, ∀ c ∈ field, FieldChar c) :
    parser.parse floatOf (record talker gsa fields checksum) =
      ({ parser with mCurrentTalker := some talker }.parseGSA (record talker gsa fields checksum)).1 := by
  have rmc : contains (record talker gsa fields checksum) (javaLit ['R', 'M', 'C']) = false :=
    (contains_record (.inr rfl) (by decide) nonempty each).trans (by cases talker <;> decide)
  have found : contains (record talker gsa fields checksum) (javaLit ['G', 'S', 'A']) = true :=
    (contains_record (.inl rfl) (by decide) nonempty each).trans (by cases talker <;> decide)
  rw [NmeaParser.parse, checkTalker_record (.inl rfl) nonempty each, rmc, found]
  rfl

theorem parse_gsv (nonempty : fields ≠ []) (each : ∀ field ∈ fields, ∀ c ∈ field, FieldChar c) :
    parser.parse floatOf (record talker gsv fields checksum) =
      ({ parser with mCurrentTalker := some talker }.parseGSV floatOf (record talker gsv fields checksum)).1 := by
  have rmc : contains (record talker gsv fields checksum) (javaLit ['R', 'M', 'C']) = false :=
    (contains_record (.inr rfl) (by decide) nonempty each).trans (by cases talker <;> decide)
  have noGsa : contains (record talker gsv fields checksum) (javaLit ['G', 'S', 'A']) = false :=
    (contains_record (.inl rfl) (by decide) nonempty each).trans (by cases talker <;> decide)
  have noGga : contains (record talker gsv fields checksum) (javaLit ['G', 'G', 'A']) = false :=
    (contains_record (.inl rfl) (by decide) nonempty each).trans (by cases talker <;> decide)
  have found : contains (record talker gsv fields checksum) (javaLit ['G', 'S', 'V']) = true :=
    (contains_record (.inl rfl) (by decide) nonempty each).trans (by cases talker <;> decide)
  rw [NmeaParser.parse, checkTalker_record (.inr rfl) nonempty each, rmc, noGsa, noGga, found]
  rfl

end Searches

end Mt6582.Ygps

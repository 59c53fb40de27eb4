import Mt6582.Gps.Nmea.IntRange
import Mt6582.Gps.Nmea.Split

/-! # Array indices of the reader

Every index the reader uses stays within its array, with one exception: an update of a satellite list checks its
index `sv_count + num_svs` from above alone. Once the sum reaches 2^31 it wraps below zero and passes the check. In
every reachable state with both counts of satellites at least 0, the next byte keeps all indices inside exactly if it
does not complete a GSV sentence that stores a satellite at such a sum.
-/

namespace Mt6582.Gps

open Machine

/-- An access inside its array. -/
def ReaderEvent.Inside : ReaderEvent → Prop
  | .access place => place.Inside
  | _ => True

section Accesses

variable {mem : List Byte} {p fin : Nat}

theorem touch_inside_iff (start : Int) (count size : Nat) :
    (touch start count size).All ReaderEvent.Inside ↔ 0 ≤ start ∧ start + count ≤ size := by
  rw [touch, Traced.all_record]
  exact Iff.rfl

theorem touch_inside {start count size : Nat} (inside : start + count ≤ size) :
    (touch start count size).All ReaderEvent.Inside :=
  (touch_inside_iff _ _ _).mpr ⟨by omega, by omega⟩

@[simp] theorem computeInt_inside (exact : Int) : (computeInt exact).All ReaderEvent.Inside :=
  ((Traced.all_record _).mpr trivial).bind fun _ => Traced.all_pure _

theorem readByte_inside {i : Nat} (inside : i < mem.length) :
    (readByte mem i).All ReaderEvent.Inside :=
  (touch_inside inside).bind fun _ => Traced.all_pure _

theorem memchrRecorded_inside (c : Byte) {n : Nat} (bound : p + n ≤ mem.length) :
    (memchrRecorded mem c p n).All ReaderEvent.Inside := by
  induction n generalizing p with
  | zero => exact Traced.all_pure _
  | succ n ih =>
    refine (readByte_inside (by omega)).bind fun _ => .ite (fun _ => Traced.all_pure _) fun _ =>
      ih (by omega)

theorem nmeaTokenizerTrimRecorded_inside (order : p ≤ fin) (bound : fin ≤ mem.length) :
    (nmeaTokenizerTrimRecorded mem p fin).All ReaderEvent.Inside := by
  have start : (if p < fin ∧ byteAt mem p = dollar then p + 1 else p) ≤ fin := by
    split_ifs <;> omega
  simp only [nmeaTokenizerTrimRecorded, Traced.all_bind, Traced.all_ite, Traced.value_ite,
    Traced.value_bind, Traced.value_pure, Traced.all_pure, value_readByte, and_true,
    imp_true_iff, ← ite_and]
  generalize (if p < fin ∧ byteAt mem p = dollar then p + 1 else p) = first at start
  generalize stopped : (if first < fin ∧ byteAt mem (fin - 1) = lf then
    if first < fin - 1 ∧ byteAt mem (fin - 1 - 1) = cr then fin - 1 - 1 else fin - 1 else fin) = stop
  have range : stop ≤ fin := by
    rw [← stopped]
    split_ifs <;> omega
  refine ⟨fun inside => readByte_inside (by omega),
    ⟨fun inside => ⟨readByte_inside (by omega), ?_⟩, ?_⟩⟩
  · exact fun _ inside => readByte_inside (by omega)
  · exact fun mark => readByte_inside (by omega)

theorem nmeaTokenizerLoopRecorded_inside (bound : fin ≤ mem.length) (rounds : Nat)
    {tokens : List Token} (order : p ≤ fin) :
    (nmeaTokenizerLoopRecorded mem fin rounds p tokens).All ReaderEvent.Inside := by
  induction rounds generalizing p tokens with
  | zero => exact Traced.all_pure _
  | succ rounds ih =>
    refine .ite (fun entered => ?_) fun _ => Traced.all_pure _
    obtain ⟨q, cutAt, lower, upper, -⟩ := cut_cases bound entered
    refine (Traced.all_bind _ _).mpr ⟨memchrRecorded_inside comma (by omega), ?_⟩
    rw [value_memchrRecorded, cutAt]
    refine Traced.All.bind (.ite (fun room => ?_) fun _ => Traced.all_pure _) fun tokens =>
      ih (by split_ifs <;> omega)
    exact (touch_inside (by omega)).bind fun _ => Traced.all_pure _

theorem nmeaTokenizerInitRecorded_inside (order : p ≤ fin) (bound : fin ≤ mem.length) :
    (nmeaTokenizerInitRecorded mem p fin).All ReaderEvent.Inside := by
  obtain ⟨-, range, inside, -⟩ := nmeaTokenizerTrim_spec order bound
  refine (Traced.all_bind _ _).mpr ⟨nmeaTokenizerTrimRecorded_inside order bound, ?_⟩
  rw [value_nmeaTokenizerTrimRecorded]
  exact nmeaTokenizerLoopRecorded_inside (inside.trans bound) _ range

theorem nmeaTokenizerGetRecorded_inside {tokens : List Token} (few : tokens.length ≤ maxNmeaTokens)
    (index : Nat) :
    (nmeaTokenizerGetRecorded tokens index).All ReaderEvent.Inside :=
  .ite (fun _ => (touch_inside (by omega)).bind fun _ => Traced.all_pure _) fun _ =>
    Traced.all_pure _

theorem str2intLoopRecorded_inside (bound : fin ≤ mem.length) (len p : Nat) (result : Int) :
    (str2intLoopRecorded mem fin len p result).All ReaderEvent.Inside := by
  induction len generalizing p result with
  | zero => exact Traced.all_pure _
  | succ len ih =>
    refine .ite (fun _ => Traced.all_pure _) fun more =>
      (readByte_inside (by omega)).bind fun c => ?_
    exact .ite
      (fun _ => (computeInt_inside _).bind fun _ =>
        (computeInt_inside _).bind fun result => ih (p + 1) result)
      fun _ => Traced.all_pure _

theorem str2intRecorded_inside (order : p < mem.length) (bound : fin ≤ mem.length) :
    (str2intRecorded mem p fin).All ReaderEvent.Inside := by
  refine Traced.All.bind ?_ fun _ => ((Traced.all_record _).mpr trivial).bind fun _ =>
    Traced.all_pure _
  refine (readByte_inside order).bind fun first =>
    (str2intLoopRecorded_inside bound _ _ _).bind fun read => ?_
  cases read with
  | none => exact Traced.all_pure _
  | some result => exact .ite (fun _ => computeInt_inside _) fun _ => Traced.all_pure _

variable {F : Type} {pf : Platform F}

/-- A text shorter than 16 bytes and its terminator fit into `temp`. -/
theorem str2floatRecorded_inside (order : p ≤ fin) (bound : fin ≤ mem.length) :
    (str2floatRecorded pf mem p fin).All ReaderEvent.Inside := by
  refine .ite (fun _ => Traced.all_pure _) fun short => ?_
  have size : ((fin : Int) - p) % 2 ^ 32 = ((fin - p : Nat) : Int) := by omega
  have natural : (fin : Int) - p = ((fin - p : Nat) : Int) := by omega
  rw [size, Int.toNat_natCast, natural]
  exact (touch_inside (by omega)).bind fun _ =>
    ((touch_inside_iff _ _ _).mpr ⟨le_rfl, by omega⟩).bind fun _ =>
    (touch_inside (by omega)).bind fun _ => Traced.all_pure _

end Accesses

section Tokens

/-- A range with at least one byte behind it in its object. -/
structure Token.Held (tok : Token) : Prop where
  order : tok.p ≤ tok.fin
  room : tok.fin < tok.mem.length

theorem Token.Held.int {tok : Token} (held : tok.Held) : tok.intRecorded.All ReaderEvent.Inside :=
  str2intRecorded_inside (held.order.trans_lt held.room) held.room.le

/-- The first byte is inside the object even if the token is empty. -/
theorem Token.Held.first {tok : Token} (held : tok.Held) :
    tok.firstRecorded.All ReaderEvent.Inside :=
  readByte_inside (held.order.trans_lt held.room)

variable {F : Type} {pf : Platform F}

theorem Token.Held.float {tok : Token} (held : tok.Held) :
    (tok.floatRecorded pf).All ReaderEvent.Inside :=
  str2floatRecorded_inside held.order held.room.le

variable {r : NmeaReader pf}

theorem NmeaReader.HoldsLine.room (holds : r.HoldsLine) : r.pos < r.inBuf.toList.length := by
  have := holds.bound
  rw [Vector.length_toList]
  omega

theorem NmeaReader.HoldsLine.scanned (holds : r.HoldsLine) : Scanned r.inBuf.toList
    (nmeaTokenizerTrim r.inBuf.toList 0 r.pos).1 (nmeaTokenizerTrim r.inBuf.toList 0 r.pos).2
      ((nmeaTokenizerTrim r.inBuf.toList 0 r.pos).2, r.tokens) :=
  nmeaTokenizerInit_scanned (Nat.zero_le _) holds.room.le

theorem NmeaReader.HoldsLine.held (holds : r.HoldsLine) (i : Nat) :
    (nmeaTokenizerGet r.tokens i).Held := by
  obtain ⟨-, -, inside, -⟩ := nmeaTokenizerTrim_spec (Nat.zero_le r.pos) holds.room.le
  rw [nmeaTokenizerGet]
  rcases Nat.lt_or_ge i r.tokens.length with present | absent
  · rw [List.getD_eq_getElem _ _ present]
    obtain ⟨same, -, order, upper⟩ := holds.scanned.inside _ (List.getElem_mem present)
    exact ⟨order, by rw [same]; exact (upper.trans inside).trans_lt holds.room⟩
  · rw [List.getD_eq_default _ _ absent]
    exact ⟨le_rfl, Nat.one_pos⟩

theorem NmeaReader.HoldsLine.get_inside (holds : r.HoldsLine) (i : Nat) :
    (nmeaTokenizerGetRecorded r.tokens i).All ReaderEvent.Inside :=
  nmeaTokenizerGetRecorded_inside holds.scanned.few i

/-- A loop that has stored a token keeps it as its first. -/
theorem nmeaTokenizerLoop_head {mem : List Byte} {fin : Nat} (rounds p : Nat) (first : Token)
    (rest : List Token) :
    (nmeaTokenizerLoop mem fin rounds p (first :: rest)).head? = some first := by
  induction rounds generalizing p rest with
  | zero => rfl
  | succ rounds ih =>
    rw [nmeaTokenizerLoop]
    by_cases entered : p < fin
    · rw [if_pos entered]
      dsimp only
      split_ifs
      · exact ih _ (rest ++ _)
      · exact ih _ rest
      · exact ih _ (rest ++ _)
      · exact ih _ rest
    · rw [if_neg entered]
      rfl

theorem nmeaTokenizerTrim_start (mem : List Byte) (fin : Nat) :
    (nmeaTokenizerTrim mem 0 fin).1 ≤ 1 := by
  simp only [nmeaTokenizerTrim]
  split_ifs <;> omega

/-- The first token, unless it is missing, starts at the first or second byte of the buffer. -/
theorem NmeaReader.HoldsLine.first_p (holds : r.HoldsLine) (present : field r.line 0 ≠ []) :
    (nmeaTokenizerGet r.tokens 0).mem = r.inBuf.toList ∧ (nmeaTokenizerGet r.tokens 0).p ≤ 1 := by
  obtain ⟨-, range, inside, -⟩ := nmeaTokenizerTrim_spec (Nat.zero_le r.pos) holds.room.le
  have start := nmeaTokenizerTrim_start r.inBuf.toList r.pos
  rw [← holds.text] at present
  have tokens : r.tokens = nmeaTokenizerInit r.inBuf.toList 0 r.pos := rfl
  rw [nmeaTokenizerInit] at tokens
  generalize (nmeaTokenizerTrim r.inBuf.toList 0 r.pos).1 = first at range start tokens
  generalize (nmeaTokenizerTrim r.inBuf.toList 0 r.pos).2 = fin at range inside tokens
  rcases range.lt_or_eq with entered | rfl
  · obtain ⟨rounds, more⟩ : ∃ rounds, fin - first = rounds + 1 := ⟨fin - first - 1, by omega⟩
    obtain ⟨q, cutAt, lower, -, -⟩ := cut_cases (inside.trans holds.room.le) entered
    rw [more, nmeaTokenizerLoop, if_pos entered] at tokens
    simp only [cutAt, lower, true_and, List.length_nil,
      show (0 : Nat) < maxNmeaTokens by decide, if_true, List.nil_append] at tokens
    have head : r.tokens.head? = some ⟨r.inBuf.toList, first, q⟩ := by
      rw [tokens]
      exact nmeaTokenizerLoop_head _ _ _ _
    rw [nmeaTokenizerGet, List.getD_eq_getElem?_getD, ← List.head?_eq_getElem?, head]
    exact ⟨rfl, start⟩
  · rw [Nat.sub_self, nmeaTokenizerLoop] at tokens
    rw [tokens] at present
    exact absurd rfl present

end Tokens

section Branches

variable {F : Type} {pf : Platform F} {r : NmeaReader pf}

theorem nmeaReaderUpdateTimeRecorded_inside (state : NmeaReader pf) (now : Int) {tok : Token}
    (held : tok.Held) :
    (nmeaReaderUpdateTimeRecorded state now tok).All ReaderEvent.Inside := by
  have room := held.room
  refine .ite (fun _ => Traced.all_pure _) fun long => ?_
  refine (str2intRecorded_inside (by omega) (by omega)).bind fun _ => ?_
  refine (str2intRecorded_inside (by omega) (by omega)).bind fun _ => ?_
  exact (str2floatRecorded_inside (by omega) room.le).bind fun _ => Traced.all_pure _

theorem nmeaReaderUpdateDateRecorded_inside (state : NmeaReader pf) (now : Int) {date time : Token}
    (held : date.Held)
    (timeHeld : time.Held) :
    (nmeaReaderUpdateDateRecorded state now date time).All ReaderEvent.Inside := by
  have room := held.room
  refine .ite (fun _ => Traced.all_pure _) fun size => ?_
  refine (str2intRecorded_inside (by omega) (by omega)).bind fun _ => ?_
  refine (str2intRecorded_inside (by omega) (by omega)).bind fun _ => ?_
  refine (str2intRecorded_inside (by omega) (by omega)).bind fun _ => ?_
  exact .ite (fun _ => Traced.all_pure _) fun _ =>
    nmeaReaderUpdateTimeRecorded_inside _ now timeHeld

theorem nmeaReaderUpdateLatlongRecorded_inside (state : NmeaReader pf) {latitude longitude : Token}
    (north east : Byte) (latitudeHeld : latitude.Held) (longitudeHeld : longitude.Held) :
    (nmeaReaderUpdateLatlongRecorded state latitude north longitude east).All ReaderEvent.Inside := by
  refine .ite (fun _ => Traced.all_pure _) fun _ => latitudeHeld.float.bind fun _ => ?_
  exact .ite (fun _ => Traced.all_pure _) fun _ => longitudeHeld.float.bind fun _ =>
    Traced.all_pure _

theorem nmeaReaderUpdateNumberRecorded_inside (state : NmeaReader pf) (flag : LocationFlag)
    {tok : Token} (held : tok.Held) (store : GpsLocation F → F → GpsLocation F) :
    (nmeaReaderUpdateNumberRecorded state flag tok store).All ReaderEvent.Inside :=
  .ite (fun _ => Traced.all_pure _) fun _ => held.float.bind fun _ => Traced.all_pure _

theorem parseGgaRecorded_inside (holds : r.HoldsLine) (env : ParseEnv) :
    (parseGgaRecorded env r.tokens r).All ReaderEvent.Inside := by
  simp only [parseGgaRecorded, Traced.all_bind, holds.get_inside,
    value_nmeaTokenizerGetRecorded, true_and]
  exact ⟨nmeaReaderUpdateTimeRecorded_inside _ _ (holds.held 1), (holds.held 3).first,
    (holds.held 5).first,
    nmeaReaderUpdateLatlongRecorded_inside _ _ _ (holds.held 2) (holds.held 4),
    nmeaReaderUpdateNumberRecorded_inside _ _ (holds.held 9) _⟩

theorem parseRmcRecorded_inside (holds : r.HoldsLine) (env : ParseEnv) :
    (parseRmcRecorded env r.tokens r).All ReaderEvent.Inside := by
  simp only [parseRmcRecorded, Traced.all_bind, Traced.all_ite, holds.get_inside,
    value_nmeaTokenizerGetRecorded, true_and, Traced.all_pure, imp_true_iff, and_true]
  exact ⟨(holds.held 2).first,
    fun _ => ⟨nmeaReaderUpdateDateRecorded_inside _ _ (holds.held 9) (holds.held 1),
    (holds.held 4).first, (holds.held 6).first,
    nmeaReaderUpdateLatlongRecorded_inside _ _ _ (holds.held 3) (holds.held 5),
    nmeaReaderUpdateNumberRecorded_inside _ _ (holds.held 8) _,
    nmeaReaderUpdateNumberRecorded_inside _ _ (holds.held 7) _⟩⟩

theorem parseAccuracyRecorded_inside (holds : r.HoldsLine) :
    (parseAccuracyRecorded r.tokens r).All ReaderEvent.Inside := by
  refine .ite (fun _ => (Traced.all_bind _ _).mpr ⟨holds.get_inside 1, ?_⟩) fun _ =>
    Traced.all_pure _
  rw [value_nmeaTokenizerGetRecorded]
  exact nmeaReaderUpdateNumberRecorded_inside _ _ (holds.held 1) _

/-- The entries of `sv_used_in_fix` that a GSA sentence marks. -/
theorem gsaLoopRecorded_inside (holds : r.HoldsLine) (bds : Bool) (left idx : Nat)
    (used : SvUsedInFix) :
    (gsaLoopRecorded r.tokens bds left idx used).All ReaderEvent.Inside := by
  induction left generalizing idx used with
  | zero => exact Traced.all_pure _
  | succ left ih =>
    have mark (id : Int) (inside : 0 ≤ id ∧ id < 256) (used : SvUsedInFix) :
        (touch id 1 svUsedSize >>= fun _ =>
          gsaLoopRecorded r.tokens bds left (idx + 1) used).All ReaderEvent.Inside :=
      ((touch_inside_iff _ _ _).mpr ⟨inside.1, by rw [svUsedSize]; omega⟩).bind fun _ =>
        ih (idx + 1) used
    refine (Traced.all_bind _ _).mpr ⟨holds.get_inside (idx + 3), ?_⟩
    rw [value_nmeaTokenizerGetRecorded]
    refine .ite (fun _ => Traced.all_pure _) fun _ => (holds.held (idx + 3)).int.bind fun id => ?_
    refine .ite (fun gps => mark _ (by omega) _) fun _ =>
      .ite (fun qzss => mark _ (by omega) _) fun _ => ?_
    exact .ite (fun glonass => mark _ (by omega) _) fun _ =>
      .ite (fun beidou => mark _ (by omega) _) fun _ => Traced.all_pure _

theorem gsaLoopGpsRecorded_inside (holds : r.HoldsLine) (left idx : Nat) (mask : BitVec 32) :
    (gsaLoopGpsRecorded r.tokens left idx mask).All ReaderEvent.Inside := by
  induction left generalizing idx mask with
  | zero => exact Traced.all_pure _
  | succ left ih =>
    refine (Traced.all_bind _ _).mpr ⟨holds.get_inside (idx + 3), ?_⟩
    rw [value_nmeaTokenizerGetRecorded]
    refine .ite (fun _ => Traced.all_pure _) fun _ => (holds.held (idx + 3)).int.bind fun id => ?_
    exact .ite (fun _ => ih (idx + 1) _) fun _ => .ite (fun _ => ih (idx + 1) mask) fun _ =>
      Traced.all_pure _

theorem parseGsaRecorded_inside {s : NmeaState pf} (holds : s.reader.HoldsLine) (bds : Bool) :
    (parseGsaRecorded s.reader.tokens bds s).All ReaderEvent.Inside := by
  refine (Traced.all_bind _ _).mpr ⟨holds.get_inside 2, ?_⟩
  rw [value_nmeaTokenizerGetRecorded]
  refine (holds.held 2).int.bind fun mode => .ite (fun _ => ?_) fun _ => Traced.all_pure _
  exact (gsaLoopRecorded_inside holds bds 12 0 _).bind fun _ => Traced.all_pure _

theorem parseGsaGpsRecorded_inside (holds : r.HoldsLine) :
    (parseGsaGpsRecorded r.tokens r).All ReaderEvent.Inside := by
  refine (Traced.all_bind _ _).mpr ⟨holds.get_inside 2, ?_⟩
  rw [value_nmeaTokenizerGetRecorded]
  refine (holds.held 2).int.bind fun mode => .ite (fun _ => ?_) fun _ => Traced.all_pure _
  exact (gsaLoopGpsRecorded_inside holds 12 0 0).bind fun _ => Traced.all_pure _

end Branches

section Satellites

variable {F : Type} {pf : Platform F} {r : NmeaReader pf}

/-- The `prn` of the satellite at index `idx`. -/
def gsvPrn (line : List Byte) (idx : Nat) : Int :=
  svPrn (isBds line) (strToInt (field line (4 * (idx + 1))))

/-- A GSV sentence stores a satellite at a sum of counts from 2^31 on. -/
def GsvOverflows (line : List Byte) (rejected : Int → Prop) (capacity : Nat)
    (count numSvs : Int) : Prop :=
  strToInt (field line 2) ≠ 1 ∧ count < capacity ∧ 2 ^ 31 ≤ count + numSvs ∧
    ∃ idx < (gsvSvNum (strToInt (field line 2)) (strToInt (field line 3))).toNat,
      ¬ rejected (gsvPrn line idx)

theorem gsvSvNumRecorded_inside (seq cnt : Int) :
    (gsvSvNumRecorded seq cnt).All ReaderEvent.Inside :=
  (computeInt_inside _).bind fun _ => (computeInt_inside _).bind fun _ =>
    (computeInt_inside _).bind fun _ =>
    Traced.all_pure _

theorem gsvSvIdRecorded_inside (holds : r.HoldsLine) (bds : Bool) (idx : Nat) :
    (gsvSvIdRecorded r.tokens bds idx).All ReaderEvent.Inside := by
  refine (Traced.all_bind _ _).mpr ⟨holds.get_inside _, ?_⟩
  rw [value_nmeaTokenizerGetRecorded]
  exact (holds.held _).int.bind fun _ => .ite (fun _ => computeInt_inside _) fun _ =>
    Traced.all_pure _

/-- An update of `sv_list` is inside unless it stores at an index below zero. -/
def UpdateInside (r : NmeaReader pf) (stores : Int → Int → Prop) (numSvs : Int)
    (used : NmeaReader pf → Prop)
    (update : NmeaReader pf → Int → Token → Token → Token → Recorded (NmeaReader pf)) : Prop :=
  ∀ state prn i j k, used state →
    ((update state prn (nmeaTokenizerGet r.tokens i) (nmeaTokenizerGet r.tokens j)
    (nmeaTokenizerGet r.tokens k)).All ReaderEvent.Inside ↔
      (stores prn state.svCount → 0 ≤ wrap32 (state.svCount + numSvs)))

theorem updateGnss_inside (holds : r.HoldsLine) (used : SvUsedInFix) (numSvs : Int) :
    UpdateInside r (storesGnss pf numSvs) numSvs (fun state => state.svStatusGnss.numSvs = numSvs)
      fun state => nmeaReaderUpdateSvStatusGnssRecorded state used := by
  intro state prn i j k inUse
  subst inUse
  by_cases stores : storesGnss pf state.svStatusGnss.numSvs prn state.svCount
  · have legal : 0 ≤ prn ∧ prn + 1 ≤ svUsedSize := by
      have accepted := stores.1
      rw [prnRejected, gpsMaxSvs] at accepted
      rw [svUsedSize]
      omega
    have below := stores.2.2
    simp only [nmeaReaderUpdateSvStatusGnssRecorded_all stores, touch_inside_iff,
      (holds.held i).int, (holds.held j).int, (holds.held k).float, stores, true_imp_iff, true_and]
    omega
  · simp only [nmeaReaderUpdateSvStatusGnssRecorded_skipped stores]
    exact iff_of_true (Traced.all_pure _) fun stored => absurd stored stores

theorem updateGps_inside (holds : r.HoldsLine) (numSvs : Int) :
    UpdateInside r (storesGps numSvs) numSvs (fun state => state.svStatusGps.numSvs = numSvs)
      nmeaReaderUpdateSvStatusGpsRecorded := by
  intro state prn i j k inUse
  subst inUse
  by_cases stores : storesGps state.svStatusGps.numSvs prn state.svCount
  · have below := stores.2.2
    simp only [nmeaReaderUpdateSvStatusGpsRecorded_all stores, touch_inside_iff, (holds.held i).int,
      (holds.held j).int, (holds.held k).float, stores, true_imp_iff, and_true]
    omega
  · rw [nmeaReaderUpdateSvStatusGpsRecorded_skipped stores]
    exact iff_of_true (Traced.all_pure _) fun stored => absurd stored stores

variable {rejected : Int → Prop} {capacity : Nat} {numSvs : Int} {used : NmeaReader pf → Prop}
  {update : NmeaReader pf → Int → Token → Token → Token → Recorded (NmeaReader pf)}

theorem gsvLoop_inside_iff (holds : r.HoldsLine)
    (counts : UpdateCounts (fun prn count =>
      ¬ rejected prn ∧ count < capacity ∧ wrap32 (count + numSvs) < capacity) used update)
    (reads : UpdateInside r (fun prn count =>
      ¬ rejected prn ∧ count < capacity ∧ wrap32 (count + numSvs) < capacity)
      numSvs used update) (few : capacity < 2 ^ 28) (nonneg : 0 ≤ numSvs) (int : numSvs < 2 ^ 31)
    (indices : List Nat)
    {state : NmeaReader pf} (inUse : used state)
      (count : 0 ≤ state.svCount ∧ state.svCount < 2 ^ 28) :
    (indices.foldlM (gsvRoundRecorded r.tokens (isBds r.line) update) state).All ReaderEvent.Inside ↔
      ¬ (state.svCount < capacity ∧ 2 ^ 31 ≤ state.svCount + numSvs ∧
        ∃ idx ∈ indices, ¬ rejected (gsvPrn r.line idx)) := by
  induction indices generalizing state with
  | nil => exact iff_of_true (Traced.all_pure _) (by simp)
  | cons idx rest ih =>
    have id : gsvSvId r.tokens (isBds r.line) idx = gsvPrn r.line idx := by
      simp only [gsvSvId, holds.int, gsvPrn, svPrn]
    simp only [List.foldlM_cons, Traced.all_bind, gsvRoundRecorded, gsvSvIdRecorded_inside holds,
      holds.get_inside, value_nmeaTokenizerGetRecorded, value_gsvSvIdRecorded, Traced.value_bind,
      id, true_and, reads _ _ _ _ _ inUse]
    have kept (elevation azimuth snr : Token) :=
      counts.keeps state (gsvPrn r.line idx) elevation azimuth snr inUse
    by_cases store : ¬ rejected (gsvPrn r.line idx) ∧ state.svCount < capacity ∧
      wrap32 (state.svCount + numSvs) < capacity
    · have next (elevation azimuth snr : Token) :=
        counts.stored _ _ elevation azimuth snr inUse store
      by_cases beyond : 2 ^ 31 ≤ state.svCount + numSvs
      · have wraps := wrap32_of_ge beyond (by omega)
        refine iff_of_false (fun all => ?_)
          (not_not_intro ⟨store.2.1, beyond, idx, List.mem_cons_self, store.1⟩)
        have index := all.1 store
        omega
      · -- Below 2^31 the sum is the index, so a store keeps it below the capacity.
        have sum : wrap32 (state.svCount + numSvs) = state.svCount + numSvs :=
          wrap32_eq_self (by omega) (by omega)
        have grown : wrap32 (state.svCount + 1) = state.svCount + 1 :=
          wrap32_eq_self (by omega) (by omega)
        have below := store.2.2
        refine iff_of_true ⟨fun _ => by omega, (ih (kept _ _ _) ?_).mpr ?_⟩ fun bad =>
          beyond bad.2.1
        · rw [next, grown]
          omega
        · rw [next, grown]
          omega
    · have next (elevation azimuth snr : Token) :=
        counts.skipped _ _ elevation azimuth snr inUse store
      rw [and_iff_right fun stores => absurd stores store,
        ih (kept _ _ _) (by rw [next]; exact count), next]
      refine not_congr (and_congr_right fun room => and_congr_right fun beyond => ?_)
      have wraps := wrap32_of_ge beyond (by omega)
      have skipped : rejected (gsvPrn r.line idx) := by
        by_contra accepted
        exact store ⟨accepted, room, by omega⟩
      simp only [List.mem_cons, exists_eq_or_imp, skipped, not_true_eq_false, false_or]

theorem parseGsvWithRecorded_inside_iff (holds : r.HoldsLine)
    (counts : UpdateCounts (fun prn count =>
      ¬ rejected prn ∧ count < capacity ∧ wrap32 (count + numSvs) < capacity) used update)
    (reads : UpdateInside r (fun prn count =>
      ¬ rejected prn ∧ count < capacity ∧ wrap32 (count + numSvs) < capacity)
      numSvs used update) (few : capacity < 2 ^ 28) (nonneg : 0 ≤ numSvs) (int : numSvs < 2 ^ 31)
    (inUse : ∀ seq, used (gsvStart seq r)) (count : 0 ≤ r.svCount ∧ r.svCount < 2 ^ 28)
    (close : Int → Int → Int → NmeaReader pf → NmeaReader pf) :
    (parseGsvWithRecorded r.tokens (isBds r.line) update close r).All ReaderEvent.Inside ↔
      ¬ GsvOverflows r.line rejected capacity r.svCount numSvs := by
  have start (seq : Int) : 0 ≤ (gsvStart seq r).svCount ∧ (gsvStart seq r).svCount < 2 ^ 28 := by
    rw [(gsvStart_sv seq r).1]
    split_ifs <;> omega
  simp only [parseGsvWithRecorded, Traced.all_bind, holds.get_inside, true_and,
    value_nmeaTokenizerGetRecorded, (holds.held _).int, value_intRecorded, holds.int,
    gsvSvNumRecorded_inside, value_gsvSvNumRecorded, Traced.all_pure, and_true,
    gsvLoop_inside_iff holds counts reads few nonneg int _ (inUse _) (start _), (gsvStart_sv _ r).1,
    GsvOverflows, List.mem_range]
  refine not_congr ?_
  by_cases first : strToInt (field r.line 2) = 1
  · simp only [first, if_true, ne_eq, not_true_eq_false, false_and, iff_false, not_and]
    omega
  · simp only [first, if_false, ne_eq, not_false_eq_true, true_and]

end Satellites

section Parse

variable {F : Type} {pf : Platform F}

/-- The counters of the reader in their ranges. -/
structure NmeaReader.SvRange (r : NmeaReader pf) : Prop where
  count : 0 ≤ r.svCount ∧ r.svCount < 2 ^ 28
  gnss : r.svStatusGnss.numSvs < 2 ^ 31
  gps : r.svStatusGps.numSvs < 2 ^ 31

/-- Both counts of satellites are at least 0. -/
structure NmeaReader.SvNonneg (r : NmeaReader pf) : Prop where
  gnss : 0 ≤ r.svStatusGnss.numSvs
  gps : 0 ≤ r.svStatusGps.numSvs

/-- The line in the buffer stores a satellite at a sum of counts from 2^31 on. -/
def LineOverflows (mtkSize : Nat) (env : ParseEnv) (r : NmeaReader pf) : Prop :=
  match parserBranch pf mtkSize env.callbacksSize r.line with
  | .gsv => GsvOverflows r.line prnRejected pf.gnssMaxSvs r.svCount r.svStatusGnss.numSvs
  | .gsvGps => GsvOverflows r.line prnRejectedGps gpsMaxSvs r.svCount r.svStatusGps.numSvs
  | _ => False

variable {mtkSize : Nat} {env : ParseEnv} {s : NmeaState pf} {r : NmeaReader pf}

section Ranges

private theorem zero_range : (0 : Int) ≤ 0 ∧ (0 : Int) < 2 ^ 28 := by decide

private theorem zero_lt_range : (0 : Int) < 2 ^ 31 := by decide

/-- What commutes with every satellites' part leaves it alone. -/
theorem eq_withSv_of_commutes {f : NmeaReader pf → NmeaReader pf}
    (commutes : ∀ p, f (r.withSv p) = (f r).withSv p) :
    f r = (f r).withSv ⟨r.svCount, r.svStatusGps, r.svStatusGnss, fun _ => false⟩ :=
  commutes ⟨r.svCount, r.svStatusGps, r.svStatusGnss, fun _ => false⟩

theorem NmeaReader.SvRange.of_withSv {f : NmeaReader pf → NmeaReader pf} (range : r.SvRange)
    (commutes : ∀ p, f (r.withSv p) = (f r).withSv p) : (f r).SvRange := by
  rw [eq_withSv_of_commutes commutes]
  exact ⟨range.count, range.gnss, range.gps⟩

theorem updateGnss_svRange (range : r.SvRange) (used : SvUsedInFix) (prn : Int)
    (elevation azimuth snr : Token) :
    (nmeaReaderUpdateSvStatusGnssRecorded r used prn elevation azimuth snr).value.SvRange := by
  by_cases stores : storesGnss pf r.svStatusGnss.numSvs prn r.svCount
  · obtain ⟨svList, next⟩ :=
      nmeaReaderUpdateSvStatusGnssRecorded_stored used elevation azimuth snr stores
    have few := pf.gnssMaxSvs_lt
    have count := range.count
    have room := stores.2.1
    rw [next, wrap32_eq_self (by omega) (by omega)]
    exact ⟨by dsimp only; omega, range.gnss, range.gps⟩
  · rw [nmeaReaderUpdateSvStatusGnssRecorded_skipped stores]
    exact range

theorem updateGps_svRange (range : r.SvRange) (prn : Int) (elevation azimuth snr : Token) :
    (nmeaReaderUpdateSvStatusGpsRecorded r prn elevation azimuth snr).value.SvRange := by
  by_cases stores : storesGps r.svStatusGps.numSvs prn r.svCount
  · obtain ⟨svList, next⟩ := nmeaReaderUpdateSvStatusGpsRecorded_stored elevation azimuth snr stores
    have few : gpsMaxSvs < 2 ^ 28 := by decide
    have count := range.count
    have room := stores.2.1
    rw [next, wrap32_eq_self (by omega) (by omega)]
    exact ⟨by dsimp only; omega, range.gnss, range.gps⟩
  · rw [nmeaReaderUpdateSvStatusGpsRecorded_skipped stores]
    exact range

theorem gsvClose_svRange (range : r.SvRange) (num seq cnt : Int) :
    (gsvClose num seq cnt r).SvRange := by
  rw [gsvClose]
  split_ifs
  · exact ⟨range.count, (wrap32_bounds _).2, range.gps⟩
  · exact ⟨zero_range, zero_lt_range, range.gps⟩
  · exact range

theorem gsvCloseGps_svRange (range : r.SvRange) (num seq cnt : Int) :
    (gsvCloseGps num seq cnt r).SvRange := by
  rw [gsvCloseGps]
  split_ifs
  · exact ⟨range.count, range.gnss, (wrap32_bounds _).2⟩
  · exact ⟨zero_range, range.gnss, zero_lt_range⟩
  · exact range

theorem parseGsvWithRecorded_svRange
    {update : NmeaReader pf → Int → Token → Token → Token → Recorded (NmeaReader pf)}
    {close : Int → Int → Int → NmeaReader pf → NmeaReader pf}
    (updates : ∀ state prn elevation azimuth snr, state.SvRange →
      (update state prn elevation azimuth snr).value.SvRange)
    (closes : ∀ num seq cnt state, state.SvRange → (close num seq cnt state).SvRange)
    (tzer : List Token) (bds : Bool)
    (range : r.SvRange) : (parseGsvWithRecorded tzer bds update close r).value.SvRange := by
  have start (seq : Int) : (gsvStart seq r).SvRange := by
    rw [gsvStart]
    split
    · exact ⟨zero_range, range.gnss, range.gps⟩
    · exact range
  simp only [parseGsvWithRecorded, Traced.value_bind, Traced.value_pure, Traced.value_foldlM]
  apply closes
  generalize List.range _ = indices
  induction indices using List.reverseRecOn with
  | nil => exact start _
  | append_singleton rest idx ih =>
    rw [List.foldl_append]
    exact updates _ _ _ _ _ ih

theorem parseGsv_svRange (range : r.SvRange) (tzer : List Token) (bds : Bool) (used : SvUsedInFix) :
    (parseGsv tzer bds used r).SvRange := by
  rw [← value_parseGsvRecorded, parseGsvRecorded]
  refine parseGsvWithRecorded_svRange (fun state prn elevation azimuth snr range => ?_)
    (fun num seq cnt state range => gsvClose_svRange range num seq cnt) tzer bds range
  exact updateGnss_svRange range used prn elevation azimuth snr

theorem parseGsvGps_svRange (range : r.SvRange) (tzer : List Token) (bds : Bool) :
    (parseGsvGps tzer bds r).SvRange := by
  rw [← value_parseGsvGpsRecorded, parseGsvGpsRecorded]
  refine parseGsvWithRecorded_svRange (fun state prn elevation azimuth snr range => ?_)
    (fun num seq cnt state range => gsvCloseGps_svRange range num seq cnt) tzer bds range
  exact updateGps_svRange range prn elevation azimuth snr

theorem nmeaReaderDispatch_svRange (range : s.reader.SvRange) (tzer : List Token)
    (tok : Token) :
    (nmeaReaderDispatch env tzer tok s mtkSize).reader.SvRange := by
  simp only [nmeaReaderDispatch]
  split_ifs
  · exact range.of_withSv (f := parseGga env tzer) fun p => parseGga_withSv _ p env tzer
  · obtain ⟨used, changed⟩ := parseGsa_frame tzer (memEq tok.mem tok.p (lit ['B', 'D'])) s
    rw [changed]
    exact ⟨range.count, range.gnss, range.gps⟩
  · simp only [parseGsaGps]
    split <;> exact ⟨range.count, range.gnss, range.gps⟩
  · exact range.of_withSv (f := parseRmc env tzer) fun p => parseRmc_withSv _ p env tzer
  · exact parseGsv_svRange range tzer _ _
  · exact parseGsvGps_svRange range tzer _
  · exact range.of_withSv (f := parseAccuracy tzer) fun p => parseAccuracy_withSv _ p tzer
  · exact range

theorem nmeaReaderReport_svRange (range : s.reader.SvRange) :
    (nmeaReaderReport env s mtkSize).1.reader.SvRange := by
  obtain ⟨flags, changed, -⟩ := nmeaReaderReportFix_frame env s
  simp only [nmeaReaderReport, changed, nmeaReaderReportSv]
  split_ifs
  · exact ⟨zero_range, zero_lt_range, range.gps⟩
  · exact ⟨range.count, range.gnss, range.gps⟩
  · exact ⟨zero_range, range.gnss, zero_lt_range⟩
  · exact ⟨range.count, range.gnss, range.gps⟩

theorem nmeaReaderAddc_svRange (range : s.reader.SvRange) (c : Byte) :
    (nmeaReaderAddc env s c mtkSize).1.reader.SvRange := by
  have pushed : (s.reader.push c).SvRange := ⟨range.count, range.gnss, range.gps⟩
  have parsed :
      (nmeaReaderParse env { s with reader := s.reader.push c } mtkSize).1.reader.SvRange := by
    rw [nmeaReaderParse]
    dsimp only
    split_ifs
    · exact pushed
    · exact pushed
    · exact nmeaReaderReport_svRange (nmeaReaderDispatch_svRange pushed _ _)
  rw [nmeaReaderAddc]
  dsimp only
  split_ifs
  · exact ⟨range.count, range.gnss, range.gps⟩
  · exact ⟨range.count, range.gnss, range.gps⟩
  · exact ⟨parsed.count, parsed.gnss, parsed.gps⟩
  · exact pushed

end Ranges

theorem nmeaReaderParseRecorded_inside_iff (holds : s.reader.HoldsLine) (range : s.reader.SvRange)
    (nonneg : s.reader.SvNonneg) :
    (nmeaReaderParseRecorded mtkSize env s).All ReaderEvent.Inside ↔
      ¬ LineOverflows mtkSize env s.reader := by
  have compared (long : 5 ≤ (field s.reader.line 0).length) (skip : Nat) (word : List Byte)
      (short : skip + word.length ≤ 10) :
      (memcmpRecorded (nmeaTokenizerGet s.reader.tokens 0).mem
        ((nmeaTokenizerGet s.reader.tokens 0).p + skip) word).All
        ReaderEvent.Inside := by
    obtain ⟨same, start⟩ := holds.first_p (List.ne_nil_of_length_pos (by omega))
    have size : s.reader.inBuf.toList.length = 129 := Vector.length_toList
    refine (touch_inside ?_).bind fun _ => Traced.all_pure _
    rw [same, size]
    omega
  rw [nmeaReaderParseRecorded_branch holds (nmeaTokenizerInitRecorded_inside (Nat.zero_le _) holds.room.le)
    (holds.get_inside 0) compared ((touch_inside_iff _ _ _).mpr ⟨le_rfl, by decide⟩), LineOverflows]
  cases parserBranch pf mtkSize env.callbacksSize s.reader.line with
  | gga => exact iff_of_true (parseGgaRecorded_inside holds env) not_false
  | rmc => exact iff_of_true (parseRmcRecorded_inside holds env) not_false
  | accuracy => exact iff_of_true (parseAccuracyRecorded_inside holds) not_false
  | none => exact iff_of_true (Traced.all_pure _) not_false
  | gsa =>
    exact iff_of_true ((parseGsaRecorded_inside holds _).bind fun _ => Traced.all_pure _) not_false
  | gsaGps => exact iff_of_true (parseGsaGpsRecorded_inside holds) not_false
  | gsv =>
    exact parseGsvWithRecorded_inside_iff holds (updateGnss_counts _ _)
      (updateGnss_inside holds s.svUsedInFix _)
      pf.gnssMaxSvs_lt nonneg.gnss range.gnss (fun seq => by rw [(gsvStart_sv seq _).2.1]) range.count gsvClose
  | gsvGps =>
    exact parseGsvWithRecorded_inside_iff holds (updateGps_counts _) (updateGps_inside holds _)
      (by decide)
      nonneg.gps range.gps (fun seq => by rw [(gsvStart_sv seq _).2.2]) range.count gsvCloseGps

end Parse

section Runs

variable {F : Type} {pf : Platform F}

/-- What happens to a reader: a byte is added to it, or its callbacks are set. -/
inductive ReaderAction where
  | addc (input : NmeaInput)
  | setCallback (registering : Bool)

def readerStepRecorded (mtkSize : Nat) (s : NmeaState pf) : ReaderAction → Recorded (NmeaState pf)
  | .addc input => do
      let added ← nmeaReaderAddcRecorded mtkSize input.env { s with gpsNmeaEndTag := input.endTag } input.byte
      pure added.1
  | .setCallback registering => pure { s with reader := nmeaReaderSetCallback s.reader registering }

/-- The state after a run. -/
def readerRun (mtkSize : Nat) (s : NmeaState pf) (actions : List ReaderAction) : NmeaState pf :=
  actions.foldl (fun s action => (readerStepRecorded mtkSize s action).value) s

/-- The initialised reader, with any values of the two globals. -/
def readerStart (pf : Platform F) (used : SvUsedInFix) (endTag : Bool) : NmeaState pf :=
  ⟨nmeaReaderInit pf, used, endTag⟩

/-- The action completes a GSV sentence that stores a satellite at a sum of counts from 2^31 on. -/
def SvIndexOverflows (mtkSize : Nat) (s : NmeaState pf) : ReaderAction → Prop
  | .addc input =>
    s.reader.Completes input.byte ∧ LineOverflows mtkSize input.env (s.reader.push lf)
  | .setCallback _ => False

variable {mtkSize : Nat} {s : NmeaState pf}

theorem readerStepRecorded_inside_iff (range : s.reader.SvRange) (nonneg : s.reader.SvNonneg)
    (action : ReaderAction) :
    (readerStepRecorded mtkSize s action).All ReaderEvent.Inside ↔
      ¬ SvIndexOverflows mtkSize s action := by
  cases action with
  | setCallback registering => exact iff_of_true (Traced.all_pure _) not_false
  | addc input =>
    rw [readerStepRecorded, Traced.all_bind, and_iff_left (Traced.all_pure _),
      nmeaReaderAddcRecorded, SvIndexOverflows, NmeaReader.Completes]
    dsimp only
    by_cases skips : s.reader.overflow = true
    · rw [if_pos skips]
      exact iff_of_true (Traced.all_pure _) fun bad => absurd skips (Bool.eq_false_iff.mp bad.1.1)
    · rw [if_neg skips]
      by_cases full : nmeaMaxSize ≤ s.reader.pos
      · rw [if_pos full]
        exact iff_of_true (Traced.all_pure _) fun bad => absurd full (not_le.mpr bad.1.2.1)
      · have room := not_le.mp full
        rw [if_neg full, Traced.all_bind, and_iff_right (touch_inside (by omega))]
        by_cases ended : input.byte = lf
        · rw [if_pos ended, ended, Traced.all_bind, and_iff_left (Traced.all_pure _),
            nmeaReaderParseRecorded_inside_iff
              (s := { s with reader := s.reader.push lf, gpsNmeaEndTag := input.endTag })
              (NmeaReader.holdsLine_push room) ⟨range.count, range.gnss, range.gps⟩
              ⟨nonneg.gnss, nonneg.gps⟩]
          exact not_congr (and_iff_right ⟨by simpa using skips, room, rfl⟩).symm
        · rw [if_neg ended]
          exact iff_of_true (Traced.all_pure _) fun bad => ended bad.1.2.2

theorem readerStepRecorded_svRange (range : s.reader.SvRange) (action : ReaderAction) :
    (readerStepRecorded mtkSize s action).value.reader.SvRange := by
  cases action with
  | setCallback registering =>
    rw [readerStepRecorded, Traced.value_pure, nmeaReaderSetCallback]
    split
    · exact ⟨zero_range, zero_lt_range, zero_lt_range⟩
    · exact range
  | addc input =>
    have tagged : ({ s with gpsNmeaEndTag := input.endTag } : NmeaState pf).reader.SvRange := range
    rw [readerStepRecorded, Traced.value_bind, Traced.value_pure, value_nmeaReaderAddcRecorded]
    exact nmeaReaderAddc_svRange tagged input.byte

theorem readerRun_svRange (range : s.reader.SvRange) (actions : List ReaderAction) :
    (readerRun mtkSize s actions).reader.SvRange := by
  induction actions generalizing s with
  | nil => exact range
  | cons action rest ih => exact ih (readerStepRecorded_svRange range action)

/-- In a run all indices used from states with counts of at least 0 are inside their arrays, exactly if from no such
state a satellite is stored at a sum of counts from 2^31 on. -/
theorem readerRun_indices_iff (mtkSize : Nat) (used : SvUsedInFix) (endTag : Bool)
    (actions : List ReaderAction) :
    (∀ first action rest, actions = first ++ action :: rest →
      (readerRun mtkSize (readerStart pf used endTag) first).reader.SvNonneg →
        ∀ place, .access place ∈
          (readerStepRecorded mtkSize (readerRun mtkSize (readerStart pf used endTag) first) action).log →
          place.Inside) ↔
    ∀ first action rest, actions = first ++ action :: rest →
      (readerRun mtkSize (readerStart pf used endTag) first).reader.SvNonneg →
        ¬ SvIndexOverflows mtkSize (readerRun mtkSize (readerStart pf used endTag) first) action := by
  have start : (readerStart pf used endTag).reader.SvRange :=
    ⟨zero_range, zero_lt_range, zero_lt_range⟩
  have events (x : Recorded (NmeaState pf)) : (∀ place, .access place ∈ x.log → place.Inside) ↔
      x.All ReaderEvent.Inside := by
    constructor
    · rintro inside (place | ⟨text, result⟩ | exact) member
      · exact inside place member
      · trivial
      · trivial
    · exact fun all place member => all _ member
  refine forall_congr' fun first => forall_congr' fun action => forall_congr' fun rest =>
    forall_congr' fun _ => ?_
  refine forall_congr' fun nonneg => ?_
  rw [events, readerStepRecorded_inside_iff (readerRun_svRange start first) nonneg]

end Runs

section Registered

variable {F : Type} {pf : Platform F} {env : ParseEnv}

/-- The branches for `GpsCallbacks_mtk` leave `sv_status_gps` alone. -/
theorem sentenceEffect_svStatusGps (env : ParseEnv) (s : NmeaState pf) :
    (sentenceEffect env s).reader.svStatusGps = s.reader.svStatusGps := by
  rw [sentenceEffect]
  cases sentenceKind s.reader.line with
  | gga =>
    dsimp only
    rw [eq_withSv_of_commutes (f := parseGga env s.reader.tokens) fun p => parseGga_withSv _ p env _]
    rfl
  | rmc =>
    dsimp only
    rw [eq_withSv_of_commutes (f := parseRmc env s.reader.tokens) fun p => parseRmc_withSv _ p env _]
    rfl
  | accuracy =>
    dsimp only
    rw [eq_withSv_of_commutes (f := parseAccuracy s.reader.tokens) fun p => parseAccuracy_withSv _ p _]
    rfl
  | gsa =>
    obtain ⟨used, changed⟩ := parseGsa_frame s.reader.tokens (isBds s.reader.line) s
    dsimp only
    rw [changed]
  | gsv =>
    obtain ⟨count, status, changed⟩ :=
      parseGsv_frame s.reader.tokens (isBds s.reader.line) s.svUsedInFix s.reader
    dsimp only
    rw [changed]
  | ignored => rfl
  | other => rfl

theorem nmeaReaderAddc_svStatusGps (registered : env.callbacksSize = pf.sizeofGpsCallbacksMtk)
    (s : NmeaState pf) (c : Byte) :
    (nmeaReaderAddc env s c).1.reader.svStatusGps = s.reader.svStatusGps := by
  have report (t : NmeaState pf) :
      (nmeaReaderReport env t).1.reader.svStatusGps = t.reader.svStatusGps := by
    obtain ⟨flags, changed, -⟩ := nmeaReaderReportFix_frame env t
    simp only [nmeaReaderReport, changed, nmeaReaderReportSv, registered, ↓reduceIte]
    split <;> rfl
  obtain ⟨-, pos, overflow, inBuf, added⟩ | ⟨-, -, -, parsed, calls, ran, -, added⟩ :=
    nmeaReaderAddc_registered registered s c
  · rw [added]
  · rw [added, ran]
    dsimp only
    split_ifs
    · rfl
    · rw [report, sentenceEffect_svStatusGps]
      rfl

theorem nmeaReaderFeed_svStatusGps {inputs : List NmeaInput} (registered : Registered pf inputs)
    (s : NmeaState pf) :
    (nmeaReaderFeed s inputs).1.reader.svStatusGps = s.reader.svStatusGps := by
  induction inputs generalizing s with
  | nil => rfl
  | cons input rest ih =>
    rw [nmeaReaderFeed]
    exact (ih (fun other member => registered other (List.mem_cons_of_mem _ member)) _).trans
      (nmeaReaderAddc_svStatusGps (registered input List.mem_cons_self) _ _)

end Registered

section Repeated

open List

/-- Bytes read with callbacks of size `sizeof(GpsCallbacks_mtk)`, none of them the last of its read. -/
def untagged (bytes : List Byte) : List NmeaInput :=
  bytes.map fun c => ⟨⟨72, true, 0, []⟩, false, c⟩

/-- A group of four satellites in one sentence. -/
def fourSatellites : List Byte :=
  lit ['$', 'G', 'P', 'G', 'S', 'V', ',', '1', ',', '1', ',', '4', ',', '1', ',', ',', ',', ',',
    '2', ',', ',', ',', ',', '3', ',', ',', ',', ',', '4', '\n']

/-- The second and last sentence of a group, without a satellite. -/
def emptyClosing : List Byte :=
  lit ['$', 'G', 'P', 'G', 'S', 'V', ',', '2', ',', '2', ',', '4', '\n']

/-- The second sentence of a group of five satellites, up to its newline. -/
def fifthSatellite : List Byte :=
  lit ['$', 'G', 'P', 'G', 'S', 'V', ',', '3', ',', '2', ',', '5', ',', '1']

variable {s : NmeaState (Platform.utc 64 satellites_lt)}

theorem untagged_registered (bytes : List Byte) :
    Registered (Platform.utc 64 satellites_lt) (untagged bytes) := by
  intro input member
  obtain ⟨c, -, rfl⟩ := mem_map.mp member
  rfl

theorem readerRun_untagged (bytes : List Byte) :
    readerRun 72 s ((untagged bytes).map .addc) = (nmeaReaderFeed s (untagged bytes)).1 := by
  induction bytes generalizing s with
  | nil => rfl
  | cons c rest ih =>
    have step (input : NmeaInput) : (readerStepRecorded 72 s (.addc input)).value =
        (nmeaReaderAddc input.env { s with gpsNmeaEndTag := input.endTag } input.byte).1 := by
      rw [readerStepRecorded, Traced.value_bind, Traced.value_pure, value_nmeaReaderAddcRecorded]
      rfl
    rw [untagged, map_cons, map_cons, readerRun, foldl_cons, step, nmeaReaderFeed]
    exact ih

/-- An idle reader takes an untagged line, and the view follows its effect. -/
theorem nmeaReaderFeed_untagged {line : List Byte} (idle : s.reader.Idle) (isLine : IsLine lf line)
    (fits : line.length ≤ nmeaMaxSize) (known : sentenceKind line ≠ .ignored) :
    (nmeaReaderFeed s (untagged line)).1.reader.Idle ∧
      (nmeaReaderFeed s (untagged line)).1.svView = svEffect line s.svView := by
  obtain ⟨body, rfl, -⟩ := id isLine
  have split : untagged (body ++ [lf]) = untagged body ++ [⟨⟨72, true, 0, []⟩, false, lf⟩] :=
    map_append
  have bytes : (untagged (body ++ [lf])).map NmeaInput.byte = body ++ [lf] := by
    rw [untagged, map_map]
    exact map_id _
  rw [split] at bytes
  have fed :=
    nmeaReaderFeed_line_svView (split ▸ untagged_registered (body ++ [lf])) idle isLine fits known bytes
  rw [split]
  exact ⟨fed.1, by simpa using fed.2.2⟩

theorem svEffect_emptyClosing {v : SvView (Platform.utc 64 satellites_lt)} (few : v.count ≤ 4) :
    svEffect emptyClosing v =
      { v with status := { v.status with numSvs := wrap32 (v.status.numSvs + v.count) } } := by
  have kind : sentenceKind emptyClosing = .gsv := by decide
  have num : strToInt (field emptyClosing 1) = 2 := by decide
  have seq : strToInt (field emptyClosing 2) = 2 := by decide
  have cnt : strToInt (field emptyClosing 3) = 4 := by decide
  have none : (gsvSvNum 2 4).toNat = 0 := by decide
  simp only [svEffect, kind, gsvEffect, num, seq, cnt, none, range_zero, map_nil, foldl_nil,
    SvView.start, SvView.close]
  simp [few]

/-- The initialised reader with 64 slots for satellites. -/
private def utcStart : NmeaState (Platform.utc 64 satellites_lt) :=
  readerStart _ (fun _ => false) false

/-- Every repetition of the closing sentence adds the four satellites again. -/
theorem nmeaReaderFeed_repeated (count : Nat) (small : 4 + 4 * count < 2 ^ 31) :
    ∃ bytes, (nmeaReaderFeed utcStart (untagged bytes)).1.reader.Idle ∧
      (nmeaReaderFeed utcStart (untagged bytes)).1.svView.count = 4 ∧
      (nmeaReaderFeed utcStart (untagged bytes)).1.svView.status.numSvs = 4 + 4 * count := by
  induction count with
  | zero =>
    have isLine : IsLine lf fourSatellites := ⟨fourSatellites.dropLast, rfl, by decide⟩
    obtain ⟨idle, view⟩ :=
      nmeaReaderFeed_untagged (s := utcStart) ⟨rfl, rfl⟩ isLine (by decide) (by decide)
    refine ⟨fourSatellites, idle, ?_, ?_⟩
    · rw [view]
      decide +kernel
    · rw [view]
      decide +kernel
  | succ count ih =>
    obtain ⟨bytes, idle, four, total⟩ := ih (by omega)
    have isLine : IsLine lf emptyClosing := ⟨emptyClosing.dropLast, rfl, by decide⟩
    obtain ⟨idle', view⟩ := nmeaReaderFeed_untagged idle isLine (by decide) (by decide)
    have both : untagged (bytes ++ emptyClosing) = untagged bytes ++ untagged emptyClosing :=
      map_append
    rw [svEffect_emptyClosing four.le, four, total, wrap32_eq_self (by omega) (by omega)] at view
    refine ⟨bytes ++ emptyClosing, ?_⟩
    rw [both, nmeaReaderFeed_append]
    refine ⟨idle', ?_, ?_⟩
    · rw [view]
    · rw [view]
      push_cast
      ring

/-- Up to its newline, the sentence with the fifth satellite changes nothing but the buffer. -/
theorem nmeaReaderFeed_fifthSatellite (idle : s.reader.Idle) :
    (nmeaReaderFeed s (untagged fifthSatellite)).1.reader.InMode (.filling fifthSatellite) ∧
      (nmeaReaderFeed s (untagged fifthSatellite)).1.svView = s.svView := by
  have inMode : s.reader.InMode (.filling []) :=
    ⟨idle.overflow, idle.pos, idle.pos ▸ Nat.zero_le _, by rw [NmeaReader.line, idle.pos]; rfl⟩
  have bytes : (untagged fifthSatellite).map NmeaInput.byte = fifthSatellite := by
    rw [untagged, map_map]
    exact map_id _
  obtain ⟨pos, inBuf, tag, fed, filled⟩ := nmeaReaderFeed_body (untagged fifthSatellite) inMode
    (by rw [bytes]; decide) (by decide)
  rw [nil_append, bytes] at filled
  exact ⟨filled, by rw [fed]; rfl⟩

/-- The newline after it, with 2^31 - 4 satellites counted, stores at -2^31. -/
theorem svIndexOverflows_fifthSatellite (filled : s.reader.InMode (.filling fifthSatellite))
    (count : s.svView.count = 4) (numSvs : s.svView.status.numSvs = 2 ^ 31 - 4) :
    SvIndexOverflows 72 s (.addc ⟨⟨72, true, 0, []⟩, false, lf⟩) := by
  obtain ⟨fills, pos, -, text⟩ := filled
  have room : s.reader.pos < nmeaMaxSize := by
    rw [pos]
    decide
  have line :
      (s.reader.push lf).line = fifthSatellite ++ [lf] := by rw [NmeaReader.line_push room, text]
  have branch : parserBranch (Platform.utc 64 satellites_lt) 72 72 (fifthSatellite ++ [lf]) =
      .gsv := by decide
  refine ⟨⟨fills, room, rfl⟩, ?_⟩
  rw [LineOverflows, line, branch]
  have few : s.reader.svCount = 4 := count
  have total : s.reader.svStatusGnss.numSvs = 2 ^ 31 - 4 := numSvs
  refine ⟨by decide, ?_, ?_, 0, by decide, by decide⟩
  · change s.reader.svCount < 64
    omega
  · change 2 ^ 31 ≤ s.reader.svCount + s.reader.svStatusGnss.numSvs
    omega

/-- With 2^31 - 4 satellites counted, one more is stored 2^31 entries before its list. -/
theorem readerRun_stores_before_list :
    ¬ ∀ (used : SvUsedInFix) (endTag : Bool) (first : List ReaderAction) (action : ReaderAction),
    (readerRun 72 (readerStart (Platform.utc 64 satellites_lt) used endTag) first).reader.SvNonneg →
      ∀ place, .access place ∈
        (readerStepRecorded 72
          (readerRun 72 (readerStart (Platform.utc 64 satellites_lt) used endTag) first) action).log →
          place.Inside := by
  intro inside
  obtain ⟨bytes, idle, four, total⟩ := nmeaReaderFeed_repeated (2 ^ 29 - 2) (by norm_num)
  obtain ⟨filled, view⟩ := nmeaReaderFeed_fifthSatellite idle
  have both : untagged (bytes ++ fifthSatellite) = untagged bytes ++ untagged fifthSatellite :=
    map_append
  have run : readerRun 72 utcStart ((untagged (bytes ++ fifthSatellite)).map .addc) =
      (nmeaReaderFeed (nmeaReaderFeed utcStart (untagged bytes)).1 (untagged fifthSatellite)).1 := by
    rw [readerRun_untagged, both, nmeaReaderFeed_append]
  have gps :
      (readerRun 72 utcStart ((untagged (bytes ++ fifthSatellite)).map .addc)).reader.svStatusGps =
      utcStart.reader.svStatusGps := by
    rw [readerRun_untagged, nmeaReaderFeed_svStatusGps (untagged_registered _)]
  rw [← view] at four total
  rw [← run] at four total filled
  have counted :
      (readerRun 72 utcStart ((untagged (bytes ++ fifthSatellite)).map .addc)).svView.status.numSvs =
      2 ^ 31 - 4 := total.trans (by norm_num)
  generalize reached :
    readerRun 72 utcStart ((untagged (bytes ++ fifthSatellite)).map .addc) = s at *
  have nonneg : s.reader.SvNonneg := by
    refine ⟨?_, by rw [gps]; decide⟩
    change 0 ≤ s.svView.status.numSvs
    rw [counted]
    decide
  have range : s.reader.SvRange :=
    reached ▸ readerRun_svRange ⟨zero_range, zero_lt_range, zero_lt_range⟩ _
  have all :
      (readerStepRecorded 72 s (.addc ⟨⟨72, true, 0, []⟩, false, lf⟩)).All ReaderEvent.Inside := by
    rintro (place | ⟨text, result⟩ | exact) member
    · subst reached
      exact inside _ _ _ _ nonneg place member
    · trivial
    · trivial
  exact (readerStepRecorded_inside_iff range nonneg _).mp all
    (svIndexOverflows_fifthSatellite filled four counted)

end Repeated

end Mt6582.Gps

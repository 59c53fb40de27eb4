import Mt6582.Gps.Nmea.SvView
import Mt6582.Gps.Thread

/-! # The satellite numbers in reports

GSV sentences store satellites with the numbers that the filter of `nmea_reader_update_sv_status_gnss` lets through, GSA
sentences mark the numbers they recognise as used. The filter also accepts 200, which is what an empty id of a BeiDou
satellite comes to and which the GSA branch does not know. Every satellite stored since the last report has a number that
both know as long as no sentence stores a satellite 200.
-/

namespace Mt6582.Gps

open List Machine

variable {F : Type} {pf : Platform F}

/-- GPS, GLONASS and BeiDou satellites, as the GSA branch recognises them. -/
def LegalPrn (prn : Int) : Prop := (1 ≤ prn ∧ prn ≤ 32) ∨ (65 ≤ prn ∧ prn ≤ 96) ∨ (201 ≤ prn ∧ prn ≤ 232)

instance (prn : Int) : Decidable (LegalPrn prn) := inferInstanceAs (Decidable (_ ∨ _))

theorem legalPrn_of_accepted {prn : Int} (accepted : ¬ prnRejected prn) (other : prn ≠ 200) :
    LegalPrn prn := by
  have max : (gpsMaxSvs : Int) = 32 := rfl
  rw [prnRejected] at accepted
  rw [LegalPrn]
  omega

section Stores

/-- The slot a satellite is stored in, if it is. -/
def SvView.slot (v : SvView pf) (info : GnssSvInfo F) : Option Nat :=
  let index := wrap32 (v.count + v.status.numSvs)
  if prnRejected info.prn ∨ pf.gnssMaxSvs ≤ v.count ∨ pf.gnssMaxSvs ≤ index ∨ index < 0 then none else some index.toNat

/-- The slots that are stored to, with the numbers stored. -/
def SvView.stores : List (GnssSvInfo F) → SvView pf → List (Nat × Int)
  | [], _ => []
  | info :: rest, v =>
      match v.slot info with
      | none => SvView.stores rest (v.store info)
      | some slot => (slot, info.prn) :: SvView.stores rest (v.store info)

/-- What a sentence stores. -/
def sentenceStores (line : List Byte) (v : SvView pf) : List (Nat × Int) :=
  if sentenceKind line = .gsv then
    SvView.stores ((List.range (gsvSvNum (strToInt (field line 2)) (strToInt (field line 3))).toNat).map
      (gsvInfo pf line v.used)) (v.start (strToInt (field line 2)))
  else []

end Stores

/-- The slots in use have legal numbers. -/
def SvView.LegalAt (v : SvView pf) (slots : List Nat) : Prop :=
  ∀ i ∈ slots, ∀ inside : i < pf.gnssMaxSvs, LegalPrn v.status.svList[i].prn

section Views

theorem SvView.store_of_slot_none {v : SvView pf} {info : GnssSvInfo F}
    (none : v.slot info = none) :
    (v.store info).status.svList = v.status.svList := by
  unfold slot at none
  unfold store
  split
  · rfl
  · next stored =>
    dsimp only at none
    split at none
    · next dropped =>
      have negative : ¬ 0 ≤ wrap32 (v.count + v.status.numSvs) := by
        intro inside
        rcases dropped with rejected | full | past | negative
        · exact stored (Or.inl rejected)
        · exact stored (Or.inr (Or.inl full))
        · exact stored (Or.inr (Or.inr past))
        · omega
      exact if_neg negative
    · contradiction

theorem SvView.store_of_slot_some {v : SvView pf} {info : GnssSvInfo F} {slot : Nat}
    (stored : v.slot info = some slot) :
    ¬ prnRejected info.prn ∧
      (v.store info).status.svList = v.status.svList.setIfInBounds slot info := by
  unfold SvView.slot at stored
  dsimp only at stored
  split at stored
  · contradiction
  · next kept =>
    cases stored
    simp only [not_or, not_lt] at kept
    obtain ⟨accepted, notFull, inside, positive⟩ := kept
    refine ⟨accepted, ?_⟩
    rw [store, if_neg (by simp only [not_or]; exact ⟨accepted, notFull, inside⟩)]
    exact if_pos positive

/-- The slots stored to join those in use. -/
def noteSlots (slots : List Nat) (stored : List (Nat × Int)) : List Nat := stored.foldl (fun slots e => e.1 :: slots) slots

theorem SvView.LegalAt.stores {infos : List (GnssSvInfo F)} {v : SvView pf} {slots : List Nat}
    (legal : v.LegalAt slots) (no200 : ∀ e ∈ SvView.stores infos v, e.2 ≠ 200) :
    (infos.foldl SvView.store v).LegalAt (noteSlots slots (SvView.stores infos v)) := by
  induction infos generalizing v slots with
  | nil => exact legal
  | cons info rest ih =>
    rw [foldl_cons]
    rw [SvView.stores] at no200 ⊢
    cases slot : v.slot info with
    | none =>
      simp only [slot] at no200 ⊢
      have same := SvView.store_of_slot_none slot
      exact ih (fun i member inside => by simp only [same]; exact legal i member inside) no200
    | some k =>
      simp only [slot, forall_mem_cons] at no200 ⊢
      obtain ⟨accepted, list⟩ := SvView.store_of_slot_some slot
      refine ih (fun i member inside => ?_) no200.2
      simp only [list, Vector.getElem_setIfInBounds inside]
      split
      · exact legalPrn_of_accepted accepted no200.1
      · next other =>
        rcases mem_cons.mp member with same | old
        · exact absurd same.symm other
        · exact legal i old inside

theorem SvView.LegalAt.of_svList {v w : SvView pf} {slots : List Nat} (legal : v.LegalAt slots)
    (same : w.status.svList = v.status.svList) : w.LegalAt slots := by
  intro i member inside
  simp only [same]
  exact legal i member inside

/-- A sentence that stores no satellite 200 leaves only legal numbers in the slots in use and in its own. -/
theorem svEffect_legalAt {line : List Byte} {v : SvView pf} {slots : List Nat}
    (legal : v.LegalAt slots)
    (no200 : ∀ e ∈ sentenceStores line v, e.2 ≠ 200) :
    (svEffect line v).LegalAt (noteSlots slots (sentenceStores line v)) := by
  rw [svEffect]
  rw [sentenceStores] at no200 ⊢
  split
  · next gsa =>
    rw [gsa, if_neg (by decide)]
    apply legal.of_svList
    rw [gsaEffect]
    split <;> rfl
  · next gsv =>
    rw [if_pos gsv] at no200 ⊢
    have started : (v.start (strToInt (field line 2))).LegalAt slots := by
      apply legal.of_svList
      rw [SvView.start]
      split <;> rfl
    apply (started.stores no200).of_svList
    unfold gsvEffect
    dsimp only
    rw [SvView.close]
    split
    · split <;> rfl
    · rfl
  · next other =>
    rw [if_neg other]
    exact legal

end Views

section Bytes

variable {env : ParseEnv} (registered : env.callbacksSize = pf.sizeofGpsCallbacksMtk) (s : NmeaState pf) (c : Byte)

include registered

/-- A byte leaves the satellite data alone, or completes a sentence: then its effect follows, and the report. -/
theorem nmeaReaderAddc_svView :
    (svReports (nmeaReaderAddc env s c).2 = [] ∧ (nmeaReaderAddc env s c).1.svView = s.svView ∧
      (s.reader.Completes c → sentenceKind (s.reader.line ++ [lf]) = .ignored)) ∨
    (s.reader.Completes c ∧
      svReports (nmeaReaderAddc env s c).2 =
        (if (svEffect (s.reader.line ++ [lf]) s.svView).status.numSvs ≠ 0 ∧ s.gpsNmeaEndTag = true then
          [(svEffect (s.reader.line ++ [lf]) s.svView).status] else []) ∧
      (nmeaReaderAddc env s c).1.svView =
        if (svEffect (s.reader.line ++ [lf]) s.svView).status.numSvs ≠ 0 ∧ s.gpsNmeaEndTag = true then
          (svEffect (s.reader.line ++ [lf]) s.svView).reported
        else svEffect (s.reader.line ++ [lf]) s.svView) := by
  obtain ⟨inside, pos, overflow, inBuf, added⟩ | ⟨completes, holds, line, parsed, calls, ran, rfl, added⟩ :=
    nmeaReaderAddc_registered registered s c
  · rw [added]
    exact Or.inl ⟨rfl, rfl, fun completes => absurd completes inside⟩
  · rw [added]
    have shown : svReports (.parse (s.reader.line ++ [lf]) :: parsed.2 ++
        [.nmea parsed.1.reader.fix.timestamp (s.reader.line ++ [lf])]) = svReports parsed.2 := by
      rw [svReports_append]
      exact append_nil _
    rw [shown]
    split at ran
    · next ignored =>
      subst ran
      exact Or.inl ⟨rfl, rfl, fun _ => ignored⟩
    · subst ran
      have view := sentenceEffect_svView env (s := { s with reader := s.reader.push lf }) holds
      obtain ⟨reports, after⟩ :=
        nmeaReaderReport_svView registered (sentenceEffect env { s with reader := s.reader.push lf })
      dsimp only at view
      rw [line] at view
      rw [view, sentenceEffect_endTag] at reports after
      exact Or.inr ⟨completes, reports, after⟩

end Bytes

section Thread

instance (r : NmeaReader pf) (c : Byte) : Decidable (r.Completes c) := inferInstanceAs (Decidable (_ ∧ _))

/-- A satellite stored in a slot, or a report. -/
inductive SvEvent (pf : Platform F) where
  | stored (slot : Nat) (prn : Int)
  | reported (status : GnssSvStatus pf)

/-- What the byte to be added next makes a sentence store. -/
def ThreadState.stores (s : ThreadState pf) (a : ThreadAction) : List (Nat × Int) :=
  match a, s.mode with
  | .byte _ _, .feed (c :: _) =>
      if s.nmea.reader.Completes c then sentenceStores (s.nmea.reader.line ++ [lf]) s.nmea.svView else []
  | _, _ => []

def ThreadEvent.svEvent : ThreadEvent pf → Option (SvEvent pf)
  | .call c => c.svReport.map .reported
  | .command _ _ => none

/-- The thread, observed by what it stores and reports of satellites. -/
def svThread (pf : Platform F) : System (ThreadState pf) ThreadAction (SvEvent pf) where
  step s a := (gpsStateThreadStep s a).map fun next =>
    (next.1, (s.stores a).map (fun e => .stored e.1 e.2) ++ next.2.filterMap ThreadEvent.svEvent)

/-- The slots written since the last report. -/
def writtenSince (history : List (SvEvent pf)) : List Nat :=
  history.foldl (fun slots e => match e with | .stored slot _ => slot :: slots | .reported _ => []) []

/-- The entries of a report that were written since the last one have numbers that GSA sentences know. -/
def ReportsLegal (history : List (SvEvent pf)) : SvEvent pf → Prop
  | .stored _ _ => True
  | .reported status => ∀ i ∈ writtenSince history, ∀ inside : i < pf.gnssMaxSvs, i < status.numSvs →
      LegalPrn status.svList[i].prn

/-- The byte to be added next makes a sentence store a satellite 200. -/
def Stores200 (s : ThreadState pf) (a : ThreadAction) : Prop := ∃ slot, (slot, (200 : Int)) ∈ s.stores a

structure LegalInvariant (s : ThreadState pf) (history : List (SvEvent pf)) : Prop where
  reports : Always ReportsLegal [] history
  legal : s.nmea.svView.LegalAt (writtenSince history)

theorem writtenSince_stores (history : List (SvEvent pf)) (stored : List (Nat × Int)) :
    writtenSince (history ++ stored.map fun e => .stored e.1 e.2) = noteSlots (writtenSince history) stored := by
  rw [writtenSince, foldl_append, foldl_map]
  rfl

private theorem filterMap_calls (calls : List (Call pf)) :
    (calls.map ThreadEvent.call).filterMap ThreadEvent.svEvent =
      (svReports calls).map SvEvent.reported := by
  rw [filterMap_map, svReports, map_filterMap]
  rfl

theorem ThreadState.command_svList (s : ThreadState pf) (cmd : Command) :
    (s.command cmd).1.nmea.svView.status.svList = s.nmea.svView.status.svList := by
  cases cmd with
  | start =>
    simp only [ThreadState.command]
    split <;> rfl
  | stop =>
    simp only [ThreadState.command]
    split <;> rfl
  | restart | quit | download | other => rfl

/-- The byte loop's view of a byte: `tag` is the end tag it is added with. -/
theorem ThreadState.addByte_svView (s : ThreadState pf) (c : Byte) (rest : List Byte) (now : Int)
    (mnlProp : List Byte) :
    (svReports (s.addByte c rest now mnlProp).2 = [] ∧ (s.addByte c rest now mnlProp).1.svView = s.nmea.svView ∧
      (s.nmea.reader.Completes c → sentenceKind (s.nmea.reader.line ++ [lf]) = .ignored)) ∨
    (s.nmea.reader.Completes c ∧
      svReports (s.addByte c rest now mnlProp).2 =
        (if (svEffect (s.nmea.reader.line ++ [lf]) s.nmea.svView).status.numSvs ≠ 0 ∧
            (rest.isEmpty || s.nmea.gpsNmeaEndTag) = true then
          [(svEffect (s.nmea.reader.line ++ [lf]) s.nmea.svView).status] else []) ∧
      (s.addByte c rest now mnlProp).1.svView =
        if (svEffect (s.nmea.reader.line ++ [lf]) s.nmea.svView).status.numSvs ≠ 0 ∧
            (rest.isEmpty || s.nmea.gpsNmeaEndTag) = true then
          (svEffect (s.nmea.reader.line ++ [lf]) s.nmea.svView).reported
        else svEffect (s.nmea.reader.line ++ [lf]) s.nmea.svView) :=
  nmeaReaderAddc_svView (show (s.parseEnv now mnlProp).callbacksSize = _ from rfl) _ c

/-- Without events, only the list matters. -/
theorem LegalInvariant.quiet {s next : ThreadState pf} {history : List (SvEvent pf)}
    (inv : LegalInvariant s history)
    (same : next.nmea.svView.status.svList = s.nmea.svView.status.svList) :
    LegalInvariant next (history ++ []) := by
  rw [append_nil]
  exact ⟨inv.reports, inv.legal.of_svList same⟩

/-- A sentence stores, and then there may be a report. -/
theorem LegalInvariant.sentence {s next : ThreadState pf} {history : List (SvEvent pf)}
    {line : List Byte} {tag : Bool} (inv : LegalInvariant s history)
    (no200 : ∀ e ∈ sentenceStores line s.nmea.svView, e.2 ≠ 200)
    (view : next.nmea.svView = if (svEffect line s.nmea.svView).status.numSvs ≠ 0 ∧ tag = true then
      (svEffect line s.nmea.svView).reported else svEffect line s.nmea.svView) :
    LegalInvariant next (history ++ ((sentenceStores line s.nmea.svView).map (fun e => .stored e.1 e.2) ++
      (if (svEffect line s.nmea.svView).status.numSvs ≠ 0 ∧ tag = true then
        [(svEffect line s.nmea.svView).status] else []).map .reported)) := by
  have after := svEffect_legalAt inv.legal no200
  have stored :
      Always ReportsLegal [] (history ++ (sentenceStores line s.nmea.svView).map fun e => .stored e.1 e.2) := by
    refine always_append.mpr ⟨inv.reports, always_of_forall fun e member _ => ?_⟩
    obtain ⟨pair, -, rfl⟩ := mem_map.mp member
    trivial
  rw [← writtenSince_stores] at after
  rw [← append_assoc]
  split at view
  · next reported =>
    rw [if_pos reported, map_singleton]
    refine ⟨always_append.mpr ⟨stored, always_cons.mpr ⟨?_, always_nil⟩⟩, ?_⟩
    · intro i member inside _
      exact after i member inside
    · rw [writtenSince, foldl_concat]
      exact fun i member => absurd member not_mem_nil
  · next silent =>
    rw [if_neg silent, map_nil, append_nil]
    exact ⟨stored, view ▸ after⟩

theorem LegalInvariant.kept {s next : ThreadState pf} {history out : List (SvEvent pf)}
    {a : ThreadAction}
    (inv : LegalInvariant s history) (none200 : ¬ Stores200 s a)
    (moved : (svThread pf).step s a = some (next, out)) :
    LegalInvariant next (history ++ out) := by
  obtain ⟨⟨last, shown⟩, stepped, same⟩ := Option.map_eq_some_iff.mp moved
  cases same
  dsimp only at stepped ⊢
  obtain ⟨cmd, rfl, -, rfl, rfl⟩ | ⟨c, rest, now, mnlProp, rfl, feeding, rfl, rfl⟩ | ⟨-, notByte, reader, used, -, -, rfl⟩ :=
    gpsStateThread_cases stepped
  · exact inv.quiet (s.command_svList cmd)
  · have stores : s.stores (.byte now mnlProp) =
        if s.nmea.reader.Completes c then sentenceStores (s.nmea.reader.line ++ [lf]) s.nmea.svView else [] := by
      simp only [ThreadState.stores, feeding]
    rw [filterMap_calls]
    rcases s.addByte_svView c rest now mnlProp with ⟨silent, view, ignored⟩ | ⟨completes, reports, view⟩
    · have nothing : s.stores (.byte now mnlProp) = [] := by
        rw [stores]
        split
        · next completes => exact if_neg (by rw [ignored completes]; decide)
        · rfl
      rw [nothing, silent]
      exact inv.quiet (congrArg (·.status.svList) view)
    · rw [if_pos completes] at stores
      rw [stores, reports]
      refine inv.sentence ?_ view
      rintro ⟨slot, prn⟩ member rfl
      exact none200 ⟨slot, stores ▸ member⟩
  · have nothing : s.stores a = [] := by
      cases a with
      | byte now mnlProp => exact absurd rfl (notByte now mnlProp)
      | control | gpsFd | read | readFails | hangUp | setPositionMode => rfl
    rw [nothing]
    apply inv.quiet
    rw [NmeaState.svView, reader]
    rfl

/-- In every run of the thread in which no sentence stores a satellite 200, the satellites reported that were stored since
the last report have legal numbers. -/
theorem svThread_reportsLegal {s t : ThreadState pf} {tape : List ThreadAction} {trace : List (SvEvent pf)}
    (none200 : (svThread pf).Permitted (fun s _ a => ¬ Stores200 s a) s [] tape)
    (ran : (svThread pf).run s tape = some (t, trace)) : Always ReportsLegal [] trace := by
  have start : LegalInvariant s [] := ⟨always_nil, fun i member => absurd member not_mem_nil⟩
  have kept : ∀ (s : ThreadState pf) history a next out, LegalInvariant s history →
      ¬ Stores200 s a →
      (svThread pf).step s a = some (next, out) → LegalInvariant next (history ++ out) :=
    fun s history a next out inv none200 stepped => inv.kept none200 stepped
  exact (System.run_invariant kept start none200 ran).reports

/-- A read of these bytes, one step a byte. -/
def readTape (bytes : List Byte) : List ThreadAction :=
  [.gpsFd, .read bytes] ++ List.replicate bytes.length (.byte 0 [])

/-- A group of one BeiDou satellite, given by its id. -/
def oneBeidou (id : List Char) : List Byte :=
  lit (['$', 'B', 'D', 'G', 'S', 'V', ',', '1', ',', '1', ',', '1', ','] ++ id ++
    [',', '4', '0', ',', '9', '0', ',', '3', '3', '\n'])

theorem stores200_iff {s : ThreadState pf} {a : ThreadAction} :
    (∃ e ∈ s.stores a, e.2 = 200) ↔ Stores200 s a := by
  constructor
  · rintro ⟨⟨slot, prn⟩, member, rfl⟩
    exact ⟨slot, member⟩
  · rintro ⟨slot, member⟩
    exact ⟨_, member, rfl⟩

instance (s : ThreadState pf) (a : ThreadAction) : Decidable (Stores200 s a) := decidable_of_iff _ stores200_iff

/-- A BeiDou satellite 7 is reported as 207. -/
theorem svThread_reportsLegal_207 : ∃ t trace, (svThread _).run freshThread (readTape (oneBeidou ['7'])) = some (t, trace) ∧
    (svThread _).Permitted (fun s _ a => ¬ Stores200 s a) freshThread [] (readTape (oneBeidou ['7'])) ∧
    Always ReportsLegal [] trace := by
  have clean :
      (svThread _).Permitted (fun s _ a => ¬ Stores200 s a) freshThread [] (readTape (oneBeidou ['7'])) := by
    decide +kernel
  have runs : ((svThread _).run freshThread (readTape (oneBeidou ['7']))).isSome = true := by
    decide +kernel
  obtain ⟨⟨t, trace⟩, ran⟩ := Option.isSome_iff_exists.mp runs
  exact ⟨t, trace, ran, clean, svThread_reportsLegal clean ran⟩

/-- A satellite 200 is stored in the first slot and reported. -/
def isReport200 : List (SvEvent pf) → Bool
  | [.stored 0 _, .reported status] =>
      if inside : 0 < pf.gnssMaxSvs then decide (status.svList[0].prn = 200 ∧ 0 < status.numSvs) else false
  | _ => false

theorem not_reportsLegal_of_isReport200 {trace : List (SvEvent pf)}
    (shown : isReport200 trace = true) :
    ¬ Always ReportsLegal [] trace := by
  intro legal
  unfold isReport200 at shown
  split at shown
  · next prn status =>
    split at shown
    · next inside =>
      obtain ⟨prn200, some⟩ := of_decide_eq_true shown
      have good :=
        legal [.stored 0 prn] (.reported status) [] rfl 0 (mem_singleton_self 0) inside some
      rw [prn200] at good
      exact absurd good (by decide)
    · contradiction
  · contradiction

/-- A BeiDou satellite with an empty id is reported as 200. -/
theorem svThread_reports_200 : ∃ t trace, (svThread _).run freshThread (readTape (oneBeidou [])) = some (t, trace) ∧
    ¬ Always ReportsLegal [] trace := by
  have runs :
      ((svThread _).run freshThread (readTape (oneBeidou []))).any (fun last => isReport200 last.2) = true := by
    decide +kernel
  obtain ⟨⟨t, trace⟩, ran, shown⟩ := (Option.any_eq_true _ _).mp runs
  exact ⟨t, trace, ran, not_reportsLegal_of_isReport200 shown⟩

end Thread

end Mt6582.Gps

import Mt6582.Ygps.Activity

/-! # Registration of the YGPS view listener

A restart takes the listener out of the parser's list at once and puts it back 600 ms later, by two messages. `onStop`
takes both messages off the queue, but not `HANDLE_SET_PARAM_RECONNECT`, which starts a restart while the activity is
stopped, and neither a click nor an auto-test thread looks whether an earlier restart still has its request ahead. The
listener is registered at most once, and not at all while the activity is stopped, as long as neither happens.
-/

namespace Mt6582.Ygps

open Machine

variable {L : Type} [DecidableEq L]

/-- The listener is in the parser's list at most once, and neither it nor the location updates survive `onStop`. -/
def YgpsActivity.ListenerOk (s : YgpsActivity L) : Prop :=
  s.mListener.count s.mNmeaUpdateListener ≤ 1 ∧
    (s.lifecycle = .stopped → s.mNmeaUpdateListener ∉ s.mListener ∧ s.updatesRequested = false)

/-- The process right before `onCreate`: the fields as they are declared, and a listener of its own. -/
structure YgpsActivity.Initial (s : YgpsActivity L) : Prop where
  queue : s.queue = []
  created : s.created = false
  lifecycle : s.lifecycle = .stopped
  listener : s.mNmeaUpdateListener ∉ s.mListener
  updatesRequested : s.updatesRequested = false
  mIsRunInBg : s.mIsRunInBg = false
  clickable : s.clickable = true
  buttons : s.btnGpsTestStart = true ∧ s.btnGpsTestStop = false
  mIsTestRunning : s.mIsTestRunning = false
  mIsForceStopGpsTest : s.mIsForceStopGpsTest = false
  handling : s.mStartPressedHandling = false ∧ s.mStopPressedHandling = false
  threads : s.threads = []

def TestPoint.Resets : TestPoint → Bool
  | .resetParam _ => true
  | _ => false

/-- The step posts the messages of a restart. -/
def YgpsActivity.PostsRestart (s : YgpsActivity L) : YgpsAction → Bool
  | .restartClick _ => !s.mIsTestRunning
  | .thread k => s.threads[k]?.any fun thread => thread.point.Resets && !s.mIsForceStopGpsTest
  | .dispatch => s.queue.head?.any fun p => p.what = .setParamReconnect
  | _ => false

/-- The activity is started and no earlier restart has its request still to come. -/
def YgpsActivity.Apart (s : YgpsActivity L) : Prop :=
  s.lifecycle = .started ∧ ∀ p ∈ s.queue, p.what = .requestUpdate → p.due ≤ s.now

instance (s : YgpsActivity L) : Decidable s.Apart := inferInstanceAs (Decidable (_ ∧ _))

/-- A restart is posted only apart from every other. -/
def RestartsApart (s : YgpsActivity L) (_ : List (List GpsExtra)) (a : YgpsAction) : Prop := s.PostsRestart a → s.Apart

instance (s : YgpsActivity L) (history : List (List GpsExtra)) (a : YgpsAction) :
    Decidable (RestartsApart s history a) := inferInstanceAs (Decidable (_ → _))

/-- What a message does to the number of times the listener is registered. -/
def registrations (n : Nat) : Message → Nat
  | .removeUpdate => n - 1
  | .requestUpdate => n + 1
  | _ => n

/-- The message registers nothing and removes nothing. -/
def Message.Plain : Message → Prop
  | .removeUpdate | .requestUpdate => False
  | _ => True

/-! ## The queue of a looper that registers and removes -/

section Queue

variable {queue front back : List (Timed Message)} {m : Timed Message} {now n k : Nat} {what : Message}

theorem Message.plain_iff : what.Plain ↔ what ≠ .removeUpdate ∧ what ≠ .requestUpdate := by
  cases what <;> simp [Plain]

theorem Message.Plain.idle (plain : what.Plain) : Idle registrations what := by
  intro n
  cases what with
  | removeUpdate => exact plain.elim
  | requestUpdate => exact plain.elim
  | _ => rfl

theorem idle_of_plain (plain : ∀ p ∈ queue, p.what.Plain) :
    ∀ a ∈ queue.map (·.what), Idle registrations a := by
  intro a listed
  obtain ⟨p, member, rfl⟩ := List.mem_map.mp listed
  exact (plain p member).idle

theorem registrations_le (other : what ≠ .requestUpdate) (n : Nat) : registrations n what ≤ n := by
  cases what with
  | removeUpdate => exact Nat.sub_le n 1
  | requestUpdate => exact absurd rfl other
  | _ => exact Nat.le_refl n

/-- Without requests the number can only fall. -/
theorem along_of_noRequest (bound : n ≤ 1) (none : ∀ p ∈ queue, p.what ≠ .requestUpdate) :
    Along registrations (· ≤ 1) n (queue.map (·.what)) := by
  induction queue generalizing n with
  | nil => exact bound
  | cons p queue ih =>
    refine ⟨bound, ih ?_ fun q member => none q (List.mem_cons_of_mem p member)⟩
    exact (registrations_le (none p List.mem_cons_self) n).trans bound

/-- Every message that is due has been counted in, none is registered after them, and the rest changes nothing. -/
def Vacated (now n : Nat) (queue : List (Timed Message)) : Prop :=
  ∃ front back, queue = front ++ back ∧ (∀ p ∈ front, p.due ≤ now) ∧ (∀ p ∈ back, p.what.Plain) ∧
    Along registrations (· ≤ 1) n (front.map (·.what)) ∧ (front.map (·.what)).foldl registrations n = 0

theorem Vacated.post (vacated : Vacated now n queue) (late : now ≤ m.due) (plain : m.what.Plain) :
    Vacated now n (enqueue queue m) := by
  obtain ⟨front, back, rfl, early, rest, along, level⟩ := vacated
  refine ⟨front, enqueue back m, enqueue_append fun p member => (early p member).trans late, early, ?_, along, level⟩
  intro p member
  rcases mem_enqueue.mp member with rfl | member
  · exact plain
  · exact rest p member

theorem Vacated.request (vacated : Vacated now n queue) (late : now ≤ m.due)
    (request : m.what = .requestUpdate) :
    Along registrations (· ≤ 1) n ((enqueue queue m).map (·.what)) := by
  obtain ⟨front, back, rfl, early, rest, along, level⟩ := vacated
  obtain ⟨soon, later, rfl, inserted⟩ := enqueue_split back m
  have idle := idle_of_plain fun p member => rest p (List.mem_append_left later member)
  have idle' := idle_of_plain fun p member => rest p (List.mem_append_right soon member)
  rw [enqueue_append fun p member => (early p member).trans late, inserted, List.map_append,
    List.map_append, along_append, along_append, level, List.map_cons, request]
  refine ⟨along, (along_idle idle).mpr (Nat.zero_le 1), ?_⟩
  rw [foldl_idle idle]
  exact ⟨Nat.zero_le 1, (along_idle idle').mpr (Nat.le_refl 1)⟩

/-- Of the pending requests, `k` or more come after every pending removal. -/
structure Ahead (now : Nat) (queue : List (Timed Message)) (k : Nat) : Prop where
  order : InOrder queue
  removes : ∀ p ∈ queue, p.what = .removeUpdate → p.due ≤ now
  requests : k ≤ queue.countP fun p => p.what = .requestUpdate ∧ now < p.due

theorem removes_enqueue (removes : ∀ p ∈ queue, p.what = .removeUpdate → p.due ≤ now)
    (due : m.what = .removeUpdate → m.due ≤ now) : ∀ p ∈ enqueue queue m, p.what = .removeUpdate →
      p.due ≤ now := by
  intro p member
  rcases mem_enqueue.mp member with rfl | member
  · exact due
  · exact removes p member

theorem countP_enqueue (test : Timed Message → Bool) :
    (enqueue queue m).countP test = queue.countP test + if test m then 1 else 0 := by
  rw [enqueue, (queue.perm_orderedInsert _ m).countP_eq, List.countP_cons]

theorem Ahead.post (ahead : Ahead now queue k) (due : m.what = .removeUpdate → m.due ≤ now) :
    Ahead now (enqueue queue m) k := by
  refine ⟨ahead.order.enqueue m, removes_enqueue ahead.removes due, ?_⟩
  rw [countP_enqueue]
  exact ahead.requests.trans (Nat.le_add_right _ _)

theorem Ahead.request (ahead : Ahead now queue k) {due : Nat} (late : now < due) :
    Ahead now (enqueue queue ⟨.requestUpdate, due⟩) (k + 1) := by
  refine ⟨ahead.order.enqueue _, removes_enqueue ahead.removes (by simp), ?_⟩
  rw [countP_enqueue]
  simpa [late] using ahead.requests

/-- Without removals every request counts. -/
theorem foldl_of_noRemove (none : ∀ p ∈ queue, p.what ≠ .removeUpdate) :
    (queue.map (·.what)).foldl registrations n = n + queue.countP (·.what = .requestUpdate) := by
  induction queue generalizing n with
  | nil => rfl
  | cons p queue ih =>
    have other := none p List.mem_cons_self
    have tail := @ih (registrations n p.what) fun q member => none q (List.mem_cons_of_mem p member)
    rw [List.map_cons, List.foldl_cons, tail, List.countP_cons]
    cases what_ : p.what with
    | removeUpdate => exact absurd what_ other
    | requestUpdate => simp only [registrations, decide_true, if_true]; omega
    | _ => simp [registrations]

/-- Once the whole queue has been taken, the listener is registered for each of these requests. -/
theorem Ahead.level (ahead : Ahead now queue k) (n : Nat) :
    k ≤ (queue.map (·.what)).foldl registrations n := by
  obtain ⟨front, back, rfl, early, late⟩ := ahead.order.split now
  have none (p) (member : p ∈ back) : p.what ≠ .removeUpdate := fun removes =>
    absurd (ahead.removes p (List.mem_append_right front member) removes) (Nat.not_le.mpr (late p member))
  have requests := ahead.requests
  have due : front.countP (fun p => p.what = .requestUpdate ∧ now < p.due) = 0 := by
    simp only [List.countP_eq_zero, decide_eq_true_eq, not_and, Nat.not_lt]
    exact fun p member _ => early p member
  have weaker :
      back.countP (fun p => p.what = .requestUpdate ∧ now < p.due) ≤ back.countP (·.what = .requestUpdate) := by
    apply List.countP_mono_left
    simp only [decide_eq_true_eq]
    exact fun p _ both => both.1
  rw [List.countP_append, due, Nat.zero_add] at requests
  rw [List.map_append, List.foldl_append, foldl_of_noRemove none]
  omega

end Queue

/-! ## The invariant and what each operation does to it -/

/-- The pending messages never bring the number of registrations above one, and outside of a started activity there is none,
nor a message that would make one. -/
structure Registered (view : L) (now : Nat) (queue : List (Timed Message)) (lifecycle : Lifecycle) (listeners : List L)
    (requested : Bool) : Prop where
  order : InOrder queue
  removes : ∀ p ∈ queue, p.what = .removeUpdate → p.due ≤ now
  once : Along registrations (· ≤ 1) (listeners.count view) (queue.map (·.what))
  quiet : lifecycle ≠ .started →
    listeners.count view = 0 ∧ requested = false ∧ ∀ p ∈ queue, p.what ≠ .requestUpdate

def YgpsActivity.Invariant (s : YgpsActivity L) : Prop :=
  s.mIsRunInBg = false ∧
    Registered s.mNmeaUpdateListener s.now s.queue s.lifecycle s.mListener s.updatesRequested

namespace Registered

variable {view : L} {now : Nat} {queue rest : List (Timed Message)} {lifecycle : Lifecycle} {listeners : List L}
  {requested : Bool} {m : Timed Message}

theorem post (reg : Registered view now queue lifecycle listeners requested)
    (plain : m.what.Plain) :
    Registered view now (enqueue queue m) lifecycle listeners requested where
  order := reg.order.enqueue m
  removes := removes_enqueue reg.removes fun removes =>
    absurd removes (Message.plain_iff.mp plain).1
  once := by
    obtain ⟨front, back, rfl, inserted⟩ := enqueue_split queue m
    rw [inserted, List.map_append, List.map_cons, along_insert plain.idle, ← List.map_append]
    exact reg.once
  quiet stopped := by
    obtain ⟨none, idle, others⟩ := reg.quiet stopped
    refine ⟨none, idle, fun p member => ?_⟩
    rcases mem_enqueue.mp member with rfl | member
    · exact (Message.plain_iff.mp plain).2
    · exact others p member

/-- A removal that goes behind everything due, with no request to come, leaves nothing registered. -/
theorem vacated (reg : Registered view now queue lifecycle listeners requested)
    (apart : ∀ p ∈ queue, p.what = .requestUpdate → p.due ≤ now) :
    Vacated now (listeners.count view) (enqueue queue ⟨.removeUpdate, now⟩) := by
  have once := reg.once
  obtain ⟨front, back, rfl, early, late⟩ := reg.order.split now
  rw [List.map_append, along_append] at once
  refine ⟨front ++ [⟨.removeUpdate, now⟩], back, ?_, ?_, ?_, ?_, ?_⟩
  · rw [enqueue_append early, enqueue_first late, List.append_assoc, List.singleton_append]
  · intro p member
    rcases List.mem_append.mp member with member | member
    · exact early p member
    · rw [List.mem_singleton.mp member]
  · intro p member
    have later := Nat.not_le.mpr (late p member)
    have inQueue := List.mem_append_right front member
    exact Message.plain_iff.mpr
      ⟨fun removes => later (reg.removes p inQueue removes), fun requests => later (apart p inQueue requests)⟩
  · rw [List.map_append, along_append]
    exact ⟨once.1, once.2.here, (Nat.sub_le _ 1).trans once.2.here⟩
  · have bound := once.2.here
    rw [List.map_append, List.foldl_append]
    exact Nat.sub_eq_zero_of_le bound

theorem restart (reg : Registered view now queue .started listeners requested)
    (apart : ∀ p ∈ queue, p.what = .requestUpdate → p.due ≤ now) (extras : List GpsExtra) :
    Registered view now (enqueue (enqueue (enqueue queue ⟨.removeUpdate, now⟩) ⟨.deleteData extras, now + 300⟩)
      ⟨.requestUpdate, now + 600⟩) .started listeners false where
  order := ((reg.order.enqueue _).enqueue _).enqueue _
  removes := by
    apply removes_enqueue (m := ⟨.requestUpdate, now + 600⟩)
    · apply removes_enqueue (m := ⟨.deleteData extras, now + 300⟩)
      · exact removes_enqueue reg.removes fun _ => Nat.le_refl now
      · exact fun impossible => by cases impossible
    · exact fun impossible => by cases impossible
  once := by
    have vacant :=
      (reg.vacated apart).post (m := ⟨.deleteData extras, now + 300⟩) (Nat.le_add_right now 300)
      trivial
    exact vacant.request (Nat.le_add_right now 600) rfl
  quiet stopped := absurd rfl stopped

theorem tick (reg : Registered view now queue lifecycle listeners requested) (elapsed : Nat) :
    Registered view (now + elapsed) queue lifecycle listeners requested :=
  { reg with removes := fun p member removes => (reg.removes p member removes).trans (Nat.le_add_right now elapsed) }

/-- A message has been taken, and the list has changed as `registrations` says. -/
theorem pop (reg : Registered view now (m :: rest) lifecycle listeners requested)
    {listeners' : List L}
    (count : listeners'.count view = registrations (listeners.count view) m.what)
    (other : m.what ≠ .requestUpdate) :
    Registered view now rest lifecycle listeners' requested where
  order := (List.pairwise_cons.mp reg.order).2
  removes p member := reg.removes p (List.mem_cons_of_mem m member)
  once := by
    rw [count]
    exact reg.once.2
  quiet stopped := by
    obtain ⟨none, idle, others⟩ := reg.quiet stopped
    refine ⟨?_, idle, fun p member => others p (List.mem_cons_of_mem m member)⟩
    rw [count, none]
    exact Nat.le_zero.mp (registrations_le other 0)

theorem popPlain (reg : Registered view now (m :: rest) lifecycle listeners requested)
    (plain : m.what.Plain) :
    Registered view now rest lifecycle listeners requested := 
  reg.pop (plain.idle _).symm (Message.plain_iff.mp plain).2

theorem popRequest (reg : Registered view now (m :: rest) lifecycle listeners requested)
    (request : m.what = .requestUpdate) :
    Registered view now rest lifecycle (listeners ++ [view]) true where
  order := (List.pairwise_cons.mp reg.order).2
  removes p member := reg.removes p (List.mem_cons_of_mem m member)
  once := by
    have after := reg.once.2
    simp only [request, registrations] at after
    rwa [List.count_append, List.count_singleton_self]
  quiet stopped := absurd request ((reg.quiet stopped).2.2 m List.mem_cons_self)

theorem stop (reg : Registered view now queue lifecycle listeners requested) :
    Registered view now (queue.filter fun p => !YgpsActivity.RestartMsg p.what) .stopped (listeners.erase view) false := by
  have kept (p) (member : p ∈ queue.filter fun p => !YgpsActivity.RestartMsg p.what) :
      p.what.Plain := by
    have test := (List.mem_filter.mp member).2
    exact Message.plain_iff.mpr ⟨fun removes => by simp [removes, YgpsActivity.RestartMsg] at test,
      fun requests => by simp [requests, YgpsActivity.RestartMsg] at test⟩
  have none : (listeners.erase view).count view = 0 := by
    rw [List.count_erase_self]
    exact Nat.sub_eq_zero_of_le reg.once.here
  refine ⟨reg.order.filter _, fun p member => reg.removes p (List.mem_of_mem_filter member), ?_,
    fun _ => ?_⟩
  · rw [none, along_idle (idle_of_plain kept)]
    exact Nat.zero_le 1
  · exact ⟨none, rfl, fun p member => (Message.plain_iff.mp (kept p member)).2⟩

theorem start (reg : Registered view now queue lifecycle listeners requested)
    (stopped : lifecycle ≠ .started) :
    Registered view now queue .started (listeners ++ [view]) true := by
  obtain ⟨none, -, others⟩ := reg.quiet stopped
  refine ⟨reg.order, reg.removes, along_of_noRequest ?_ others, fun impossible => absurd rfl impossible⟩
  rw [List.count_append, none, List.count_singleton_self]

end Registered

namespace YgpsActivity

variable {s next : YgpsActivity L} {what : Message}

theorem Invariant.sendMessageDelayed (inv : s.Invariant) (plain : what.Plain) (delay : Nat) :
    (s.sendMessageDelayed what delay).Invariant := ⟨inv.1, inv.2.post plain⟩

theorem Invariant.sendMessage (inv : s.Invariant) (plain : what.Plain) :
    (s.sendMessage what).Invariant :=
  inv.sendMessageDelayed plain 0

theorem Invariant.resetParamForAutoTest (inv : s.Invariant) (apart : s.Apart)
    (extras : List GpsExtra) :
    (s.resetParamForAutoTest extras).Invariant := by
  obtain ⟨background, reg⟩ := inv
  obtain ⟨started, apart⟩ := apart
  refine ⟨background, ?_⟩
  rw [started] at reg
  have after := reg.restart apart extras
  rw [← started] at after
  exact after

theorem Invariant.resetParamForRestart (inv : s.Invariant) (apart : s.Apart)
    (extras : List GpsExtra) :
    (s.resetParamForRestart extras).Invariant :=
  (inv.resetParamForAutoTest apart extras).sendMessageDelayed (by trivial) 900

theorem Invariant.stopGPSAutoTest (inv : s.Invariant) : s.stopGPSAutoTest.Invariant := by
  apply Invariant.sendMessage
  · exact inv
  · exact trivial

theorem Invariant.startGPSAutoTest (inv : s.Invariant) (times interval : Option Nat)
    (need3DFix : Bool) :
    (s.startGPSAutoTest times interval need3DFix).Invariant := by
  rw [YgpsActivity.startGPSAutoTest]
  split
  · exact inv
  · split
    · exact inv
    · dsimp only
      split <;> exact inv

theorem Invariant.testStep (inv : s.Invariant) {thread : AutoTestThread}
    {left : Option AutoTestThread}
    (apart : thread.point.Resets → s.mIsForceStopGpsTest = false → s.Apart)
    (stepped : s.testStep thread = some (next, left)) : next.Invariant := by
  rw [YgpsActivity.testStep] at stepped
  cases point : thread.point with
  | run =>
    simp only [point, Option.some.injEq, Prod.mk.injEq] at stepped
    rw [← stepped.1]
    exact inv.sendMessage trivial
  | loop i =>
    simp only [point] at stepped
    split at stepped <;> (cases stepped)
    · apply Invariant.sendMessage
      · exact inv
      · exact trivial
    · exact inv
  | resetParam i =>
    simp only [point] at stepped
    split at stepped
    · cases stepped
      exact inv
    · next unforced =>
      have after := inv.resetParamForAutoTest
        (apart (by rw [point]; rfl) (Bool.eq_false_iff.mpr unforced)) thread.extras
      split at stepped <;> (cases stepped; exact after)
  | waitInterval i left =>
    simp only [point] at stepped
    split at stepped
    · cases stepped
      exact inv.sendMessage trivial
    · split at stepped
      · cases stepped
        exact inv
      · cases stepped
        exact inv.sendMessage trivial
  | waitFix i =>
    simp only [point] at stepped
    split at stepped <;> (cases stepped; exact inv)
  | wait3DFix i begin =>
    simp only [point] at stepped
    split at stepped
    · cases stepped
      exact inv
    · split at stepped
      · cases stepped
        exact inv.sendMessage trivial
      · cases stepped
  | stopTest =>
    simp only [point] at stepped
    split at stepped <;> (cases stepped)
    · exact inv
    · exact inv.stopGPSAutoTest
  | finish =>
    simp only [point, Option.some.injEq, Prod.mk.injEq] at stepped
    rw [← stepped.1]
    exact inv.sendMessage trivial

theorem Invariant.handleMessage (inv : s.Invariant) {p : Timed Message}
    {rest : List (Timed Message)} (queue : s.queue = p :: rest)
    (apart : p.what = .setParamReconnect → s.Apart) :
    ({ s with queue := rest }.handleMessage p.what).1.Invariant := by
  obtain ⟨background, reg⟩ := inv
  rw [queue] at reg
  have plainly (plain : p.what.Plain) : { s with queue := rest }.Invariant :=
    ⟨background, reg.popPlain plain⟩
  cases what : p.what with
  | counter =>
    dsimp only [YgpsActivity.handleMessage]
    have popped := plainly (what ▸ trivial)
    split
    · exact popped
    · exact popped.sendMessageDelayed (by trivial) 500
  | checkSatereport =>
    dsimp only [YgpsActivity.handleMessage]
    have popped := plainly (what ▸ trivial)
    apply Invariant.sendMessageDelayed
    · split
      · apply Invariant.sendMessage
        · exact popped
        · exact trivial
      · exact popped
    · exact trivial
  | removeUpdate =>
    have popped : ({ s with queue := rest } : YgpsActivity L).removeNmeaParser.Invariant :=
      ⟨background, reg.pop (by rw [what]; exact List.count_erase_self) (by simp [what])⟩
    dsimp only [YgpsActivity.handleMessage]
    split
    · exact popped
    · apply Invariant.sendMessage
      · exact popped
      · exact trivial
  | requestUpdate => exact ⟨background, reg.popRequest what⟩
  | startButtonUpdate enable =>
    dsimp only [YgpsActivity.handleMessage]
    have popped := plainly (what ▸ trivial)
    split <;> exact popped
  | setParamReconnect =>
    dsimp only [YgpsActivity.handleMessage]
    obtain ⟨started, apart⟩ := apart what
    have popped := plainly (what ▸ trivial)
    have apart' : ({ s with queue := rest } : YgpsActivity L).Apart :=
      ⟨started, fun q member => apart q (queue ▸ List.mem_cons_of_mem p member)⟩
    have after := popped.resetParamForRestart apart' [.ephemeris]
    split
    · exact after
    · exact after.sendMessage trivial
  | _ => exact plainly (what ▸ trivial)

theorem dispatch_some {out : List (List GpsExtra)} (stepped : s.dispatch = some (next, out)) :
    ∃ p rest, s.queue = p :: rest ∧ p.due ≤ s.now ∧
      { s with queue := rest }.handleMessage p.what = (next, out) := by
  rw [dispatch] at stepped
  cases queue : s.queue with
  | nil => simp [queue] at stepped
  | cons p rest =>
    simp only [queue] at stepped
    obtain ⟨due, same⟩ := Option.ite_none_right_eq_some.mp stepped
    exact ⟨p, rest, rfl, due, Option.some.inj same⟩

omit [DecidableEq L] in
theorem threadStep_some {k : Nat} (stepped : s.threadStep k = some next) :
    ∃ thread after left, s.threads[k]? = some thread ∧ s.testStep thread = some (after, left) ∧
      next = { after with threads := s.threads.take k ++ left.toList ++ s.threads.drop (k + 1) } := by
  obtain ⟨thread, found, woken⟩ := Option.bind_eq_some_iff.mp stepped
  obtain ⟨-, moved⟩ := Option.ite_none_right_eq_some.mp woken
  obtain ⟨⟨after, left⟩, block, same⟩ := Option.map_eq_some_iff.mp moved
  exact ⟨thread, after, left, found, block, same.symm⟩

theorem Invariant.step (inv : s.Invariant) {a : YgpsAction} {out : List (List GpsExtra)}
    (apart : s.PostsRestart a → s.Apart) (stepped : s.step a = some (next, out)) :
    next.Invariant := by
  cases a with
  | onCreate =>
    obtain ⟨⟨stopped, -⟩, same⟩ := Option.ite_none_right_eq_some.mp stepped
    cases same
    have sent :=
      (inv.sendMessage (by trivial : Message.counter.Plain)).sendMessage (by trivial : Message.checkSatereport.Plain)
    exact ⟨inv.1, sent.2.start (show s.lifecycle ≠ .started by rw [stopped]; decide)⟩
  | onStop =>
    obtain ⟨-, same⟩ := Option.ite_none_right_eq_some.mp stepped
    cases same
    rw [YgpsActivity.onStop, if_neg (by simp [inv.1])]
    exact ⟨inv.1, inv.2.stop⟩
  | onRestart =>
    obtain ⟨⟨stopped, -⟩, same⟩ := Option.ite_none_right_eq_some.mp stepped
    cases same
    rw [YgpsActivity.onRestart, if_neg (by simp [inv.1])]
    exact ⟨inv.1, inv.2.start (by rw [stopped]; decide)⟩
  | restartClick button =>
    obtain ⟨-, same⟩ := Option.ite_none_right_eq_some.mp stepped
    cases same
    rw [YgpsActivity.restartClick]
    split
    · exact inv
    · next idle =>
      have enabled : (s.enableBtns false).Invariant := inv
      exact enabled.resetParamForRestart (apart (by simp [PostsRestart, idle])) button.extras
  | startClick times interval need3DFix =>
    obtain ⟨-, same⟩ := Option.ite_none_right_eq_some.mp stepped
    cases same
    apply Invariant.startGPSAutoTest
    apply Invariant.sendMessageDelayed
    · exact inv
    · trivial
  | stopClick =>
    obtain ⟨-, same⟩ := Option.ite_none_right_eq_some.mp stepped
    cases same
    rw [YgpsActivity.stopClick]
    dsimp only
    split <;> exact inv
  | selectTest type =>
    obtain ⟨-, same⟩ := Option.ite_none_right_eq_some.mp stepped
    cases same
    exact inv
  | firstFix =>
    obtain ⟨-, same⟩ := Option.ite_none_right_eq_some.mp stepped
    cases same
    exact inv
  | viewUpdate =>
    obtain ⟨-, same⟩ := Option.ite_none_right_eq_some.mp stepped
    cases same
    exact inv
  | thread k =>
    obtain ⟨last, moved, same⟩ := Option.map_eq_some_iff.mp stepped
    cases same
    obtain ⟨thread, after, left, found, block, rfl⟩ := threadStep_some moved
    apply inv.testStep _ block
    exact fun resets unforced => apart (by simp [PostsRestart, found, resets, unforced])
  | dispatch =>
    obtain ⟨p, rest, queue, -, stepped⟩ := dispatch_some stepped
    have after := inv.handleMessage queue fun reconnect =>
      apart (by simp [PostsRestart, queue, reconnect])
    rwa [stepped] at after
  | tick elapsed =>
    cases stepped
    exact ⟨inv.1, inv.2.tick elapsed⟩

/-! ## Taking every message of the queue -/

/-- What handling a message leaves alone, what it does to the list, and that it posts for now or later. -/
structure Handled (s next : YgpsActivity L) (what : Message) : Prop where
  now : next.now = s.now
  lifecycle : next.lifecycle = s.lifecycle
  count : next.mListener.count next.mNmeaUpdateListener =
    registrations (s.mListener.count s.mNmeaUpdateListener) what
  queue : ∃ posts : List (Timed Message), (∀ p ∈ posts, s.now ≤ p.due) ∧ next.queue = posts.foldl enqueue s.queue

theorem handleMessage_handled (s : YgpsActivity L) (what : Message) :
    Handled s (s.handleMessage what).1 what := by
  have silent : ∃ posts : List (Timed Message), (∀ p ∈ posts, s.now ≤ p.due) ∧
      s.queue = posts.foldl enqueue s.queue :=
    ⟨[], by simp, rfl⟩
  cases what with
  | counter =>
    dsimp only [handleMessage]
    split
    · exact ⟨rfl, rfl, rfl, silent⟩
    · exact ⟨rfl, rfl, rfl, [⟨.counter, s.now + 500⟩], by simp, rfl⟩
  | checkSatereport =>
    dsimp only [handleMessage]
    split
    · exact ⟨rfl, rfl, rfl, [⟨.clear, s.now⟩, ⟨.checkSatereport, s.now + 1000⟩], by simp, rfl⟩
    · exact ⟨rfl, rfl, rfl, [⟨.checkSatereport, s.now + 1000⟩], by simp, rfl⟩
  | removeUpdate =>
    dsimp only [handleMessage]
    split
    · exact ⟨rfl, rfl, List.count_erase_self, silent⟩
    · exact ⟨rfl, rfl, List.count_erase_self, [⟨.counter, s.now⟩], by simp, rfl⟩
  | requestUpdate =>
    refine ⟨rfl, rfl, ?_, silent⟩
    exact (List.count_append ..).trans (congrArg _ List.count_singleton_self)
  | startButtonUpdate enable =>
    dsimp only [handleMessage]
    split <;> exact ⟨rfl, rfl, rfl, silent⟩
  | setParamReconnect =>
    dsimp only [handleMessage]
    split
    · exact ⟨rfl, rfl, rfl, [⟨.removeUpdate, s.now⟩, ⟨.deleteData [.ephemeris], s.now + 300⟩,
        ⟨.requestUpdate, s.now + 600⟩, ⟨.enableButton, s.now + 900⟩], by simp, rfl⟩
    · exact ⟨rfl, rfl, rfl, [⟨.removeUpdate, s.now⟩, ⟨.deleteData [.ephemeris], s.now + 300⟩,
        ⟨.requestUpdate, s.now + 600⟩, ⟨.enableButton, s.now + 900⟩,
        ⟨.startButtonUpdate true, s.now⟩], by simp, rfl⟩
  | _ => exact ⟨rfl, rfl, rfl, silent⟩

/-- The looper can take all that is due, one message after another. -/
theorem drain (front back : List (Timed Message)) (s : YgpsActivity L)
    (queue : s.queue = front ++ back) (due : ∀ p ∈ front, p.due ≤ s.now) :
    ∃ tape t out, ygps.run s tape = some (t, out) ∧ t.lifecycle = s.lifecycle ∧
      t.mListener.count t.mNmeaUpdateListener =
        (front.map (·.what)).foldl registrations (s.mListener.count s.mNmeaUpdateListener) := by
  induction front generalizing s back with
  | nil => exact ⟨[], s, [], rfl, rfl, rfl⟩
  | cons p front ih =>
    have handled := handleMessage_handled { s with queue := front ++ back } p.what
    have stepped :
        ygps.step s .dispatch = some ({ s with queue := front ++ back }.handleMessage p.what) := by
      simp only [ygps, step, dispatch, queue, List.cons_append, if_pos (due p List.mem_cons_self)]
    generalize { s with queue := front ++ back }.handleMessage p.what = next at handled stepped
    obtain ⟨posts, fresh, posted⟩ := handled.queue
    have early (q) (member : q ∈ front) : q.due ≤ s.now := due q (List.mem_cons_of_mem p member)
    rw [enqueue_all early fresh] at posted
    obtain ⟨tape, t, out, ran, life, count⟩ := ih _ next.1 posted fun q member =>
      (early q member).trans_eq handled.now.symm
    refine ⟨.dispatch :: tape, t, next.2 ++ out,
      System.run_cons_iff.mpr ⟨_, _, _, stepped, ran, rfl⟩, ?_, ?_⟩
    · exact life.trans handled.lifecycle
    · rw [count, handled.count, List.map_cons, List.foldl_cons]

/-! ## Restarts that are not apart -/

section Overlap

variable {k : Nat} {a : YgpsAction} {out : List (List GpsExtra)}

omit [DecidableEq L] in
theorem resetParamForAutoTest_ahead (extras : List GpsExtra) (ahead : Ahead s.now s.queue k) :
    Ahead s.now (s.resetParamForAutoTest extras).queue (k + 1) := by
  apply Ahead.request _ (Nat.lt_add_of_pos_right (by decide))
  apply Ahead.post _ fun impossible => by cases impossible
  exact ahead.post fun _ => Nat.le_refl s.now

omit [DecidableEq L] in
theorem resetParamForRestart_ahead (extras : List GpsExtra) (ahead : Ahead s.now s.queue k) :
    Ahead s.now (s.resetParamForRestart extras).queue (k + 1) := by
  apply Ahead.post _ fun impossible => by cases impossible
  exact resetParamForAutoTest_ahead extras ahead

omit [DecidableEq L] in
theorem testStep_ahead {thread : AutoTestThread} {left : Option AutoTestThread}
    (ahead : Ahead s.now s.queue k) (resets : thread.point.Resets)
    (unforced : s.mIsForceStopGpsTest = false) (stepped : s.testStep thread = some (next, left)) :
    Ahead s.now next.queue (k + 1) ∧ next.now = s.now ∧ next.lifecycle = s.lifecycle := by
  rw [testStep] at stepped
  cases point : thread.point with
  | resetParam i =>
    have after := resetParamForAutoTest_ahead thread.extras ahead
    simp only [point, unforced, Bool.false_eq_true, if_false] at stepped
    split at stepped <;> (cases stepped; exact ⟨after, rfl, rfl⟩)
  | _ => simp [point, TestPoint.Resets] at resets

theorem handleMessage_ahead {rest : List (Timed Message)} (ahead : Ahead s.now rest k) :
    Ahead s.now ({ s with queue := rest }.handleMessage .setParamReconnect).1.queue (k + 1) := by
  have after :=
    resetParamForRestart_ahead (s := { s with queue := rest }.enableBtns false) [.ephemeris] ahead
  dsimp only [handleMessage]
  split
  · exact after
  · exact after.post fun impossible => by cases impossible

/-- A step that posts a restart puts one more request behind every removal. -/
theorem postsRestart_ahead (posts : s.PostsRestart a) (stepped : s.step a = some (next, out))
    (ahead : Ahead s.now s.queue k) :
    Ahead s.now next.queue (k + 1) ∧ next.now = s.now ∧ next.lifecycle = s.lifecycle := by
  cases a with
  | restartClick button =>
    obtain ⟨-, same⟩ := Option.ite_none_right_eq_some.mp stepped
    cases same
    have idle : s.mIsTestRunning = false := by simpa [PostsRestart] using posts
    have after := resetParamForRestart_ahead (s := s.enableBtns false) button.extras ahead
    rw [restartClick, if_neg (by simp [idle])]
    exact ⟨after, rfl, rfl⟩
  | thread k =>
    obtain ⟨last, moved, same⟩ := Option.map_eq_some_iff.mp stepped
    cases same
    obtain ⟨thread, after, left, found, block, rfl⟩ := threadStep_some moved
    have both :
        thread.point.Resets ∧ s.mIsForceStopGpsTest = false := by
      simpa [PostsRestart, found] using posts
    have moved := testStep_ahead ahead both.1 both.2 block
    exact moved
  | dispatch =>
    obtain ⟨p, rest, queue, -, handled⟩ := dispatch_some stepped
    have reconnect : p.what = .setParamReconnect := by simpa [PostsRestart, queue] using posts
    have frame := handleMessage_handled { s with queue := rest } p.what
    have tail : Ahead s.now rest k := by
      rw [queue] at ahead
      refine ⟨(List.pairwise_cons.mp ahead.order).2,
        fun q member => ahead.removes q (List.mem_cons_of_mem p member), ?_⟩
      simpa [List.countP_cons, reconnect] using ahead.requests
    have after := handleMessage_ahead tail
    rw [reconnect] at frame handled
    rw [handled] at frame after
    exact ⟨after, frame.now, frame.lifecycle⟩
  | _ => simp [PostsRestart] at posts

/-- A restart that is not apart from the others ends with two registrations, or with one in a stopped activity. -/
theorem not_apart_breaks (inv : s.Invariant) (posts : s.PostsRestart a)
    (stepped : s.step a = some (next, out)) (close : ¬ s.Apart) :
    ∃ tape t later, ygps.run next tape = some (t, later) ∧ ¬ t.ListenerOk := by
  have base : Ahead s.now s.queue 0 := ⟨inv.2.order, inv.2.removes, Nat.zero_le _⟩
  obtain ⟨latest, due⟩ := exists_due next.queue
  obtain ⟨k, ahead, life, bad⟩ :
    ∃ k, Ahead s.now next.queue (k + 1) ∧ next.lifecycle = s.lifecycle ∧
      (s.lifecycle = .started → 0 < k) := by
    rcases Decidable.em (s.lifecycle = .started) with started | stopped
    · have request : ∃ p ∈ s.queue, p.what = .requestUpdate ∧ s.now < p.due := by
        simpa [Apart, started] using close
      obtain ⟨after, -, life⟩ := postsRestart_ahead posts stepped
        ⟨inv.2.order, inv.2.removes, List.countP_pos_iff.mpr (by simpa using request)⟩
      exact ⟨1, after, life, fun _ => Nat.one_pos⟩
    · obtain ⟨after, -, life⟩ := postsRestart_ahead posts stepped base
      exact ⟨0, after, life, fun started => absurd started stopped⟩
  obtain ⟨tape, t, later, ran, life', count⟩ :=
    drain next.queue [] { next with now := next.now + latest }
    (List.append_nil _).symm fun p member => (due p member).trans (Nat.le_add_left latest next.now)
  have level : k + 1 ≤ t.mListener.count t.mNmeaUpdateListener := count ▸ ahead.level _
  refine ⟨.tick latest :: tape, t, _, System.run_cons_iff.mpr ⟨_, [], _, rfl, ran, rfl⟩, ?_⟩
  rintro ⟨once, stopped⟩
  cases mode : s.lifecycle with
  | started =>
    have two := bad mode
    omega
  | stopped =>
    have none := List.count_eq_zero.mpr (stopped (life'.trans (life.trans mode))).1
    omega

end Overlap

end YgpsActivity

/-! ## Whole runs -/

theorem YgpsActivity.Initial.invariant {s : YgpsActivity L} (initial : s.Initial) :
    s.Invariant := by
  have none := List.count_eq_zero.mpr initial.listener
  refine ⟨initial.mIsRunInBg, ?_, ?_, ?_, fun _ => ⟨none, initial.updatesRequested, ?_⟩⟩
  · rw [initial.queue]
    exact List.Pairwise.nil
  · simp [initial.queue]
  · rw [initial.queue, none]
    exact Nat.zero_le 1
  · simp [initial.queue]

theorem YgpsActivity.Invariant.listenerOk {s : YgpsActivity L} (inv : s.Invariant) :
    s.ListenerOk := by
  refine ⟨inv.2.once.here, fun stopped => ?_⟩
  obtain ⟨none, idle, -⟩ := inv.2.quiet (by rw [stopped]; decide)
  exact ⟨List.count_eq_zero.mp none, idle⟩

/-- Over every order of lifecycle callbacks, clicks, thread blocks and messages, the registration is as it should be as long
as restarts are posted apart, and a restart that is not can be carried on to a state where it is not. -/
theorem ygps_decides_listenerOk {s : YgpsActivity L} (initial : s.Initial) :
    ygps.Decides RestartsApart (fun t _ => t.ListenerOk) s := by
  apply System.decides_of_invariant fun t _ => t.Invariant
  · exact fun t _ inv => inv.listenerOk
  · exact fun t _ a next out inv apart stepped => inv.step apart stepped
  · intro t history a next out inv stepped close
    obtain ⟨posts, close⟩ := Classical.not_imp.mp close
    exact YgpsActivity.not_apart_breaks inv posts stepped close
  · exact initial.invariant

/-- A fresh process; the listener is `0`. -/
def freshActivity : YgpsActivity Nat where
  now := 0
  queue := []
  created := false
  lifecycle := .stopped
  mListener := []
  mNmeaUpdateListener := 0
  updatesRequested := false
  mIsRunInBg := false
  mFirstFix := false
  mSateReportTimeOut := 0
  clickable := true
  btnGpsTestStart := true
  btnGpsTestStop := false
  mTestType := .hotStart
  mTotalTimes := 0
  mCurrentTimes := 0
  mTestInterval := 0
  mIsNeed3DFix := false
  mIsTestRunning := false
  mIsForceStopGpsTest := false
  mStartPressedHandling := false
  mStopPressedHandling := false
  threads := []

/-- A hot start, and the activity is stopped and comes back before the request is due. -/
def clickStopRestart : List YgpsAction :=
  [.onCreate, .dispatch, .dispatch, .restartClick .hotStart, .dispatch, .tick 100, .onStop, .tick 800, .dispatch, .dispatch,
    .onRestart]

/-- A hot start, and 100 ms later an auto test, whose thread restarts the receiver at once. -/
def clickThenTest : List YgpsAction :=
  [.onCreate, .dispatch, .dispatch, .restartClick .hotStart, .dispatch, .tick 100, .startClick (some 1) (some 0) false,
    .thread 0, .thread 0, .thread 0, .dispatch, .dispatch, .dispatch, .tick 200, .dispatch, .dispatch, .tick 100, .dispatch,
    .tick 100, .dispatch, .tick 100, .dispatch, .tick 100, .dispatch]

/-- The activity is stopped right after the thread of an auto test has asked for the final restart. -/
def testThenStop : List YgpsAction :=
  [.onCreate, .dispatch, .dispatch, .startClick (some 0) (some 0) false, .thread 0, .thread 0, .dispatch, .tick 200,
    .dispatch, .tick 300, .dispatch, .tick 500, .thread 0, .onStop, .thread 0, .dispatch, .dispatch, .dispatch, .tick 600,
    .dispatch, .dispatch, .dispatch, .dispatch, .dispatch]

theorem freshActivity_initial : freshActivity.Initial where
  queue := rfl
  created := rfl
  lifecycle := rfl
  listener := by decide
  updatesRequested := rfl
  mIsRunInBg := rfl
  clickable := rfl
  buttons := ⟨rfl, rfl⟩
  mIsTestRunning := rfl
  mIsForceStopGpsTest := rfl
  handling := ⟨rfl, rfl⟩
  threads := rfl

theorem ygps_decides_listenerOk_clickStopRestart :
    (∃ t trace, ygps.run freshActivity clickStopRestart = some (t, trace) ∧ t.mListener = [0] ∧ t.ListenerOk) ∧
    ygps.Decides RestartsApart (fun t _ => t.ListenerOk) freshActivity := by
  have decided := ygps_decides_listenerOk freshActivity_initial
  have apart : ygps.Permitted RestartsApart freshActivity [] clickStopRestart := by decide
  refine ⟨⟨_, _, rfl, rfl, ?_⟩, decided⟩
  exact (decided clickStopRestart _ _ rfl apart).1

/-- After the first run the listener is registered twice, after the second it is registered in a stopped activity. -/
theorem not_listenerOk_runs :
    freshActivity.Initial ∧
    (∃ t trace, ygps.run freshActivity clickThenTest = some (t, trace) ∧ t.mListener = [0, 0] ∧ ¬ t.ListenerOk) ∧
    ∃ t trace, ygps.run freshActivity testThenStop = some (t, trace) ∧ t.lifecycle = .stopped ∧ t.mListener = [0] ∧
      t.updatesRequested = true ∧ ¬ t.ListenerOk := by
  refine ⟨freshActivity_initial, ⟨_, _, rfl, rfl, ?_⟩, _, _, rfl, rfl, rfl, rfl, ?_⟩
  · exact fun ok => absurd ok.1 (by decide)
  · exact fun ok => absurd (ok.2 rfl).2 (by decide)

end Mt6582.Ygps

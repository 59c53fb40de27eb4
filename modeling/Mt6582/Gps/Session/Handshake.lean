import Mt6582.Gps.Session

/-! # The start handshake

`mtk_gps_start` waits for `lock_for_sync[M_START]` after it has sent `MNL_CMD_START`. The wait stands for
an NMEA event of the new session exactly when the condition is clear at the moment of the send: nothing
else on the way clears a release that NMEA outside of a session has left behind.
-/

namespace Mt6582.Gps

open Machine

/-- The current call of `mtk_gps_start` has sent `MNL_CMD_START`. -/
def StartSent (history : List SessionEvent) : Prop := Since (fun _ e => e = .sentStart) (· = .enterStart) history

/-- The current call of `mtk_gps_start` has sent `MNL_CMD_START`, and an NMEA event came after that. -/
def NmeaSinceSent (history : List SessionEvent) : Prop :=
  Since (fun before e => e = .nmea ∧ StartSent before) (· = .enterStart) history

/-- `mtk_gps_start` reports the engine as on only after an NMEA event that follows its own send. -/
def EngineOnAfterNmea (history : List SessionEvent) (e : SessionEvent) : Prop :=
  e = .status .framework .engineOn → NmeaSinceSent history

theorem startSent_concat {history : List SessionEvent} {e : SessionEvent} :
    StartSent (history ++ [e]) ↔ e = .sentStart ∨ (StartSent history ∧ e ≠ .enterStart) :=
  since_concat

theorem nmeaSinceSent_concat {history : List SessionEvent} {e : SessionEvent} :
    NmeaSinceSent (history ++ [e]) ↔
      (e = .nmea ∧ StartSent history) ∨ (NmeaSinceSent history ∧ e ≠ .enterStart) := since_concat

theorem NmeaSinceSent.startSent {history : List SessionEvent} (seen : NmeaSinceSent history) :
    StartSent history := by
  induction history using List.reverseRecOn with
  | nil => exact absurd seen not_since_nil
  | append_singleton history e ih =>
    rcases nmeaSinceSent_concat.mp seen with ⟨rfl, sent⟩ | ⟨older, calm⟩
    · exact startSent_concat.mpr (.inr ⟨sent, nofun⟩)
    · exact startSent_concat.mpr (.inr ⟨ih older, calm⟩)

/-- What the history says at each statement of `mtk_gps_start`. -/
def SessionState.Handshake (s : SessionState) (history : List SessionEvent) : Prop :=
  match s.framework with
  | .startWait | .startSend _ => ¬ StartSent history
  | .startCondition => StartSent history ∧ (s.conditionStart = true → NmeaSinceSent history)
  | .startWrite | .startEngineOn | .startReportOn | .startSessionBegin | .startReportBegin => NmeaSinceSent history
  | _ => True

/-- `MNL_CMD_START` is not sent while `lock_for_sync[M_START]` is released. -/
def SendsLocked (s : SessionState) (_ : List SessionEvent) (a : SessionAction) : Prop :=
  a = .send .sent → (∃ idx, s.framework = .startSend idx) → s.conditionStart = false

section Steps

variable {s next : SessionState} {a : SessionAction} {history out : List SessionEvent}

private theorem handshake_frame (hs : s.Handshake history) (same : next.framework = s.framework)
    (sent : StartSent (history ++ out) ↔ StartSent history)
    (seen : NmeaSinceSent history → NmeaSinceSent (history ++ out))
    (released : next.conditionStart = true →
      s.conditionStart = true ∨ (StartSent history → NmeaSinceSent (history ++ out))) :
    next.Handshake (history ++ out) := by
  rw [SessionState.Handshake] at hs ⊢
  rw [same]
  cases mode : s.framework <;> simp only [mode] at hs ⊢
  case startWait | startSend => rwa [sent]
  case startCondition =>
    refine ⟨sent.mpr hs.1, fun open_ => ?_⟩
    rcases released open_ with before | now
    · exact seen (hs.2 before)
    · exact now hs.1
  all_goals exact seen hs

private theorem handshake_gps (hs : s.Handshake history)
    (stepped : gpsSession.step s a = some (next, out)) (notMine : ¬ a.byFramework) :
    next.Handshake (history ++ out) := by
  obtain ⟨same, ⟨rfl, rfl, -⟩ | ⟨rfl, -, rfl⟩ | ⟨rfl, -, rfl⟩ | ⟨rfl | ⟨value, rfl⟩, -, kept, -⟩⟩ :=
    gpsSession_gps stepped notMine
  · refine handshake_frame hs same ?_ ?_ fun _ => .inr ?_
    · simp [startSent_concat]
    · simp only [nmeaSinceSent_concat]
      exact fun seen => .inr ⟨seen, nofun⟩
    · exact fun sent => nmeaSinceSent_concat.mpr (.inl ⟨rfl, sent⟩)
  all_goals refine handshake_frame hs same ?_ ?_ fun released => .inl (by simpa [*] using released)
  all_goals simp [startSent_concat, nmeaSinceSent_concat]

private theorem handshake_framework (hs : s.Handshake history) (locked : SendsLocked s history a)
    (stepped : gpsSession.step s a = some (next, out)) (mine : a.byFramework) :
    next.Handshake (history ++ out) := by
  cases a with
  | callStart =>
    simp only [gpsSession, SessionState.step] at stepped
    split_ifs at stepped with idle started <;> cases stepped
    · simp [SessionState.Handshake, startSent_concat]
    · simp [SessionState.Handshake, idle]
  | callStop =>
    simp only [gpsSession, SessionState.step] at stepped
    split_ifs at stepped with idle started <;> cases stepped
    · trivial
    · simp [SessionState.Handshake, idle]
  | framework =>
    cases mode :
      s.framework <;> simp only [gpsSession, SessionState.step, SessionState.frameworkStep,
      mode] at stepped
    case startWait =>
      cases stepped
      simp only [SessionState.Handshake, mode] at hs
      cases s.startFlag <;> simpa [SessionState.Handshake] using hs
    case startCondition =>
      split_ifs at stepped with released
      cases stepped
      simp only [SessionState.Handshake, mode] at hs
      simpa [SessionState.Handshake] using hs.2 released
    case startTestStop =>
      cases stepped
      cases s.conditionStop <;> trivial
    case stopWait =>
      cases stepped
      cases s.startFlag <;> trivial
    all_goals cases stepped
    all_goals simp_all [SessionState.Handshake, nmeaSinceSent_concat]
  | send result =>
    simp only [gpsSession, SessionState.step, SessionState.sendStep] at stepped
    split at stepped
    case h_1 idx mode =>
      cases stepped
      have clear := locked rfl ⟨idx, mode⟩
      refine ⟨startSent_concat.mpr (.inl rfl), fun released => ?_⟩
      exact absurd (clear.symm.trans released) Bool.false_ne_true
    case h_2 idx mode =>
      cases stepped
      simp only [SessionState.Handshake, mode] at hs
      rw [List.append_nil]
      split_ifs
      · exact hs
      · trivial
    all_goals cases stepped
    all_goals trivial
  | write delivered =>
    cases mode :
      s.framework <;> simp only [gpsSession, SessionState.step, SessionState.writeStep,
      mode] at stepped
    case startWrite =>
      cases stepped
      simp only [SessionState.Handshake, mode] at hs
      rw [List.append_nil]
      exact hs
    all_goals cases stepped
    all_goals trivial
  | control | nmea | die | icon status | gps => exact mine.elim

private theorem always_single {e : SessionEvent} (good : EngineOnAfterNmea history e) :
    Always EngineOnAfterNmea history [e] := always_cons.mpr ⟨good, always_nil⟩

private theorem always_other {e : SessionEvent} (other : e ≠ .status .framework .engineOn) :
    Always EngineOnAfterNmea history [e] := always_single fun on => absurd on other

private theorem engineOn_step (hs : s.Handshake history)
    (stepped : gpsSession.step s a = some (next, out)) :
    Always EngineOnAfterNmea history out := by
  cases a with
  | callStart =>
    simp only [gpsSession, SessionState.step] at stepped
    split_ifs at stepped <;> cases stepped <;> exact always_other (by simp)
  | callStop =>
    simp only [gpsSession, SessionState.step] at stepped
    split_ifs at stepped <;> cases stepped <;> exact always_nil
  | framework =>
    cases mode :
      s.framework <;> simp only [gpsSession, SessionState.step, SessionState.frameworkStep,
      mode] at stepped
    case startReportOn | startReportBegin =>
      cases stepped
      simp only [SessionState.Handshake, mode] at hs
      exact always_single fun _ => hs
    case startAcquire =>
      cases stepped
      exact always_other (by simp)
    case startCondition =>
      split_ifs at stepped
      cases stepped
      exact always_nil
    all_goals cases stepped
    all_goals exact always_nil
  | send result =>
    simp only [gpsSession, SessionState.step, SessionState.sendStep] at stepped
    split at stepped
    case h_1 =>
      cases stepped
      exact always_other (by simp)
    all_goals cases stepped
    all_goals exact always_nil
  | write delivered =>
    simp only [gpsSession, SessionState.step, SessionState.writeStep] at stepped
    split at stepped <;> cases stepped <;> exact always_nil
  | control | nmea | die | icon status | gps =>
    obtain ⟨-, ⟨rfl, -⟩ | ⟨rfl, -⟩ | ⟨rfl, -⟩ | ⟨rfl | ⟨value, rfl⟩, -⟩⟩ :=
      gpsSession_gps stepped id
    all_goals first | exact always_nil | exact always_other (by simp)

end Steps

/-- From the send on, the framework's thread alone reaches the report. -/
private theorem reports_after_send {s : SessionState} (waiting : s.framework = .startCondition)
    (released : s.conditionStart = true) :
    ∃ u, gpsSession.run s [.framework, .write true, .framework,
      .framework] = some (u, [.status .framework .engineOn]) := by
  refine ⟨{ s with
    conditionStart := false, control := s.control ++ [.start], sta := .engineOn, framework := .startSessionBegin }, ?_⟩
  simp [System.run, gpsSession, SessionState.step, SessionState.frameworkStep,
    SessionState.writeStep, waiting, released]

private theorem engineOn_broken {s next : SessionState} {a : SessionAction}
    {history out : List SessionEvent} (hs : s.Handshake history)
    (stepped : gpsSession.step s a = some (next, out)) (unlocked : ¬ SendsLocked s history a) :
    ∃ more u later, gpsSession.run next more = some (u, later) ∧
      ¬ Always EngineOnAfterNmea [] (history ++ out ++ later) := by
  simp only [SendsLocked, Classical.not_imp, Bool.not_eq_false] at unlocked
  obtain ⟨rfl, ⟨idx, mode⟩, released⟩ := unlocked
  simp only [gpsSession, SessionState.step, SessionState.sendStep, mode] at stepped
  cases stepped
  simp only [SessionState.Handshake, mode] at hs
  obtain ⟨u, ran⟩ := reports_after_send (s := { s with framework := .startCondition }) rfl released
  refine ⟨_, u, _, ran, fun always => ?_⟩
  have seen := always (history ++ [.sentStart]) _ [] rfl rfl
  rw [List.nil_append, nmeaSinceSent_concat] at seen
  rcases seen with ⟨impossible, -⟩ | ⟨older, -⟩
  · cases impossible
  · exact hs older.startSent

/-- In every run, `mtk_gps_start` reports the engine as on only after an NMEA event that came after its own
`MNL_CMD_START`, provided that `lock_for_sync[M_START]` is not released at any such send. A send that finds it
released has a continuation with an unfounded report. -/
theorem gpsSession_engineOn_decided {s : SessionState} (initial : s.Initial) :
    gpsSession.Decides SendsLocked (fun _ trace => Always EngineOnAfterNmea [] trace) s := by
  refine System.decides_of_invariant
    (fun s history => s.Handshake history ∧ Always EngineOnAfterNmea [] history)
    ?_ ?_ ?_ ?_
  · exact fun _ _ inv => inv.2
  · rintro s history a next out ⟨hs, always⟩ locked stepped
    refine ⟨?_, always_append.mpr ⟨always, engineOn_step hs stepped⟩⟩
    by_cases mine : a.byFramework
    · exact handshake_framework hs locked stepped mine
    · exact handshake_gps hs stepped mine
  · exact fun s history a next out inv stepped unlocked => engineOn_broken inv.1 stepped unlocked
  · refine ⟨?_, always_nil⟩
    simp [SessionState.Handshake, initial.framework]

theorem gpsSession_engineOn_decided_fresh :
    freshSession.Initial ∧ gpsSession.Decides SendsLocked (fun _ trace => Always EngineOnAfterNmea [] trace) freshSession :=
  ⟨freshSession_initial, gpsSession_engineOn_decided freshSession_initial⟩

/-- An NMEA event before the first session lets the first `mtk_gps_start` through without any NMEA of its own. -/
theorem gpsSession_engineOn_without_nmea :
    ¬ ∀ tape t trace, gpsSession.run freshSession tape = some (t, trace) → Always EngineOnAfterNmea [] trace := by
  intro always
  have ran : gpsSession.run freshSession
      [.nmea, .callStart, .framework, .send .sent, .framework, .write true, .framework,
        .framework] =
        some (⟨true, false, false, false, true, false, .engineOn, [.start], .startSessionBegin, .poll⟩,
          [.nmea, .enterStart, .sentStart, .status .framework .engineOn]) := by decide
  have seen := always _ _ _ ran [.nmea, .enterStart, .sentStart] _ [] rfl rfl
  have late : ¬ NmeaSinceSent ([.nmea] ++ [.enterStart] ++ [.sentStart]) := by
    rw [nmeaSinceSent_concat, nmeaSinceSent_concat]
    simp
  exact late seen

end Mt6582.Gps

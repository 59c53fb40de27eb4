import Mt6582.Gps.Codec
import Mt6582.Machine.Retry
import Mt6582.Machine.System

/-! # Sending to the daemon and reading from it

`mtk_daemon_send`, `mtk_start` and `safe_read` against whatever the kernel answers. An interrupted call is repeated
without limit, one that would block ten times, and `mtk_start` sends again up to five times while the daemon's socket
is broken. `errno` is the thread's, as the last failed call has left it; logging and sleeping do not change it.
-/

namespace Mt6582.Gps

open Machine

def eintr : Nat := 4

def eagain : Nat := 11

def epipe : Nat := 32

/-- `errno` after a call that has failed, or has read nothing, with what the loops make of it. -/
def judgeErrno (errno : Nat) : Nat × Verdict Int :=
  (errno, if errno = eintr then .again else if errno = eagain then .charged (-1) else .done (-1))

section Send

/-- The answer to `sendto`: the kernel has the datagram, or it has not. -/
inductive SendAnswer where
  | sent
  | failed (errno : Nat)
deriving DecidableEq, Repr

def judgeSend (errno : Nat) : SendAnswer → Nat × Verdict Int
  | .sent => (errno, .done 0)
  | .failed e => judgeErrno e

/-- `mtk_daemon_send`: the result, `errno`, and the answers left. -/
def mtkDaemonSend (errno : Nat) (answers : List SendAnswer) : Option (Int × Nat × List SendAnswer) :=
  retry judgeSend 10 errno answers

/-- The loop of `mtk_start` with `max - idx`. -/
def mtkStartLoop : Nat → Int × Nat × List SendAnswer → Option (Int × Nat × List SendAnswer)
  | 0, sent => some sent
  | left + 1, (err, errno, rest) =>
      if err ≠ 0 ∧ errno = epipe then (mtkDaemonSend errno rest).bind (mtkStartLoop left) else some (err, errno, rest)

/-- `mtk_start` -/
def mtkStart (errno : Nat) (answers : List SendAnswer) : Option (Int × Nat × List SendAnswer) :=
  (mtkDaemonSend errno answers).bind (mtkStartLoop 5)

/-- Answers that `mtk_daemon_send` waits through. -/
def Patient (answers : List SendAnswer) : Prop :=
  (∀ a ∈ answers, a = .failed eintr ∨ a = .failed eagain) ∧ answers.count (.failed eagain) ≤ 10

/-- The answer that ends `mtk_daemon_send`, with its result. -/
def EndsSend (waits : List SendAnswer) (last : SendAnswer) (ret : Int) : Prop :=
  (last = .sent ∧ ret = 0) ∨ ∃ e, last = .failed e ∧ ret = -1 ∧ e ≠ eintr ∧
    (e = eagain → waits.count (.failed eagain) = 10)

variable {errno errno' budget left : Nat} {answers rest waits : List SendAnswer} {ret err : Int}

theorem judgeErrno_again {e : Nat} {next : Nat} : judgeErrno e = (next, .again) ↔ e = eintr ∧ next = e := by
  rw [judgeErrno, Prod.mk.injEq]
  constructor
  · rintro ⟨rfl, verdict⟩
    split_ifs at verdict with interrupted
    exact ⟨interrupted, rfl⟩
  · rintro ⟨rfl, rfl⟩
    exact ⟨rfl, if_pos rfl⟩

theorem judgeErrno_charged {e next : Nat} {r : Int} :
    judgeErrno e = (next, .charged r) ↔ e = eagain ∧ next = e ∧ r = -1 := by
  rw [judgeErrno, Prod.mk.injEq]
  constructor
  · rintro ⟨rfl, verdict⟩
    split_ifs at verdict with interrupted blocks
    cases verdict
    exact ⟨blocks, rfl, rfl⟩
  · rintro ⟨rfl, rfl, rfl⟩
    exact ⟨rfl, rfl⟩

theorem judgeErrno_done {e next : Nat} {r : Int} :
    judgeErrno e = (next, .done r) ↔ e ≠ eintr ∧ e ≠ eagain ∧ next = e ∧ r = -1 := by
  rw [judgeErrno, Prod.mk.injEq]
  constructor
  · rintro ⟨rfl, verdict⟩
    split_ifs at verdict with interrupted blocks
    cases verdict
    exact ⟨interrupted, blocks, rfl, rfl⟩
  · rintro ⟨other, free, rfl, rfl⟩
    exact ⟨rfl, by rw [if_neg other, if_neg free]⟩

/-- What the loop waits through is interrupted or would block, each of the latter at the expense of one retry. -/
theorem sendWaits_iff (errno : Nat) : (∃ e, Waits judgeSend budget errno waits left e) ↔
    (∀ a ∈ waits, a = .failed eintr ∨ a = .failed eagain) ∧ budget = left + waits.count (.failed eagain) := by
  constructor
  · rintro ⟨e, waits⟩
    induction waits with
    | nil => exact ⟨nofun, rfl⟩
    | @again _ _ _ _ _ a _ judged _ ih =>
      cases a with
      | sent => exact absurd judged (by simp [judgeSend])
      | failed e =>
        obtain ⟨rfl, rfl⟩ := judgeErrno_again.mp judged
        refine ⟨List.forall_mem_cons.mpr ⟨.inl rfl, ih.1⟩, ?_⟩
        rw [ih.2, List.count_cons_of_ne (by decide)]
    | @charged _ _ _ _ _ a _ _ judged _ ih =>
      cases a with
      | sent => exact absurd judged (by simp [judgeSend])
      | failed e =>
        obtain ⟨rfl, rfl, rfl⟩ := judgeErrno_charged.mp judged
        refine ⟨List.forall_mem_cons.mpr ⟨.inr rfl, ih.1⟩, ?_⟩
        rw [List.count_cons_self]
        omega
  · rintro ⟨patient, budgeted⟩
    induction waits generalizing budget errno with
    | nil => exact ⟨errno, by rw [budgeted]; exact .nil⟩
    | cons a waits ih =>
      obtain ⟨here, later⟩ := List.forall_mem_cons.mp patient
      rcases here with rfl | rfl
      · rw [List.count_cons_of_ne (by decide)] at budgeted
        obtain ⟨e, waits⟩ := ih eintr later budgeted
        exact ⟨e, .again (judgeErrno_again.mpr ⟨rfl, rfl⟩) waits⟩
      · rw [List.count_cons_self] at budgeted
        obtain ⟨e, waits⟩ := ih eagain later rfl
        rw [budgeted, ← Nat.add_assoc]
        exact ⟨e, .charged (judgeErrno_charged.mpr ⟨rfl, rfl, rfl⟩) waits⟩

theorem concludes_send_iff {last : SendAnswer} :
    Concludes judgeSend left errno last ret errno' ↔
      (last = .sent ∧ ret = 0 ∧ errno' = errno) ∨
      (last = .failed errno' ∧ ret = -1 ∧ errno' ≠ eintr ∧ (errno' = eagain → left = 0)) := by
  cases last with
  | sent =>
    simp only [Concludes, judgeSend, Prod.mk.injEq, Verdict.done.injEq, reduceCtorEq, and_false, false_and,
      or_false, true_and]
    exact ⟨fun ends => ⟨ends.2.symm, ends.1.symm⟩, fun ends => ⟨ends.2.symm, ends.1.symm⟩⟩
  | failed e =>
    simp only [Concludes, judgeSend, judgeErrno_done, judgeErrno_charged, reduceCtorEq, false_and, false_or,
      SendAnswer.failed.injEq]
    constructor
    · rintro (⟨other, free, rfl, rfl⟩ | ⟨⟨rfl, rfl, rfl⟩, spent⟩)
      · exact ⟨rfl, rfl, other, fun blocks => absurd blocks free⟩
      · exact ⟨rfl, rfl, by decide, fun _ => spent⟩
    · rintro ⟨rfl, rfl, other, spent⟩
      rcases eq_or_ne e eagain with blocks | free
      · exact .inr ⟨⟨blocks, rfl, rfl⟩, spent blocks⟩
      · exact .inl ⟨other, free, rfl, rfl⟩

private theorem count_le_of_budget (budgeted : 10 = left + waits.count (.failed eagain)) :
    waits.count (.failed eagain) ≤ 10 ∧ (left = 0 ↔ waits.count (.failed eagain) = 10) := by omega

/-- `mtk_daemon_send` ends at the first answer that it does not wait through, with 0 if the kernel has the datagram
then, and else with -1 and that answer's `errno`. -/
theorem mtkDaemonSend_ends (ends : mtkDaemonSend errno answers = some (ret, errno', rest)) :
    ∃ waits last, answers = waits ++ last :: rest ∧ Patient waits ∧ EndsSend waits last ret ∧
      (last = .sent ∨ last = .failed errno') := by
  obtain ⟨waits, last, left, e, rfl, waiting, concludes⟩ := retry_eq_some_iff.mp ends
  obtain ⟨patient, budgeted⟩ := (sendWaits_iff _).mp ⟨e, waiting⟩
  obtain ⟨few, spent⟩ := count_le_of_budget budgeted
  refine ⟨waits, last, rfl, ⟨patient, few⟩, ?_⟩
  rcases concludes_send_iff.mp concludes with ⟨sent, ret, -⟩ | ⟨failed, ret, other, blocks⟩
  · exact ⟨.inl ⟨sent, ret⟩, .inl sent⟩
  · exact ⟨.inr ⟨errno', failed, ret, other, fun e => spent.mp (blocks e)⟩, .inr failed⟩

theorem mtkDaemonSend_of_ends (errno : Nat) (rest : List SendAnswer) {last : SendAnswer} (patient : Patient waits)
    (ends : EndsSend waits last ret) :
    ∃ errno', mtkDaemonSend errno (waits ++ last :: rest) = some (ret, errno', rest) ∧
      (last = .sent ∨ last = .failed errno') := by
  have budgeted : 10 = (10 - waits.count (.failed eagain)) + waits.count (.failed eagain) := by
    have := patient.2
    omega
  obtain ⟨e, waiting⟩ := (sendWaits_iff errno).mpr ⟨patient.1, budgeted⟩
  have spent := (count_le_of_budget budgeted).2
  rcases ends with ⟨rfl, rfl⟩ | ⟨f, rfl, rfl, other, blocks⟩
  · exact ⟨e, retry_eq_some_iff.mpr ⟨waits, _, _, e, rfl, waiting,
      concludes_send_iff.mpr (.inl ⟨rfl, rfl, rfl⟩)⟩, .inl rfl⟩
  · exact ⟨f, retry_eq_some_iff.mpr ⟨waits, _, _, e, rfl, waiting,
      concludes_send_iff.mpr (.inr ⟨rfl, rfl, other, fun e => spent.mpr (blocks e)⟩)⟩, .inr rfl⟩

/-- `mtk_daemon_send` does not end before an answer that it does not wait through. -/
theorem mtkDaemonSend_eq_none_iff : mtkDaemonSend errno answers = none ↔ Patient answers := by
  rw [mtkDaemonSend, retry_eq_none_iff]
  constructor
  · rintro ⟨left, e, waiting⟩
    obtain ⟨patient, budgeted⟩ := (sendWaits_iff _).mp ⟨e, waiting⟩
    exact ⟨patient, (count_le_of_budget budgeted).1⟩
  · rintro ⟨patient, few⟩
    obtain ⟨e, waiting⟩ := (sendWaits_iff errno).mpr
      ⟨patient, show 10 = (10 - answers.count (.failed eagain)) + answers.count (.failed eagain) by omega⟩
    exact ⟨_, e, waiting⟩

/-- Answers with attempts that find the socket broken before the last attempt. -/
def attempts (broken : List (List SendAnswer)) (last : List SendAnswer) : List SendAnswer :=
  broken.flatMap (fun waits => waits ++ [.failed epipe]) ++ last

theorem attempts_cons {broken : List (List SendAnswer)} {last : List SendAnswer} :
    attempts (waits :: broken) last = waits ++ .failed epipe :: attempts broken last := by
  simp only [attempts, List.flatMap_cons, List.append_assoc, List.cons_append, List.nil_append]

private theorem endsSend_epipe : EndsSend waits (.failed epipe) (-1) :=
  .inr ⟨epipe, rfl, rfl, by decide, fun wrong => absurd wrong (by decide)⟩

/-- What is left to do after a first attempt. -/
private theorem mtkStartLoop_bind_iff :
    (∃ e, (mtkDaemonSend errno answers).bind (mtkStartLoop left) = some (ret, e, rest)) ↔
    ∃ broken waits last, answers = attempts broken (waits ++ last :: rest) ∧ broken.length ≤ left ∧
      (∀ w ∈ broken, Patient w) ∧ Patient waits ∧ EndsSend waits last ret ∧
      (last = .failed epipe → broken.length = left) := by
  induction left generalizing errno answers with
  | zero =>
    constructor
    · rintro ⟨e, ends⟩
      obtain ⟨⟨ret', e', rest'⟩, sent, equal⟩ := Option.bind_eq_some_iff.mp ends
      cases equal
      obtain ⟨waits, last, rfl, patient, lasts, -⟩ := mtkDaemonSend_ends sent
      exact ⟨[], waits, last, rfl, Nat.le_refl 0, nofun, patient, lasts, fun _ => rfl⟩
    · rintro ⟨broken, waits, last, rfl, few, -, patient, ends, -⟩
      obtain rfl := List.length_eq_zero_iff.mp (Nat.le_zero.mp few)
      obtain ⟨e, sent, -⟩ := mtkDaemonSend_of_ends errno rest patient ends
      exact ⟨e, Option.bind_eq_some_iff.mpr ⟨_, sent, rfl⟩⟩
  | succ left ih =>
    constructor
    · rintro ⟨e, ends⟩
      obtain ⟨⟨err, e', rest'⟩, sent, equal⟩ := Option.bind_eq_some_iff.mp ends
      obtain ⟨waits, last, rfl, patient, lasts, final⟩ := mtkDaemonSend_ends sent
      rw [mtkStartLoop] at equal
      split_ifs at equal with again
      · obtain ⟨broken, waits', last', rfl, few, allPatient, patient', ends', exhausted⟩ := ih.mp ⟨e, equal⟩
        obtain rfl : last = .failed epipe := by
          rcases final with rfl | rfl
          · rcases lasts with ⟨-, rfl⟩ | ⟨f, wrong, -⟩
            · exact absurd rfl again.1
            · cases wrong
          · rw [again.2]
        refine ⟨waits :: broken, waits', last', attempts_cons.symm, by simpa using few,
          List.forall_mem_cons.mpr ⟨patient, allPatient⟩, patient', ends', fun pipe => ?_⟩
        rw [List.length_cons, exhausted pipe]
      · cases equal
        refine ⟨[], waits, last, rfl, Nat.zero_le _, nofun, patient, lasts, fun pipe => ?_⟩
        subst pipe
        rcases final with wrong | same
        · cases wrong
        · cases same
          rcases lasts with ⟨wrong, -⟩ | ⟨f, -, rfl, -⟩
          · cases wrong
          · exact absurd ⟨by decide, rfl⟩ again
    · rintro ⟨broken, waits, last, rfl, few, allPatient, patient, ends, exhausted⟩
      cases broken with
      | nil =>
        obtain ⟨e, sent, final⟩ := mtkDaemonSend_of_ends errno rest patient ends
        refine ⟨e, Option.bind_eq_some_iff.mpr ⟨_, sent, ?_⟩⟩
        rw [mtkStartLoop, if_neg]
        rintro ⟨failed, rfl⟩
        rcases final with rfl | rfl
        · rcases ends with ⟨-, rfl⟩ | ⟨f, wrong, -⟩
          · exact failed rfl
          · cases wrong
        · exact absurd (exhausted rfl) (by simp)
      | cons first broken =>
        obtain ⟨here, later⟩ := List.forall_mem_cons.mp allPatient
        rw [attempts_cons]
        obtain ⟨e', sent, final⟩ := mtkDaemonSend_of_ends errno
          (attempts broken (waits ++ last :: rest)) here endsSend_epipe
        obtain rfl : e' = epipe := by
          rcases final with wrong | same
          · cases wrong
          · exact (SendAnswer.failed.inj same).symm
        have again : ∃ e, (mtkDaemonSend epipe (attempts broken (waits ++ last :: rest))).bind (mtkStartLoop left) =
            some (ret, e, rest) :=
          ih.mpr ⟨broken, waits, last, rfl, by simpa using few, later, patient, ends,
            fun pipe => by simpa using exhausted pipe⟩
        obtain ⟨e, ends⟩ := again
        refine ⟨e, Option.bind_eq_some_iff.mpr ⟨_, sent, ?_⟩⟩
        rw [mtkStartLoop, if_pos ⟨by decide, rfl⟩]
        exact ends

/-- `mtk_start` sends once more after each of the first five attempts to find the daemon's socket broken. The attempt
after them decides: 0 exactly if the kernel has the command then. -/
theorem mtkStart_iff : (∃ e, mtkStart errno answers = some (ret, e, rest)) ↔
    ∃ broken waits last, answers = attempts broken (waits ++ last :: rest) ∧ broken.length ≤ 5 ∧
      (∀ w ∈ broken, Patient w) ∧ Patient waits ∧ EndsSend waits last ret ∧
      (last = .failed epipe → broken.length = 5) := mtkStartLoop_bind_iff

/-- The kernel has a command at most once, and has it exactly if the call returns 0. -/
private theorem endsSend_count (patient : Patient waits) {last : SendAnswer} (ends : EndsSend waits last ret) :
    (waits ++ [last]).count .sent = (if ret = 0 then 1 else 0) ∧ (ret = 0 ∨ ret = -1) := by
  have none_ : waits.count .sent = 0 := List.count_eq_zero.mpr fun sent => by
    rcases patient.1 _ sent with wrong | wrong <;> cases wrong
  rw [List.count_append, none_]
  rcases ends with ⟨rfl, rfl⟩ | ⟨e, rfl, rfl, -⟩
  · exact ⟨rfl, .inl rfl⟩
  · exact ⟨rfl, .inr rfl⟩

private theorem attempts_count {broken : List (List SendAnswer)} (patient : ∀ w ∈ broken, Patient w)
    (last : List SendAnswer) : (attempts broken last).count .sent = last.count .sent := by
  induction broken with
  | nil => rfl
  | cons waits broken ih =>
    obtain ⟨here, later⟩ := List.forall_mem_cons.mp patient
    have none_ : waits.count .sent = 0 := List.count_eq_zero.mpr fun sent => by
      rcases here.1 _ sent with wrong | wrong <;> cases wrong
    rw [attempts_cons, List.count_append, none_, List.count_cons_of_ne (by decide), ih later, Nat.zero_add]

theorem mtkDaemonSend_count (ends : mtkDaemonSend errno answers = some (ret, errno', [])) :
    answers.count .sent = (if ret = 0 then 1 else 0) ∧ (ret = 0 ∨ ret = -1) := by
  obtain ⟨waits, last, rfl, patient, lasts, -⟩ := mtkDaemonSend_ends ends
  exact endsSend_count patient lasts

theorem mtkStart_count (ends : mtkStart errno answers = some (ret, errno', [])) :
    answers.count .sent = (if ret = 0 then 1 else 0) ∧ (ret = 0 ∨ ret = -1) := by
  rw [mtkStart] at ends
  obtain ⟨broken, waits, last, rfl, -, allPatient, patient, lasts, -⟩ := mtkStartLoop_bind_iff.mp ⟨_, ends⟩
  rw [attempts_count allPatient]
  exact endsSend_count patient lasts

theorem mtkDaemonSend_none (open_ : mtkDaemonSend errno answers = none) : SendAnswer.sent ∉ answers := by
  intro sent
  rcases (mtkDaemonSend_eq_none_iff.mp open_).1 _ sent with wrong | wrong <;> cases wrong

private theorem mtkStartLoop_none (open_ : (mtkDaemonSend errno answers).bind (mtkStartLoop left) = none) :
    SendAnswer.sent ∉ answers := by
  induction left generalizing errno answers with
  | zero =>
    cases sent : mtkDaemonSend errno answers with
    | none => exact mtkDaemonSend_none sent
    | some result => rw [sent] at open_; cases open_
  | succ left ih =>
    cases first : mtkDaemonSend errno answers with
    | none => exact mtkDaemonSend_none first
    | some result =>
      obtain ⟨err, e, rest⟩ := result
      rw [first, Option.bind_some, mtkStartLoop] at open_
      split_ifs at open_ with again
      obtain ⟨waits, last, rfl, patient, lasts, -⟩ := mtkDaemonSend_ends first
      have count := (endsSend_count patient lasts).1
      rw [if_neg again.1, List.count_eq_zero] at count
      intro sent
      rw [List.append_cons, List.mem_append] at sent
      exact sent.elim count (ih open_)

theorem mtkStart_none (open_ : mtkStart errno answers = none) : SendAnswer.sent ∉ answers :=
  mtkStartLoop_none open_

end Send

section Read

/-- The answer to `read`: the number of bytes, none of them at the end of a stream or for an empty datagram. -/
inductive ReadAnswer where
  | read (n : Nat)
  | failed (errno : Nat)
deriving DecidableEq, Repr

/-- Reading nothing leaves `errno` as it was, and is judged by it. -/
def judgeRead (errno : Nat) : ReadAnswer → Nat × Verdict Int
  | .read n => if 0 < n then (errno, .done n) else judgeErrno errno
  | .failed e => judgeErrno e

/-- `safe_read`, with the failing `fcntl` left out; `buf` says that the buffer is not null. -/
def safeRead (fd : Int) (buf : Bool) (len : Int) (errno : Nat) (answers : List ReadAnswer) :
    Option (Int × Nat × List ReadAnswer) :=
  if fd < 0 ∨ buf = false ∨ len < 0 then some (-1, errno, answers)
  else if len = 0 then some (0, errno, answers)
  else retry judgeRead 10 errno answers

/-- `errno` after an answer. -/
def ReadAnswer.errno (errno : Nat) : ReadAnswer → Nat
  | read _ => errno
  | failed e => e

/-- An answer as the loop judges it: data is what it waits for, and reading nothing fails with the `errno` at hand. -/
def ReadAnswer.judged (errno : Nat) : ReadAnswer → SendAnswer
  | read n => if 0 < n then .sent else .failed errno
  | failed e => .failed e

def judgedAll : Nat → List ReadAnswer → List SendAnswer
  | _, [] => []
  | errno, a :: rest => a.judged errno :: judgedAll (a.errno errno) rest

/-- How `safe_read` ends at an answer: with the number of bytes, or with -1 where a send would. -/
def EndsRead (waits : List SendAnswer) (errno : Nat) (last : ReadAnswer) (ret : Int) : Prop :=
  (∃ n, last = .read n ∧ 0 < n ∧ ret = n) ∨ (ret = -1 ∧ EndsSend waits (last.judged errno) (-1))

variable {errno errno' budget left : Nat} {answers rest waits : List ReadAnswer} {ret : Int} {a : ReadAnswer}

/-- Data apart, a read is judged as the failed send is, and both leave the same `errno`. -/
theorem judgeRead_cases (errno : Nat) (a : ReadAnswer) :
    (∃ n : Nat, a = .read n ∧ 0 < n ∧ judgeRead errno a = (errno, .done n)) ∨
      ∃ e, a.judged errno = .failed e ∧ a.errno errno = e ∧ judgeRead errno a = judgeErrno e := by
  cases a with
  | read n =>
    rcases Nat.eq_zero_or_pos n with rfl | data
    · exact .inr ⟨errno, rfl, rfl, rfl⟩
    · exact .inl ⟨n, rfl, data, if_pos data⟩
  | failed e => exact .inr ⟨e, rfl, rfl, rfl⟩

theorem readWaits_iff {last : Nat} : Waits judgeRead budget errno waits left last ↔
    Waits judgeSend budget errno (judgedAll errno waits) left last := by
  constructor
  · intro waiting
    induction waiting with
    | nil => exact .nil
    | @again _ _ errno _ _ a _ verdict _ ih =>
      rcases judgeRead_cases errno a with ⟨n, -, -, data⟩ | ⟨e, judged, after, same⟩
      · rw [data] at verdict
        cases verdict
      · rw [same] at verdict
        obtain ⟨rfl, rfl⟩ := judgeErrno_again.mp verdict
        rw [judgedAll, judged, after]
        exact .again verdict ih
    | @charged _ _ errno _ _ a _ _ verdict _ ih =>
      rcases judgeRead_cases errno a with ⟨n, -, -, data⟩ | ⟨e, judged, after, same⟩
      · rw [data] at verdict
        cases verdict
      · rw [same] at verdict
        obtain ⟨rfl, rfl, rfl⟩ := judgeErrno_charged.mp verdict
        rw [judgedAll, judged, after]
        exact .charged verdict ih
  · intro waiting
    induction waits generalizing budget errno with
    | nil => cases waiting; exact .nil
    | cons a rest ih =>
      rw [judgedAll] at waiting
      rcases judgeRead_cases errno a with ⟨n, rfl, data, -⟩ | ⟨e, judged, after, same⟩
      · rw [ReadAnswer.judged, if_pos data] at waiting
        cases waiting with
        | again verdict | charged verdict => cases verdict
      · rw [judged, after] at waiting
        cases waiting with
        | again verdict later =>
          obtain ⟨rfl, rfl⟩ := judgeErrno_again.mp verdict
          exact .again (same.trans verdict) (ih later)
        | charged verdict later =>
          obtain ⟨rfl, rfl, rfl⟩ := judgeErrno_charged.mp verdict
          exact .charged (same.trans verdict) (ih later)

/-- `errno` after the answers. -/
def errnoAfter (errno : Nat) (answers : List ReadAnswer) : Nat :=
  answers.foldl (fun errno a => a.errno errno) errno

theorem waits_errno {last : Nat} (waiting : Waits judgeRead budget errno waits left last) :
    last = errnoAfter errno waits := by
  induction waiting with
  | nil => rfl
  | @again _ _ errno _ _ a _ verdict _ ih =>
    rcases judgeRead_cases errno a with ⟨n, -, -, data⟩ | ⟨e, -, after, same⟩
    · rw [data] at verdict
      cases verdict
    · rw [same] at verdict
      obtain ⟨-, rfl⟩ := judgeErrno_again.mp verdict
      rw [ih, errnoAfter, errnoAfter, List.foldl_cons, after]
  | @charged _ _ errno _ _ a _ _ verdict _ ih =>
    rcases judgeRead_cases errno a with ⟨n, -, -, data⟩ | ⟨e, -, after, same⟩
    · rw [data] at verdict
      cases verdict
    · rw [same] at verdict
      obtain ⟨-, rfl, -⟩ := judgeErrno_charged.mp verdict
      rw [ih, errnoAfter, errnoAfter, List.foldl_cons, after]

/-- An answer that is not waited through ends the read. -/
theorem concludes_read_iff (waits : List SendAnswer) (spent : left = 0 ↔ waits.count (.failed eagain) = 10) :
    (∃ e', Concludes judgeRead left errno a ret e') ↔ EndsRead waits errno a ret := by
  rw [EndsRead]
  rcases judgeRead_cases errno a with ⟨n, rfl, data, verdict⟩ | ⟨e, judged, -, verdict⟩
  · simp only [Concludes, verdict, ReadAnswer.judged, if_pos data]
    constructor
    · rintro ⟨e', ends | ⟨wrong, -⟩⟩
      · cases ends
        exact .inl ⟨n, rfl, data, rfl⟩
      · cases wrong
    · rintro (⟨m, same, -, rfl⟩ | ⟨-, ends⟩)
      · cases same
        exact ⟨errno, .inl rfl⟩
      · rcases ends with ⟨-, wrong⟩ | ⟨e, wrong, -⟩
        · cases wrong
        · cases wrong
  · have empty : ¬ ∃ n, a = .read n ∧ 0 < n ∧ ret = (n : Int) := by
      rintro ⟨n, rfl, data, -⟩
      rw [ReadAnswer.judged, if_pos data] at judged
      cases judged
    have send : Concludes judgeRead left errno a = Concludes judgeSend left errno (.failed e) := by
      funext ret e'
      rw [Concludes, Concludes, verdict]
      rfl
    rw [or_iff_right empty, judged, send]
    simp only [concludes_send_iff, EndsSend, reduceCtorEq, false_and, false_or, SendAnswer.failed.injEq]
    constructor
    · rintro ⟨e', rfl, rfl, other, blocks⟩
      exact ⟨rfl, e, rfl, trivial, other, fun b => spent.mp (blocks b)⟩
    · rintro ⟨rfl, f, rfl, -, other, blocks⟩
      exact ⟨e, rfl, rfl, other, fun b => spent.mpr (blocks b)⟩

/-- `safe_read` returns the first data that it meets, past interrupted reads without limit and past ten that would
block. An end of the stream or an empty datagram counts as what `errno` has kept from before: it may be waited
through, for ever after an interrupted call, or end the read with -1. -/
theorem safeRead_iff {fd len : Int} (valid : 0 ≤ fd) (nonempty : 0 < len) :
    (∃ e, safeRead fd true len errno answers = some (ret, e, rest)) ↔
      ∃ waits last, answers = waits ++ last :: rest ∧ Patient (judgedAll errno waits) ∧
        EndsRead (judgedAll errno waits) (errnoAfter errno waits) last ret := by
  have asks : safeRead fd true len errno answers = retry judgeRead 10 errno answers := by
    rw [safeRead, if_neg, if_neg nonempty.ne']
    rintro (wrong | wrong | wrong)
    · exact absurd wrong (not_lt.mpr valid)
    · cases wrong
    · exact absurd nonempty (not_lt.mpr wrong.le)
  rw [asks]
  constructor
  · rintro ⟨e, ends⟩
    obtain ⟨waits, last, left, e', rfl, waiting, concludes⟩ := retry_eq_some_iff.mp ends
    obtain ⟨patient, budgeted⟩ := (sendWaits_iff errno).mp ⟨e', readWaits_iff.mp waiting⟩
    obtain ⟨few, spent⟩ := count_le_of_budget budgeted
    refine ⟨waits, last, rfl, ⟨patient, few⟩, ?_⟩
    rw [← waits_errno waiting]
    exact (concludes_read_iff _ spent).mp ⟨e, concludes⟩
  · rintro ⟨waits, last, rfl, patient, ends⟩
    have budgeted : 10 = (10 - (judgedAll errno waits).count (.failed eagain)) +
        (judgedAll errno waits).count (.failed eagain) := by
      have := patient.2
      omega
    obtain ⟨e, waiting⟩ := (sendWaits_iff errno).mpr ⟨patient.1, budgeted⟩
    have waiting := readWaits_iff.mpr waiting
    rw [← waits_errno waiting] at ends
    obtain ⟨e', concludes⟩ := (concludes_read_iff _ (count_le_of_budget budgeted).2).mpr ends
    exact ⟨e', retry_eq_some_iff.mpr ⟨waits, last, _, e, rfl, waiting, concludes⟩⟩

/-- A read that would block, one that meets an empty datagram with the `errno` of it, and 12 bytes. -/
theorem safeRead_iff_empty : ∃ e, safeRead 3 true 9000 0 [.failed eagain, .read 0, .read 12] = some (12, e, []) :=
  (safeRead_iff (by decide) (by decide)).mpr
    ⟨[.failed eagain, .read 0], .read 12, rfl, ⟨by decide, by decide⟩, .inl ⟨12, rfl, by decide, rfl⟩⟩

end Read

section Link

/-- What the HAL asks of the daemon: a command with its buffer, the start of the driver, or its end. -/
inductive HalRequest where
  | start
  | cleanup
  | send (buf : List Byte)
deriving DecidableEq, Repr

/-- `mtk_init` -/
def mtkInit : HalRequest := .send [0x00]

/-- `mtk_stop` -/
def mtkStop : HalRequest := .send [0x02]

/-- `mtk_restart` -/
def mtkRestart (cmd : Byte) : HalRequest := .send [cmd]

/-- `mtk_measurement_init` -/
def mtkMeasurementInit : HalRequest := .send [0x15]

/-- `mtk_measurement_close` -/
def mtkMeasurementClose : HalRequest := .send [0x16]

/-- `mtk_navigation_init` -/
def mtkNavigationInit : HalRequest := .send [0x17]

/-- `mtk_navigation_close` -/
def mtkNavigationClose : HalRequest := .send [0x18]

/-- `mtk_cleanup`, which returns 0 also where the send fails. -/
def mtkCleanup (errno : Nat) (answers : List SendAnswer) : Option (Int × Nat × List SendAnswer) :=
  (mtkDaemonSend errno answers).map fun (_, errno, rest) => (0, errno, rest)

namespace HalRequest

/-- What is sent; `MNL_CMD_CLEANUP` is 1 and `MNL_CMD_START` is 3. -/
def buf : HalRequest → List Byte
  | start => [0x03]
  | cleanup => [0x01]
  | send buf => buf

def run : HalRequest → Nat → List SendAnswer → Option (Int × Nat × List SendAnswer)
  | start => mtkStart
  | cleanup => mtkCleanup
  | send _ => mtkDaemonSend

end HalRequest

/-- The thread's `errno`, and what the kernel has for the daemon. -/
structure HalLink where
  errno : Nat
  received : List (List Byte)
deriving DecidableEq, Repr

/-- A request with the answers to its calls of `sendto`. -/
abbrev HalCall := HalRequest × List SendAnswer

/-- Each answer that is `sent` puts the datagram into the socket. The call is shown with what it returns. -/
def HalLink.step (s : HalLink) (call : HalCall) : Option (HalLink × List (HalCall × Int)) :=
  match call.1.run s.errno call.2 with
  | some (ret, errno, []) =>
      some (⟨errno, s.received ++ List.replicate (call.2.count .sent) call.1.buf⟩, [(call, ret)])
  | _ => none

def halLink : System HalLink HalCall (HalCall × Int) := ⟨HalLink.step⟩

variable {s t : HalLink} {request : HalRequest} {answers : List SendAnswer} {errno : Nat}

/-- What a request that has sent its datagram, or has not, returns. -/
def HalRequest.code (request : HalRequest) (sent : Prop) [Decidable sent] : Int :=
  if request = .cleanup ∨ sent then 0 else -1

theorem count_sent_of_code {ret : Int} (count : answers.count .sent = (if ret = 0 then 1 else 0))
    (code : ret = 0 ∨ ret = -1) :
    answers.count .sent = (if .sent ∈ answers then 1 else 0) ∧ ret = if .sent ∈ answers then 0 else -1 := by
  have sent : SendAnswer.sent ∈ answers ↔ ret = 0 := by
    rw [← List.count_pos_iff, count]
    split_ifs with zero
    · exact iff_of_true Nat.one_pos zero
    · exact iff_of_false (Nat.lt_irrefl 0) zero
  rcases code with rfl | rfl
  · rw [if_pos (sent.mpr rfl), if_pos (sent.mpr rfl)]
    exact ⟨count, rfl⟩
  · rw [if_neg (sent.not.mpr (by decide)), if_neg (sent.not.mpr (by decide))]
    exact ⟨count, rfl⟩

/-- A request sends its datagram once or not at all, and returns accordingly. -/
theorem HalRequest.run_count {ret : Int} {errno' : Nat} (ends : request.run errno answers = some (ret, errno', [])) :
    answers.count .sent = (if .sent ∈ answers then 1 else 0) ∧ ret = request.code (.sent ∈ answers) := by
  cases request with
  | start =>
    obtain ⟨count, code⟩ := mtkStart_count ends
    have sends := count_sent_of_code count code
    simpa only [HalRequest.code, reduceCtorEq, false_or] using sends
  | cleanup =>
    obtain ⟨⟨ret', e, rest⟩, sent, same⟩ := Option.map_eq_some_iff.mp ends
    cases same
    obtain ⟨count, code⟩ := mtkDaemonSend_count sent
    exact ⟨(count_sent_of_code count code).1, (if_pos (.inl rfl)).symm⟩
  | send buf =>
    obtain ⟨count, code⟩ := mtkDaemonSend_count ends
    have sends := count_sent_of_code count code
    simpa only [HalRequest.code, reduceCtorEq, false_or] using sends

theorem HalRequest.run_none (open_ : request.run errno answers = none) : SendAnswer.sent ∉ answers := by
  cases request with
  | start => exact mtkStart_none open_
  | cleanup => exact mtkDaemonSend_none (Option.map_eq_none_iff.mp open_)
  | send buf => exact mtkDaemonSend_none open_

/-- The datagrams of the calls that have sent theirs. -/
def delivered (trace : List (HalCall × Int)) : List (List Byte) :=
  (trace.filter fun call => .sent ∈ call.1.2).map fun call => call.1.1.buf

theorem HalLink.step_received {call : HalCall} {next : HalLink} {out : List (HalCall × Int)}
    (stepped : s.step call = some (next, out)) :
    next.received = s.received ++ delivered out ∧ out = [(call, call.1.code (.sent ∈ call.2))] := by
  rw [step] at stepped
  split at stepped
  · next ret errno ends =>
    cases stepped
    obtain ⟨count, rfl⟩ := HalRequest.run_count ends
    refine ⟨?_, rfl⟩
    dsimp only
    rw [count, delivered, List.filter_cons, List.filter_nil]
    by_cases sent : SendAnswer.sent ∈ call.2
    · simp [sent]
    · simp [sent]
  · cases stepped

theorem delivered_append (first second : List (HalCall × Int)) :
    delivered (first ++ second) = delivered first ++ delivered second := by
  rw [delivered, List.filter_append, List.map_append]
  rfl

theorem HalLink.run_received {tape : List HalCall} {trace : List (HalCall × Int)}
    (ran : halLink.run s tape = some (t, trace)) :
    t.received = s.received ++ delivered trace ∧ trace = tape.map fun call => (call, call.1.code (.sent ∈ call.2)) := by
  induction tape generalizing s trace with
  | nil =>
    cases ran
    exact ⟨(List.append_nil _).symm, rfl⟩
  | cons call rest ih =>
    obtain ⟨next, out, later, stepped, tail, rfl⟩ := System.run_cons_iff.mp ran
    obtain ⟨received, rfl⟩ := HalLink.step_received stepped
    obtain ⟨lastReceived, order⟩ := ih tail
    refine ⟨?_, ?_⟩
    · rw [lastReceived, received, delivered_append, List.append_assoc]
    · rw [List.singleton_append, List.map_cons, order]

/-- However the kernel answers, the daemon gets the datagrams of exactly the requests that sent theirs, once each and in
the order of the calls. Such a request returns 0 and another one -1, but `mtk_cleanup` always returns 0. While a call
has not returned, its datagram has not arrived. -/
theorem halLink_exactlyOnce {tape : List HalCall} {trace : List (HalCall × Int)}
    (ran : halLink.run s tape = some (t, trace)) :
    t.received = s.received ++ delivered trace ∧
    (trace = tape.map fun call => (call, call.1.code (.sent ∈ call.2))) ∧
    ∀ request answers, HalRequest.run request t.errno answers = none → SendAnswer.sent ∉ answers := by
  obtain ⟨received, order⟩ := HalLink.run_received ran
  exact ⟨received, order, fun request answers open_ => HalRequest.run_none open_⟩

/-- The daemon dies between two attempts to start it, and a stop and an end that would block too long are not sent. -/
theorem halLink_exactlyOnce_restarted : ∃ t trace,
    halLink.run ⟨0, []⟩ [(.start, [.failed epipe, .failed eintr, .sent]),
      (mtkStop, List.replicate 11 (.failed eagain)), (.cleanup, List.replicate 11 (.failed eagain))] = some (t, trace) ∧
      t.received = [[0x03]] ∧ trace.map Prod.snd = [0, -1, 0] := by
  obtain ⟨t, trace, ran⟩ : ∃ t trace, halLink.run ⟨0, []⟩ [(.start, [.failed epipe, .failed eintr, .sent]),
      (mtkStop, List.replicate 11 (.failed eagain)), (.cleanup, List.replicate 11 (.failed eagain))] = some (t, trace) :=
    ⟨_, _, rfl⟩
  obtain ⟨received, rfl, -⟩ := halLink_exactlyOnce ran
  exact ⟨t, _, ran, received, rfl⟩

end Link

end Mt6582.Gps

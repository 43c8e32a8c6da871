import Spsw.Interaction.Interleaved
import Spsw.Jni.ClosingPort

/-!
# Closing wakes the calls that wait

One `close0` runs among any number of `readBuffer` and `writeBuffer` calls. A call looks
for the event that tells of closing where the field said it was when it was read; once
`close0` has cleared the field the call has nothing that would wake it.
-/
namespace Spsw.Jni.TermiosIO
open Interaction
open Interaction.Method (mwp mwp_mono mwp_iterate)
open Jnhw (Direction Errno PollResult Timespec POLLIN POLLOUT POLLHUP POLLNVAL INVALID_FD)

/-- Neither changes what the threads share nor waits. -/
def plain : Request → Bool
  | .getFd | .getCloseEventReadFd | .read _ _ | .write _ _ | .clockGettime => true
  | _ => false

def modest : Request → Bool
  | .poll _ _ _ _ | .sleep _ _ _ _ => true
  | e => plain e

/-- The descriptor was good for a first read or write. -/
def Touched (port : ℤ) (h : History termios) : Prop :=
  (∃ room r, (⟨.read port room, r⟩ : Event termios) ∈ h ∧ r ≠ .error .EBADF) ∨
    ∃ bytes r, (⟨.write port bytes, r⟩ : Event termios) ∈ h ∧ r ≠ .error .EBADF

/-- What a call has been told of the descriptors on which it waits. -/
structure Law (h : History termios) : Prop where
  modest : ∀ ev ∈ h, modest ev.1 = true
  polls : ∀ d port close timeout r, (⟨.poll d port close timeout, r⟩ : Event termios) ∈ h →
    (⟨.getCloseEventReadFd, close⟩ : Event termios) ∈ h ∧ Touched port h
  sleeps : ∀ d port close timeout r, (⟨.sleep d port close timeout, r⟩ : Event termios) ∈ h →
    (⟨.poll d port close timeout, none⟩ : Event termios) ∈ h

section Laws
variable {h : History termios} {port close : ℤ}

theorem Touched.append (touched : Touched port h) (t : History termios) :
    Touched port (h ++ t) := by
  rcases touched with ⟨room, r, member, good⟩ | ⟨bytes, r, member, good⟩
  · exact .inl ⟨room, r, List.mem_append_left t member, good⟩
  · exact .inr ⟨bytes, r, List.mem_append_left t member, good⟩

/-- The law is kept by an event if it holds of that event. -/
theorem Law.snoc {ev : Event termios} (law : Law h) (own : TermiosIO.modest ev.1 = true)
    (polls : ∀ d port close timeout r, ev = ⟨.poll d port close timeout, r⟩ →
      (⟨.getCloseEventReadFd, close⟩ : Event termios) ∈ h ∧ Touched port h)
    (sleeps : ∀ d port close timeout r, ev = ⟨.sleep d port close timeout, r⟩ →
      (⟨.poll d port close timeout, none⟩ : Event termios) ∈ h) : Law (h ++ [ev]) := by
  refine ⟨fun ev' member => ?_, fun d port close timeout r member => ?_,
    fun d port close timeout r member => ?_⟩
  · rcases List.mem_append.mp member with old | new
    · exact law.modest ev' old
    · exact List.mem_singleton.mp new ▸ own
  · have known : (⟨.getCloseEventReadFd, close⟩ : Event termios) ∈ h ∧ Touched port h := by
      rcases List.mem_append.mp member with old | new
      · exact law.polls d port close timeout r old
      · exact polls d port close timeout r (List.mem_singleton.mp new).symm
    exact ⟨List.mem_append_left _ known.1, known.2.append _⟩
  · rcases List.mem_append.mp member with old | new
    · exact List.mem_append_left _ (law.sleeps d port close timeout r old)
    · exact List.mem_append_left _ (sleeps d port close timeout r (List.mem_singleton.mp new).symm)

theorem Law.plain (law : Law h) {e : Request} (plain : plain e = true) (r : Answer e) :
    Law (h ++ [⟨e, r⟩]) := by
  refine law.snoc ?_ ?_ ?_
  · cases e <;> first | rfl | cases plain
  · rintro d port close timeout r' ⟨⟩
    cases plain
  · rintro d port close timeout r' ⟨⟩
    cases plain

end Laws

/-- Something that stays true of a history however it goes on. -/
def Lasting (Q : History termios → Prop) : Prop := ∀ h t, Q h → Q (h ++ t)

/-- A part of a call that keeps the law, once `Q` holds. -/
def Steady {α : Type} (Q : History termios → Prop) (m : Native α) : Prop :=
  ∀ h env, Law h → Q h → mwp Law h env m (fun h' _ _ => Law h' ∧ Q h')

namespace Steady
variable {Q : History termios → Prop} {α β : Type}

theorem pure (a : α) : Steady Q (Pure.pure a) := fun _ _ law here => Method.mwp_pure.mpr ⟨law, here⟩

theorem leave (result : ℤ) : Steady Q (leave result : Native α) :=
  fun _ _ law here => mwp_leave.mpr ⟨law, here⟩

theorem throwing (e : JavaException) : Steady Q (throwing e) :=
  fun _ _ law here => mwp_throwing.mpr ⟨law, here⟩

theorem throwInterrupted (s : Settings) (bytes : ℤ) (msg : String) :
    Steady Q (throw_InterruptedIOExceptionWithError s bytes msg) :=
  fun _ _ law here => mwp_throw_InterruptedIOExceptionWithError.mpr ⟨law, here⟩

theorem setErrno (errno : Errno) : Steady Q (setErrno errno) :=
  fun _ _ law here => mwp_setErrno.mpr ⟨law, here⟩

theorem assign (f : Env → Env) : Steady Q (Method.assign f) :=
  fun _ _ law here => Method.mwp_assign.mpr ⟨law, here⟩

theorem ask (lasting : Lasting Q) {e : Request} {out : Answer e → α} (plain : plain e = true) :
    Steady Q ( TermiosIO.ask e out) :=
  fun _ _ law here => mwp_ask.mpr fun r => ⟨law.plain plain r, law.plain plain r, lasting _ _ here⟩

theorem bind {m : Native β} {next : β → Native α} (first : Steady Q m)
    (rest : ∀ b, Steady Q (next b)) :
    Steady Q (m >>= next) := by
  intro h env law here
  apply Method.mwp_seq (first h env law here)
  · exact fun _ _ _ kept => kept
  intro h' env' b kept
  exact rest b h' env' kept.1 kept.2

theorem ite {c : Prop} [Decidable c] {m m' : Native α} (yes : Steady Q m) (no : Steady Q m') :
    Steady Q (if c then m else m') := by
  split
  · exact yes
  · exact no

theorem iterate {τ : Type} {body : τ → Native (τ ⊕ α)} (round : ∀ x, Steady Q (body x)) (x : τ) :
    Steady Q (Method.iterate body x) := by
  intro h env law here
  refine mwp_iterate (fun h' _ _ => Law h' ∧ Q h') ⟨law, here⟩ ?_
  rintro h' env' x ⟨law, here⟩
  apply mwp_mono (round x h' env' law here)
  rintro h'' env'' (result | x | a) after
  · exact after
  · exact after
  · exact after

end Steady

section Steps
variable {Q : History termios → Prop} {s : Settings} {port close fd : ℤ}
  {len : ℕ} {buff : List UInt8}

theorem read_steady (lasting : Lasting Q) (offset room : ℕ) : Steady Q (read fd offset room) := by
  refine .bind (.ask lasting rfl) fun result => ?_
  cases result with
  | ok bytes => exact .bind (.assign _) fun _ => .pure _
  | error errno => exact .bind (.setErrno errno) fun _ => .pure _

theorem write_steady (lasting : Lasting Q) (bytes : List UInt8) : Steady Q (write fd bytes) := by
  refine .bind (.ask lasting rfl) fun result => ?_
  cases result with
  | ok k => exact .pure _
  | error errno => exact .bind (.setErrno errno) fun _ => .pure _

theorem clock_gettime_steady (lasting : Lasting Q) (t : Timespec) : Steady Q (clock_gettime t) := by
  refine .bind (.ask lasting rfl) fun result => ?_
  cases result with
  | ok now => exact .pure now
  | error errno => exact .bind (.setErrno errno) fun _ => .pure t

theorem endTime_steady (lasting : Lasting Q) (timeout : ℤ) : Steady Q (endTime s timeout) :=
  .ite (.bind (clock_gettime_steady lasting _) fun _ => .pure _) (.pure _)

theorem readFailed_steady (lasting : Lasting Q) (msg : String) : Steady Q (readFailed s msg) :=
  .bind (.ask lasting rfl) fun _ => .ite (.throwing _) (.throwInterrupted s 0 msg)

theorem writeFailed_steady (msg : String) : Steady Q (writeFailed s fd msg) :=
  .ite (.throwing _) (.throwInterrupted s 0 msg)

theorem checkReadable_steady (portEvents closeEvents : BitVec 16) :
    Steady Q (checkReadable s portEvents closeEvents) := by
  refine .ite (.bind (.throwing _) fun _ => .leave _) (.ite (.pure _) ?_)
  refine .ite (.bind (.throwing _) fun _ => .leave _)
    (.ite (.bind (.throwing _) fun _ => .leave _) ?_)
  exact .bind (.throwInterrupted _ _ _) fun _ => .leave _

theorem checkWritable_steady (written offset : ℕ) (result : Except Errno PollResult) :
    Steady Q (checkWritable s written offset result) := by
  rcases result with errno | _ | ⟨portEvents, closeEvents⟩
  · exact .bind (.throwInterrupted _ _ _) fun _ => .leave _
  · exact .bind (.throwing _) fun _ => .leave _
  refine .ite (.bind (.throwing _) fun _ => .leave _) (.ite (.pure _) ?_)
  refine .ite (.bind (.throwing _) fun _ => .leave _)
    (.ite (.bind (.throwing _) fun _ => .leave _) ?_)
  exact .bind (.throwInterrupted _ _ _) fun _ => .leave _

/-- The call has been told of both descriptors it waits on. -/
def Armed (port close : ℤ) (h : History termios) : Prop :=
  (⟨.getCloseEventReadFd, close⟩ : Event termios) ∈ h ∧ Touched port h

theorem armed_lasting : Lasting (Armed port close) :=
  fun _ t armed => ⟨List.mem_append_left t armed.1, armed.2.append t⟩

theorem poll_steady (d : Direction) (timeout : ℤ) :
    Steady (Armed port close) (poll d port close timeout) := by
  intro h env law armed
  simp only [poll, Method.mwp_bind, mwp_ask, Method.rest_ok]
  intro ready
  have begun : Law (h ++ [⟨.poll d port close timeout, ready⟩]) := by
    refine law.snoc rfl ?_ (by simp)
    rintro d' port' close' timeout' r ⟨⟩
    exact armed
  have noted : ∀ result, Steady (Armed port close) (noted result) := by
    intro result
    cases result with
    | ok result => exact .pure _
    | error errno => exact .bind (.setErrno errno) fun _ => .pure _
  refine ⟨begun, ?_⟩
  cases ready with
  | some result => exact Method.mwp_pure.mpr (noted result _ _ begun (armed_lasting _ _ armed))
  | none =>
      refine mwp_ask.mpr fun result => ?_
      have slept : Law (h ++ [⟨.poll d port close timeout, none⟩] ++
          [⟨.sleep d port close timeout, result⟩]) := by
        refine begun.snoc rfl (by simp) ?_
        rintro d' port' close' timeout' r ⟨⟩
        exact List.mem_append_right _ (List.mem_singleton_self _)
      exact ⟨slept, noted result _ _ slept (armed_lasting _ _ (armed_lasting _ _ armed))⟩

theorem readRound_steady (endTime : Timespec) (overallRead : ℕ) :
    Steady (Armed port close) (readRound s port close len endTime overallRead) := by
  have lasting : Lasting (Armed port close) := armed_lasting
  refine .bind ?_ fun timeout => .bind (poll_steady .read timeout) fun result => .bind ?_ fun _ =>
    .bind (read_steady lasting _ _) fun nread => .bind ?_ fun _ => .ite (.pure _) (.pure _)
  · refine .ite (.pure _) (.bind (clock_gettime_steady lasting _) fun now => ?_)
    exact .ite (.leave _) (.ite (.pure _) (.pure _))
  · rcases result with errno | _ | ⟨portEvents, closeEvents⟩
    · exact .bind (.throwInterrupted _ _ _) fun _ => .leave _
    · exact .leave _
    · exact checkReadable_steady _ _
  · rcases nread with errno | _ | nread
    · exact .bind (readFailed_steady lasting _) fun _ => .leave _
    · refine .bind (.ask lasting rfl) fun fd => .ite (.bind (.throwing _) fun _ => .leave _) ?_
      exact .bind (.throwInterrupted _ _ _) fun _ => .pure _
    · exact .pure _

theorem awaitFirst_steady : Steady (Armed port close) (awaitFirst s port close len) := by
  have lasting : Lasting (Armed port close) := armed_lasting
  refine .bind (poll_steady .read _) fun result => ?_
  rcases result with errno | _ | ⟨portEvents, closeEvents⟩
  · exact .bind (.throwInterrupted _ _ _) fun _ => .leave _
  · exact .bind (.throwing _) fun _ => .leave _
  refine .bind (checkReadable_steady _ _) fun _ => .bind (read_steady lasting _ _) fun nread => ?_
  cases nread with
  | error errno => exact .bind (readFailed_steady lasting _) fun _ => .leave _
  | ok nread => exact .ite (.leave _) (.pure _)

theorem writeRound_steady (endTime : Timespec) (x : ℕ × ℕ) :
    Steady (Armed fd close) (writeRound s fd close buff endTime x) := by
  have lasting : Lasting (Armed fd close) := armed_lasting
  refine .bind ?_ fun timeout => .bind (poll_steady .write timeout) fun result =>
    .bind (checkWritable_steady _ _ result) fun _ =>
      .bind (write_steady lasting _) fun written => ?_
  · refine .ite (.bind (clock_gettime_steady lasting _) fun now => ?_) (.pure _)
    exact .ite (.bind (.throwing _) fun _ => .leave _) (.pure _)
  · cases written with
    | error errno => exact .bind (writeFailed_steady _) fun _ => .leave _
    | ok written => exact .ite (.pure _) (.pure _)

theorem firstRead_armed {h : History termios} {env : Env} (law : Law h)
    (known : (⟨.getCloseEventReadFd, close⟩ : Event termios) ∈ h) :
    mwp Law h env (firstRead s port len) (fun h' _ x => ∀ nread, x = .ok nread → Law h' ∧
      Armed port close h') := by
  simp only [firstRead, read, Method.mwp_bind, mwp_ask, Method.rest_ok]
  intro r
  have law := law.plain (e := .read port len) rfl r
  refine ⟨law, ?_⟩
  have touched : r ≠ .error .EBADF → Armed port close (h ++ [⟨.read port len, r⟩]) := fun good =>
    ⟨List.mem_append_left _ known,
      .inl ⟨len, r, List.mem_append_right _ (List.mem_singleton_self _), good⟩⟩
  cases r with
  | ok bytes =>
      simp only [Method.mwp_bind, Method.mwp_assign, Method.rest_ok, Method.mwp_pure]
      split
      · exact mwp_leave.mpr (by simp)
      · exact Method.mwp_pure.mpr fun _ _ => ⟨law, touched (by simp)⟩
  | error errno =>
      simp only [Method.mwp_bind, mwp_setErrno, Method.rest_ok, Method.mwp_pure, getFd, mwp_ask]
      refine fun fd => ⟨law.plain rfl fd, ?_⟩
      split
      · simp only [Method.mwp_bind, mwp_throwing, Method.rest_ok, mwp_leave]
        simp
      split
      · next full =>
          refine Method.mwp_pure.mpr fun _ _ => ⟨law.plain rfl fd, armed_lasting _ _ (touched ?_)⟩
          rw [full]
          simp
      · simp only [Method.mwp_bind, mwp_throw_InterruptedIOExceptionWithError,
          Method.rest_ok, mwp_leave]
        simp

theorem firstWrite_touched {h : History termios} {env : Env} (law : Law h) :
    mwp Law h env (firstWrite s fd buff) (fun h' _ x => ∀ written, x = .ok written →
      Law h' ∧ Touched fd h') := by
  simp only [firstWrite, Method.mwp_bind, mwp_write, Method.rest_ok]
  have touched : ∀ r : Answer (.write fd buff), r ≠ .error .EBADF →
    Touched fd (h ++ [⟨.write fd buff, r⟩]) :=
    fun r good => .inr ⟨buff, r, List.mem_append_right _ (List.mem_singleton_self _), good⟩
  refine ⟨fun k => ⟨law.plain rfl _, ?_⟩, fun errno => ⟨law.plain rfl _, ?_⟩⟩
  · split
    · exact mwp_leave.mpr (by simp)
    · exact Method.mwp_pure.mpr fun _ _ => ⟨law.plain rfl _, touched _ (by simp)⟩
  · split
    · next full =>
        refine Method.mwp_pure.mpr fun _ _ => ⟨law.plain rfl _, touched _ ?_⟩
        rw [full]
        simp
    · rw [Method.mwp_bind, writeFailed]
      split
      · simp only [mwp_throwing, Method.rest_ok, mwp_leave]
        simp
      · simp only [mwp_throw_InterruptedIOExceptionWithError, Method.rest_ok, mwp_leave]
        simp

theorem law_nil : Law [] := ⟨by simp, by simp, by simp⟩

theorem readBuffer_law (s : Settings) (len : ℕ) (env : Env) :
    mwp Law [] env (readBuffer s len) (fun _ _ _ => True) := by
  simp only [readBuffer, getFd, getCloseEventReadFd, Method.mwp_bind, mwp_ask, Method.rest_ok]
  intro port
  have law := law_nil.plain (e := .getFd) rfl port
  refine ⟨law, fun close => ?_⟩
  have law := law.plain (e := .getCloseEventReadFd) rfl close
  refine ⟨law,
    mwp_mono (firstRead_armed law (List.mem_append_right _ (List.mem_singleton_self _))) ?_⟩
  rintro h env (result | nread) after
  · trivial
  obtain ⟨law, armed⟩ := after nread rfl
  have rest : Steady (Armed port close) (do
      let endTime ← endTime s s.pollReadTimeout
      let nread ← (if nread = 0 then awaitFirst s port close len else pure nread)
      Method.iterate (readRound s port close len endTime) nread) :=
    .bind (endTime_steady armed_lasting _) fun endTime =>
        .bind (.ite awaitFirst_steady (.pure _)) fun nread =>
      .iterate (fun overallRead => readRound_steady endTime overallRead) nread
  exact mwp_mono (rest h env law armed) fun _ _ _ _ => trivial

theorem writeBuffer_law (s : Settings) (buff : List UInt8) (env : Env) :
    mwp Law [] env (writeBuffer s buff) (fun _ _ _ => True) := by
  simp only [writeBuffer, getFd, Method.mwp_bind, mwp_ask, Method.rest_ok]
  intro fd
  have law := law_nil.plain (e := .getFd) rfl fd
  refine ⟨law, mwp_mono (firstWrite_touched law) ?_⟩
  rintro h env (result | written) after
  · trivial
  obtain ⟨law, touched⟩ := after written rfl
  rw [Method.rest_ok]
  apply Method.mwp_seq (endTime_steady (fun _ t touched => touched.append t) _ h env law touched)
  · exact fun _ _ _ _ => trivial
  intro h env endTime kept
  obtain ⟨law, touched⟩ := kept
  simp only [Method.rest_ok, getCloseEventReadFd, Method.mwp_bind, mwp_ask]
  intro close
  have law := law.plain (e := .getCloseEventReadFd) rfl close
  have armed : Armed fd close (h ++ [⟨.getCloseEventReadFd, close⟩]) :=
    ⟨List.mem_append_right _ (List.mem_singleton_self _), touched.append _⟩
  refine ⟨law, ?_⟩
  exact mwp_mono (Steady.iterate (fun x => writeRound_steady endTime x) _ _ env law armed)
    fun _ _ _ _ => trivial

end Steps

section Running
variable {ι : Type} [DecidableEq ι]

inductive NativeCall where
  | readBuffer (s : Settings) (len : ℕ) (env : Env)
  | writeBuffer (s : Settings) (buff : List UInt8) (env : Env)

def NativeCall.program : NativeCall → Program termios (Except ℤ ℤ × Env)
  | .readBuffer s len env => TermiosIO.readBuffer s len env
  | .writeBuffer s buff env => TermiosIO.writeBuffer s buff env

/-- What the closer and the calls end with. -/
def Outcome : Option ι → Type
  | none => Except ℤ Unit × Env
  | some _ => Except ℤ ℤ × Env

/-- One `close0` and the calls, on a port that is open. -/
def closing (n : Numbers) (s : Settings) (env : Env) (calls : ι → NativeCall) :
    Interleaved.System (Option ι) (fun _ => termios) Outcome Port where
  initial := n.opened
  program
    | none => close0 s env
    | some i => (calls i).program
  answers σ _ := n.answers σ

/-- A call that has read the field of the event after `close0` cleared it begins a `poll`
only after the descriptor is closed. -/
def Timely (s : Interleaved (Option ι) (fun _ => termios) Outcome Port) :
    Option (Interleaved.Label fun _ : Option ι => termios) → Prop
  | some ⟨i, ⟨.poll _ _ _ _, _⟩⟩ =>
      s.shared.opened = true → (⟨.getCloseEventReadFd, INVALID_FD⟩ : Event termios) ∉ s.record i
  | _ => True

/-- `close0` has returned, and a call waits without the signalled event. -/
def LostWakeup (n : Numbers) (s : Interleaved (Option ι) (fun _ => termios) Outcome Port) : Prop :=
  (∃ y, s.thread none = .pure y) ∧ ∃ i d port close timeout k,
    s.thread (some i) = .ask (.sleep d port close timeout) k ∧ ¬n.Told s.shared close

/-- What holds of the record of a call. -/
structure Fine (n : Numbers) (h : History termios) : Prop where
  reads : ∀ fd room r, (⟨.read fd room, r⟩ : Event termios) ∈ h → r ≠ .error .EBADF → fd = n.port
  writes : ∀ fd bytes r, (⟨.write fd bytes, r⟩ : Event termios) ∈ h →
    r ≠ .error .EBADF → fd = n.port
  known : ∀ close, (⟨.getCloseEventReadFd, close⟩ : Event termios) ∈ h →
    close = n.eventRead ∨ close = INVALID_FD
  sleeps : ∀ d port close timeout, (⟨.poll d port close timeout, none⟩ : Event termios) ∈ h →
    close = n.eventRead

theorem fine_nil (n : Numbers) : Fine n [] := ⟨by simp, by simp, by simp, by simp⟩

/-- The field holds the number of the event, or nothing. -/
def Cleared (n : Numbers) (σ : Port) : Prop :=
  σ.closeEventReadFd = n.eventRead ∨ σ.closeEventReadFd = INVALID_FD

theorem answers_modest {n : Numbers} {σ σ' : Port} {ev : Event termios} (own : modest ev.1 = true)
    (answer : n.answers σ ev σ') : σ' = σ := by
  obtain ⟨e, r⟩ := ev
  cases e with
  | getFd => exact answer.2
  | getCloseEventReadFd => exact answer.2
  | read fd room => exact answer.2
  | write fd bytes => exact answer.2
  | poll d port close timeout => exact answer.2.2
  | sleep d port close timeout => exact answer.2
  | clockGettime => exact answer
  | _ => cases own

theorem Fine.snoc {n : Numbers} {h : History termios} {σ σ' : Port}
    {ev : Event termios} (fine : Fine n h) (law : Law (h ++ [ev])) (cleared : Cleared n σ)
    (answer : n.answers σ ev σ')
    (timely : ∀ d port close timeout r, ev = ⟨.poll d port close timeout, r⟩ → σ.opened = true →
      (⟨.getCloseEventReadFd, INVALID_FD⟩ : Event termios) ∉ h) : Fine n (h ++ [ev]) := by
  have reads : ∀ fd room r, (⟨.read fd room, r⟩ : Event termios) ∈ h ++ [ev] →
      r ≠ .error .EBADF → fd = n.port := by
    intro fd room r member good
    rcases List.mem_append.mp member with old | new
    · exact fine.reads fd room r old good
    · cases List.mem_singleton.mp new
      exact (not_imp_comm.mp answer.1 good).1
  have writes : ∀ fd bytes r, (⟨.write fd bytes, r⟩ : Event termios) ∈ h ++ [ev] →
      r ≠ .error .EBADF →
      fd = n.port := by
    intro fd bytes r member good
    rcases List.mem_append.mp member with old | new
    · exact fine.writes fd bytes r old good
    · cases List.mem_singleton.mp new
      exact (not_imp_comm.mp answer.1 good).1
  have known : ∀ close, (⟨.getCloseEventReadFd, close⟩ : Event termios) ∈ h ++ [ev] →
      close = n.eventRead ∨ close = INVALID_FD := by
    intro close member
    rcases List.mem_append.mp member with old | new
    · exact fine.known close old
    · cases List.mem_singleton.mp new
      rw [answer.1]
      exact cleared
  refine ⟨reads, writes, known, ?_⟩
  intro d port close timeout member
  rcases List.mem_append.mp member with old | new
  · exact fine.sleeps d port close timeout old
  -- A call that falls asleep has found its descriptor open.
  cases List.mem_singleton.mp new
  obtain ⟨told, touched⟩ := law.polls d port close timeout none member
  have port_eq : port = n.port := by
    rcases touched with ⟨room, r, member, good⟩ | ⟨bytes, r, member, good⟩
    · exact reads port room r member good
    · exact writes port bytes r member good
  have valid : n.Valid σ port := by
    by_contra invalid
    obtain ⟨events, ready⟩ := answer.2.1 (port_eq ▸ n.port_valid) invalid
    cases ready
  rcases List.mem_append.mp told with old | new
  · refine (fine.known close old).resolve_right ?_
    rintro rfl
    exact timely _ _ _ _ _ rfl valid.2 old
  · cases List.mem_singleton.mp new

/-- The invariant: the port is where `close0` has brought it, and the calls know of it. -/
structure Sound (n : Numbers) (σ : Port) (record : Option ι → History termios) : Prop where
  answered : n.Answered n.opened (record none) σ
  cleared : Cleared n σ
  fine : ∀ i, Fine n (record (some i))

section Runs
variable {n : Numbers} {s : Settings} {env : Env} {calls : ι → NativeCall}
  {t : Interleaved (Option ι) (fun _ => termios) Outcome Port}

def lawOf : Option ι → History termios → Prop
  | none => Numbers.Clears
  | some _ => Law

def endOf (n : Numbers) : (i : Option ι) → History termios → Outcome i → Prop
  | none => fun h _ => ∀ σ, n.Answered n.opened h σ → σ = .closed
  | some _ => fun _ _ => True

omit [DecidableEq ι] in
theorem laws (n : Numbers) (s : Settings) (env : Env) (calls : ι → NativeCall) (i : Option ι) :
    wp (lawOf i) [] ((closing n s env calls).program i) (endOf n i) := by
  cases i with
  | none => exact Numbers.close0_closes n s env
  | some i =>
      change wp Law [] (calls i).program _
      cases calls i with
      | readBuffer s len env => exact readBuffer_law s len env
      | writeBuffer s buff env => exact writeBuffer_law s buff env

omit [DecidableEq ι] in
theorem cleared_answers {σ σ' : Port} {h : History termios} {ev : Event termios}
    (clears : Numbers.Clears (h ++ [ev])) (cleared : Cleared n σ) (answer : n.answers σ ev σ') :
    Cleared n σ' := by
  obtain ⟨e, r⟩ := ev
  cases e with
  | setCloseEventReadFd value =>
      have none := clears value r (List.mem_append_right _ (List.mem_singleton_self _))
      rw [show σ' = { σ with closeEventReadFd := value } from answer]
      exact .inr none
  | setFd value =>
      rw [show σ' = { σ with fd := value } from answer]
      exact cleared
  | setCloseEventWriteFd value =>
      rw [show σ' = { σ with closeEventWriteFd := value } from answer]
      exact cleared
  | getCloseEventWriteFd =>
      rw [answer.2]
      exact cleared
  | tcflush fd =>
      rw [show σ' = σ from answer]
      exact cleared
  | writeEvent fd =>
      by_cases own : fd = n.eventWrite
      · rw [(answer.1 own).2]
        exact cleared
      · rw [answer.2 own]
        exact cleared
  | close fd =>
      by_cases own : fd = n.port
      · rw [answer.1 own]
        exact cleared
      · rw [answer.2 own]
        exact cleared
  | _ =>
      rw [answers_modest rfl answer]
      exact cleared

theorem sound_event {i : Option ι} {ev : Event termios} {shared : Port}
    (sound : Sound n t.shared t.record) (timely : Timely t (some ⟨i, ev⟩))
    (law : lawOf i (t.record i ++ [ev])) (answer : n.answers t.shared ev shared) :
    Sound n shared (Function.update t.record i (t.record i ++ [ev])) := by
  cases i with
  | none =>
      refine ⟨?_, cleared_answers law sound.cleared answer, fun j => ?_⟩
      · rw [Function.update_self]
        exact Numbers.answered_snoc.mpr ⟨_, sound.answered, answer⟩
      · rw [Function.update_of_ne (Option.some_ne_none j)]
        exact sound.fine j
  | some i =>
      have law : Law (t.record (some i) ++ [ev]) := law
      have same : shared = t.shared :=
        answers_modest (law.modest ev (List.mem_append_right _ (List.mem_singleton_self _))) answer
      refine ⟨?_, same ▸ sound.cleared, fun j => ?_⟩
      · rw [Function.update_of_ne (Option.some_ne_none i).symm, same]
        exact sound.answered
      by_cases other : j = i
      · subst other
        rw [Function.update_self]
        refine (sound.fine j).snoc law sound.cleared answer ?_
        rintro d port close timeout r rfl
        exact timely
      · rw [Function.update_of_ne (fun same => other (Option.some.inj same))]
        exact sound.fine j

theorem reached_sound (reached : Interleaved.Reached (closing n s env calls) Timely t) :
    Sound n t.shared t.record := by
  refine reached.invariant (laws n s env calls) (Sound n) ⟨.nil _, .inl rfl, fun _ => fine_nil n⟩ ?_
  intro t i ev shared _ sound timely law answer
  exact sound_event sound timely law answer

/-- In a run whose steps are all timely, every call that still waits after `close0` waits on
the event, which is signalled. -/
theorem closing_wakes (n : Numbers) (s : Settings) (env : Env) (calls : ι → NativeCall)
    (t : Interleaved (Option ι) (fun _ => termios) Outcome Port)
    (reached : Interleaved.Reached (closing n s env calls) Timely t) : ¬LostWakeup n t := by
  rintro ⟨⟨y, returned⟩, i, d, port, close, timeout, k, waiting, untold⟩
  have sound := reached_sound reached
  have closed : t.shared = .closed :=
    reached.returned (laws n s env calls) returned _ sound.answered
  have law : Law _ := reached.law (laws n s env calls) waiting (.error .EAGAIN)
  have begun :=
    law.sleeps d port close timeout _ (List.mem_append_right _ (List.mem_singleton_self _))
  rcases List.mem_append.mp begun with old | new
  · exact untold ⟨(sound.fine i).sleeps d port close timeout old, by rw [closed]; rfl⟩
  · cases List.mem_singleton.mp new

end Runs
end Running

section Examples
def oneRead : Unit → NativeCall := fun _ => .readBuffer .new 1 calling

/-- A read that already waits when the port is closed. -/
theorem closing_wakes_waiting :
    ∃ t, Interleaved.Reached (closing numbers .new calling oneRead) Timely t ∧
    (∃ y, t.thread none = .pure y) ∧ ¬LostWakeup numbers t := by
  have fresh : Interleaved.Reached (closing numbers .new calling oneRead) Timely _ := .start
  have told := (fresh.ask (i := some ()) rfl (5 : ℤ) ⟨rfl, rfl⟩ trivial).ask (i := some ()) rfl
    (6 : ℤ) ⟨rfl, rfl⟩ trivial
  have tried := told.ask (i := some ()) rfl (.ok ⟨[], Nat.zero_le _⟩) ⟨fun other =>
    absurd ⟨rfl, rfl⟩ other, rfl⟩ trivial
  have read : (⟨.getCloseEventReadFd, INVALID_FD⟩ : Event termios) ∉
      [⟨.getFd, (5 : ℤ)⟩, ⟨.getCloseEventReadFd, (6 : ℤ)⟩,
        ⟨.read 5 1, .ok ⟨[], Nat.zero_le _⟩⟩] := by
    simp [INVALID_FD]
  have waits := tried.ask (i := some ()) rfl none ⟨⟨fun told => absurd told.2 (by decide), by simp⟩,
    fun _ other => absurd ⟨rfl, rfl⟩ other, rfl⟩ (fun _ => read)
  have marked :=
    (waits.ask (i := none) rfl (5 : ℤ) ⟨rfl, rfl⟩ trivial).ask (i := none) rfl () rfl trivial
  have event := (marked.ask (i := none) rfl (6 : ℤ) ⟨rfl, rfl⟩ trivial).ask (i := none) rfl (.ok ())
    ⟨fun _ => ⟨rfl, rfl⟩, fun other => absurd rfl other⟩ trivial
  have cleared :=
    ((event.ask (i := none) rfl (.ok ()) rfl trivial).ask (i := none) rfl () rfl trivial).ask
    (i := none) rfl () rfl trivial
  have closed :=
    cleared.ask (i := none) rfl (.ok ()) ⟨fun _ => rfl, fun other => absurd rfl other⟩ trivial
  exact ⟨_, closed, ⟨_, rfl⟩, closing_wakes numbers .new calling oneRead _ closed⟩

/-- The field of the event is cleared between the two fields that the read looks at. -/
theorem wakeup_lost :
    ¬∀ t, Interleaved.Reached (closing numbers .new calling oneRead) (fun _ _ => True) t →
    ¬LostWakeup numbers t := by
  intro wakes
  have fresh : Interleaved.Reached (closing numbers .new calling oneRead) (fun _ _ => True) _ :=
    .start
  have reading := fresh.ask (i := some ()) rfl (5 : ℤ) ⟨rfl, rfl⟩ trivial
  have marked :=
    (reading.ask (i := none) rfl (5 : ℤ) ⟨rfl, rfl⟩ trivial).ask (i := none) rfl () rfl trivial
  have event := (marked.ask (i := none) rfl (6 : ℤ) ⟨rfl, rfl⟩ trivial).ask (i := none) rfl (.ok ())
    ⟨fun _ => ⟨rfl, rfl⟩, fun other => absurd rfl other⟩ trivial
  have cleared :=
    ((event.ask (i := none) rfl (.ok ()) rfl trivial).ask (i := none) rfl () rfl trivial).ask
    (i := none) rfl () rfl trivial
  have told := cleared.ask (i := some ()) rfl INVALID_FD ⟨rfl, rfl⟩ trivial
  have tried := told.ask (i := some ()) rfl (.ok ⟨[], Nat.zero_le _⟩) ⟨fun other =>
    absurd ⟨rfl, rfl⟩ other, rfl⟩ trivial
  have waits := tried.ask (i := some ()) rfl none ⟨⟨fun told => absurd told.1 (by decide), by simp⟩,
    fun _ other => absurd ⟨rfl, rfl⟩ other, rfl⟩ trivial
  have closed :=
    waits.ask (i := none) rfl (.ok ()) ⟨fun _ => rfl, fun other => absurd rfl other⟩ trivial
  exact wakes _ closed ⟨⟨_, rfl⟩, (), _, _, _, _, _, rfl, fun told => absurd told.1 (by decide)⟩

end Examples
end Spsw.Jni.TermiosIO

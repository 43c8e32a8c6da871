import Spsw.Jni.TermiosCalls
import Mathlib.Algebra.GroupWithZero.Nat

/-!
# What a native write reports of its progress

The loop of `writeBuffer` keeps two numbers, the bytes its last `write` has passed on and
all of them. An exception is given the one or the other, or 0; what it is given is right
exactly when the two are the same, or when nothing has been passed on.
-/
namespace Spsw.Jni.TermiosIO
open Interaction
open Interaction.Method (mwp mwp_mono mwp_iterate)
open Jnhw (Direction Errno PollResult Timespec POLLIN POLLOUT POLLHUP POLLNVAL
  INVALID_FD remainingTimeOut)

/-- The bytes that one event has passed on to the descriptor. -/
def accepted : Event termios → ℕ
  | ⟨.write _ _, .ok k⟩ => k.val
  | _ => 0

/-- All bytes that the descriptor has accepted. -/
def transferred (h : History termios) : ℕ := (h.map accepted).sum

/-- The bytes accepted by the last `write` that did not fail. -/
def latest (h : History termios) : ℕ :=
  h.foldl (fun n ev => match ev with
    | ⟨.write _ _, .ok k⟩ => k.val
    | _ => n) 0

/-- Every exception that has the field `bytesTransferred` holds all bytes accepted. -/
def Reports (h : History termios) (raised : List JavaException) : Prop :=
  ∀ e ∈ raised, ∀ n, e.bytesTransferred = some n → n = transferred h

/-- A deadline that passes is met while the last `write` has passed on all there is, and a
`write` on a valid descriptor fails only while there is nothing. -/
structure Foreseen (h : History termios) : Prop where
  deadline : ∀ t r, h = t ++ [⟨.clockGettime, r⟩] → latest h = transferred h
  failure : ∀ t fd bytes errno, h = t ++ [⟨.write fd bytes, .error errno⟩] →
    fd = INVALID_FD ∨ transferred h = 0

section Counting
variable {h : History termios}

@[simp] theorem transferred_append (h t : History termios) :
    transferred (h ++ t) = transferred h + transferred t := by
  rw [transferred, List.map_append, List.sum_append]
  rfl

@[simp] theorem transferred_write (fd : ℤ) (bytes : List UInt8) (k : Fin (bytes.length + 1)) :
    transferred [⟨.write fd bytes, .ok k⟩] = k.val := Nat.add_zero _

@[simp] theorem latest_write (fd : ℤ) (bytes : List UInt8) (k : Fin (bytes.length + 1)) :
    latest (h ++ [⟨.write fd bytes, .ok k⟩]) = k.val := by
  rw [latest, List.foldl_append]
  rfl

/-- Events that pass nothing on. -/
def Idle (t : History termios) : Prop :=
  ∀ h, transferred (h ++ t) = transferred h ∧ latest (h ++ t) = latest h

theorem Idle.cons {ev : Event termios} {t : History termios} (first : Idle [ev]) (next : Idle t) :
    Idle (ev :: t) := by
  intro h
  rw [← List.singleton_append, ← List.append_assoc]
  exact ⟨(next _).1.trans (first h).1, (next _).2.trans (first h).2⟩

theorem idle_event {ev : Event termios} (none : accepted ev = 0)
    (other : ∀ h, latest (h ++ [ev]) = latest h) :
    Idle [ev] := by
  intro h
  refine ⟨?_, other h⟩
  have nothing : transferred [ev] = 0 := none
  rw [transferred_append, nothing, Nat.add_zero]

theorem latest_other {ev : Event termios} (other : ∀ fd bytes, ev.1 ≠ .write fd bytes) :
    latest (h ++ [ev]) = latest h := by
  obtain ⟨e, r⟩ := ev
  rw [latest, List.foldl_append]
  cases e with
  | write fd bytes => exact absurd rfl (other fd bytes)
  | _ => rfl

theorem idle_other {ev : Event termios} (other : ∀ fd bytes, ev.1 ≠ .write fd bytes) :
    Idle [ev] := by
  refine idle_event ?_ fun h => latest_other other
  obtain ⟨e, r⟩ := ev
  cases e with
  | write fd bytes => exact absurd rfl (other fd bytes)
  | _ => rfl

theorem idle_refused (fd : ℤ) (bytes : List UInt8) (errno : Errno) :
    Idle [⟨.write fd bytes, .error errno⟩] := by
  refine idle_event rfl fun h => ?_
  rw [latest, List.foldl_append]
  rfl

theorem Polled.idle {t : History termios} {result : Except Errno PollResult}
    (polled : Polled t result) : Idle t := by
  cases polled with
  | atOnce => exact idle_other (by simp)
  | asleep => exact Idle.cons (idle_other (by simp)) (idle_other (by simp))

/-- Neither the clock nor a `write` is asked last. -/
theorem Polled.last {t : History termios} {result : Except Errno PollResult}
    (polled : Polled t result) :
    ∃ t' ev, t = t' ++ [ev] ∧ ev.1 ≠ .clockGettime ∧ ∀ fd bytes, ev.1 ≠ .write fd bytes := by
  cases polled with
  | atOnce => exact ⟨[], _, rfl, by simp, by simp⟩
  | asleep => exact ⟨[_], _, rfl, by simp, by simp⟩

end Counting

/-- The ways in which a `writeBuffer` ends, by its last event. -/
inductive Ended : History termios → List JavaException → Prop
  | all (t : History termios) (fd : ℤ) (bytes : List UInt8) (k : Fin (bytes.length + 1)) :
      Ended (t ++ [⟨.write fd bytes, .ok k⟩]) []
  | late (t : History termios) (r : Except Errno Timespec) (message : Option String) :
      Ended (t ++ [⟨.clockGettime, r⟩]) [.timeoutIOException (latest t) message]
  | refused (t : History termios) (fd : ℤ) (bytes : List UInt8) (errno : Errno) (message : String)
      (valid : fd ≠ INVALID_FD) :
      Ended (t ++ [⟨.write fd bytes, .error errno⟩]) [.interruptedIOException message 0]
  | closed (t : History termios) (fd : ℤ) (bytes : List UInt8) (errno : Errno)
      (invalid : fd = INVALID_FD) :
      Ended (t ++ [⟨.write fd bytes, .error errno⟩]) [.asynchronousCloseException]
  | waited (h t : History termios) (result : Except Errno PollResult)
      (polled : Polled t result) (e : JavaException)
      (reports : ∀ n, e.bytesTransferred = some n → n = transferred h) : Ended (h ++ t) [e]

section Endings

theorem reports_one (h : History termios) (e : JavaException) :
    Reports h [e] ↔ ∀ n, e.bytesTransferred = some n → n = transferred h := by
  simp [Reports]

theorem foreseen_clock (t : History termios) (r : Except Errno Timespec) :
    Foreseen (t ++ [⟨.clockGettime, r⟩]) ↔ latest t = transferred t := by
  have idle : Idle [⟨.clockGettime, r⟩] := idle_other (by simp)
  have idle := idle t
  constructor
  · intro foreseen
    rw [← idle.1, ← idle.2]
    exact foreseen.deadline t r rfl
  · intro same
    constructor
    · intro t' r' _
      rw [idle.1, idle.2, same]
    · intro t' fd bytes errno last
      cases (List.append_inj' last rfl).2

theorem foreseen_refused (t : History termios) (fd : ℤ) (bytes : List UInt8) (errno : Errno) :
    Foreseen (t ++ [⟨.write fd bytes, .error errno⟩]) ↔ fd = INVALID_FD ∨ transferred t = 0 := by
  have idle := idle_refused fd bytes errno t
  constructor
  · intro foreseen
    rw [← idle.1]
    exact foreseen.failure t fd bytes errno rfl
  · intro none
    constructor
    · intro t' r last
      cases (List.append_inj' last rfl).2
    · intro t' fd' bytes' errno' last
      cases (List.append_inj' last rfl).2
      rw [idle.1]
      exact none

/-- Neither the clock nor a failed `write` is the last event. -/
theorem foreseen_other (t : History termios) {ev : Event termios} (clock : ev.1 ≠ .clockGettime)
    (failed : ∀ fd bytes errno, ev ≠ ⟨.write fd bytes, .error errno⟩) : Foreseen (t ++ [ev]) := by
  constructor
  · intro t' r last
    have same := List.singleton_inj.mp (List.append_inj' last rfl).2
    exact absurd (congrArg Sigma.fst same) clock
  · intro t' fd bytes errno last
    exact absurd (List.singleton_inj.mp (List.append_inj' last rfl).2) (failed fd bytes errno)

/-- An exception reports what has been accepted exactly where that is foreseen. -/
theorem Ended.reports_iff {h : History termios} {raised : List JavaException}
    (ended : Ended h raised) :
    Reports h raised ↔ Foreseen h := by
  cases ended with
  | all t fd bytes k =>
      have nothing : Reports (t ++ [⟨.write fd bytes, .ok k⟩]) [] :=
        fun e member => absurd member List.not_mem_nil
      exact iff_of_true nothing (foreseen_other t (by simp) (by rintro fd' bytes' errno ⟨⟩))
  | late t r message =>
      have idle : Idle [⟨.clockGettime, r⟩] := idle_other (by simp)
      rw [reports_one, foreseen_clock, (idle t).1]
      constructor
      · exact fun reports => Int.ofNat_inj.mp (reports _ rfl)
      · rintro same n ⟨⟩
        rw [same]
  | refused t fd bytes errno message valid =>
      rw [reports_one, foreseen_refused, (idle_refused fd bytes errno t).1]
      constructor
      · exact fun reports => .inr (Int.ofNat_inj.mp (reports 0 rfl)).symm
      · rintro none n ⟨⟩
        rw [none.resolve_left valid]
        rfl
  | closed t fd bytes errno invalid =>
      have nothing : Reports (t ++ [⟨.write fd bytes, .error errno⟩])
          [.asynchronousCloseException] := by
        rw [reports_one]
        simp [JavaException.bytesTransferred]
      exact iff_of_true nothing ((foreseen_refused t fd bytes errno).mpr (.inl invalid))
  | waited h t result polled e reports =>
      obtain ⟨t₀, ev, rfl, clock, write⟩ := polled.last
      have reported : Reports (h ++ (t₀ ++ [ev])) [e] := by
        rw [reports_one, (polled.idle h).1]
        exact reports
      have foreseen : Foreseen (h ++ t₀ ++ [ev]) :=
        foreseen_other _ clock fun fd bytes errno same => write fd bytes (congrArg Sigma.fst same)
      rw [← List.append_assoc] at reported ⊢
      exact iff_of_true reported foreseen

end Endings

/-- The loop's numbers are what they stand for, and nothing is thrown so far. -/
structure Counted (h : History termios) (env : Env) (x : ℕ × ℕ) : Prop where
  raised : env.raised = []
  written : x.1 = latest h
  offset : x.2 = transferred h

/-- What a part of the call owes: it goes on with `Q`, or it has ended the call. -/
def Onward {α : Type} (Q : History termios → Env → α → Prop) (h : History termios) (env : Env) :
    Except ℤ α → Prop
  | .ok a => Q h env a
  | .error _ => Ended h env.raised

section Specs
variable {h : History termios} {env : Env} {s : Settings} {fd close : ℤ}
  {buff : List UInt8} {x : ℕ × ℕ}

theorem Counted.idle (counted : Counted h env x) {t : History termios} {env' : Env} (idle : Idle t)
    (same : Same env env') :
    Counted (h ++ t) env' x :=
  ⟨same.raised.trans counted.raised, counted.written.trans (idle h).2.symm,
    counted.offset.trans (idle h).1.symm⟩

/-- What a failed `write` throws is the end of the call. -/
theorem writeFailed_ended {bytes : List UInt8} {errno : Errno}
    (fresh : env.raised = []) (msg : String) :
    mwp (fun _ => True) (h ++ [⟨.write fd bytes, .error errno⟩]) env
      (writeFailed s fd msg) (fun h' env' x =>
      Ended h' env'.raised ∧ x = .ok ()) := by
  rw [writeFailed]
  split
  · next invalid =>
      rw [mwp_throwing, fresh]
      exact ⟨.closed h fd bytes errno invalid, rfl⟩
  · next valid =>
      rw [mwp_throw_InterruptedIOExceptionWithError, fresh]
      exact ⟨.refused h fd bytes errno _ valid, rfl⟩

theorem firstWrite_counted (fresh : env.raised = []) (untouched : transferred h = 0)
    (unwritten : latest h = 0) :
    mwp (fun _ => True) h env (firstWrite s fd buff)
      (Onward fun h' env' written => Counted h' env' (written, written)) := by
  simp only [firstWrite, Method.mwp_bind, mwp_write, true_and]
  constructor
  · intro k
    simp only [Method.rest_ok]
    split
    · rw [mwp_leave, Onward, fresh]
      exact .all h fd buff k
    · refine Method.mwp_pure.mpr ⟨fresh, (latest_write fd buff k).symm, ?_⟩
      rw [transferred_append, transferred_write, untouched, Nat.zero_add]
  · intro errno
    have idle := idle_refused fd buff errno h
    simp only [Method.rest_ok]
    split
    · exact Method.mwp_pure.mpr ⟨fresh, (idle.2.trans unwritten).symm,
        (idle.1.trans untouched).symm⟩
    · rw [Method.mwp_bind]
      refine mwp_mono (writeFailed_ended ?fresh _) ?_
      case fresh => exact fresh
      rintro h' env' x ⟨ended, rfl⟩
      exact Method.rest_ok.mpr (mwp_leave.mpr ended)

theorem remainingWrite_counted (counted : Counted h env x) (endTime : Timespec) :
    mwp (fun _ => True) h env (remainingWrite s endTime x.1) (Onward fun h' env' _ =>
      Counted h' env' x) := by
  rw [remainingWrite]
  split
  · rw [Method.mwp_bind]
    apply mwp_mono (clock_gettime_calls _)
    rintro h' env' y ⟨r, now, rfl, same, rfl⟩
    apply Method.rest_ok.mpr
    split
    · simp only [Method.mwp_bind, mwp_throwing, Method.rest_ok, mwp_leave]
      rw [Onward, same.raised, counted.raised, counted.written]
      exact .late h r _
    · exact Method.mwp_pure.mpr (counted.idle (idle_other (by simp)) same)
  · exact Method.mwp_pure.mpr counted

/-- After a `poll` the call goes on, or ends with an exception that has the offset or no number. -/
theorem checkWritable_counted (counted : Counted h env x) {t : History termios}
    {result : Except Errno PollResult} (polled : Polled t result) {env' : Env}
    (same : Same env env') :
    mwp (fun _ => True) (h ++ t) env' (checkWritable s x.1 x.2 result) (Onward fun h' env' _ =>
      Counted h' env' x) := by
  have fresh : env'.raised = [] := same.raised.trans counted.raised
  have ends : ∀ e : JavaException, (∀ n : ℤ, e.bytesTransferred = some n → n = x.2) →
      Ended (h ++ t) (env'.raised ++ [e]) := by
    intro e reports
    rw [fresh]
    exact .waited h t result polled e (counted.offset ▸ reports)
  have offset : ∀ n : ℤ, some (x.2 : ℤ) = some n → n = x.2 := by
    rintro n ⟨⟩
    rfl
  rcases result with errno | _ | ⟨portEvents, closeEvents⟩
  · simp only [checkWritable, Method.mwp_bind, mwp_throw_InterruptedIOExceptionWithError,
      Method.rest_ok, mwp_leave]
    exact ends _ offset
  · simp only [checkWritable, Method.mwp_bind, mwp_throwing, Method.rest_ok, mwp_leave]
    exact ends _ offset
  · rw [checkWritable]
    split
    · simp only [Method.mwp_bind, mwp_throwing, Method.rest_ok, mwp_leave]
      exact ends _ (by simp [JavaException.bytesTransferred])
    split
    · exact Method.mwp_pure.mpr (counted.idle polled.idle same)
    split
    · simp only [Method.mwp_bind, mwp_throwing, Method.rest_ok, mwp_leave]
      exact ends _ (by simp [JavaException.bytesTransferred])
    split
    · simp only [Method.mwp_bind, mwp_throwing, Method.rest_ok, mwp_leave]
      exact ends _ (by simp [JavaException.bytesTransferred])
    · simp only [Method.mwp_bind, mwp_throw_InterruptedIOExceptionWithError,
        Method.rest_ok, mwp_leave]
      exact ends _ offset

theorem writeRound_counted (counted : Counted h env x) (endTime : Timespec) :
    mwp (fun _ => True) h env (writeRound s fd close buff endTime x)
      (Method.again Counted fun h' env' _ => Ended h' env'.raised) := by
  rw [writeRound]
  apply Method.mwp_seq (remainingWrite_counted counted endTime)
  · exact fun _ _ _ ended => ended
  intro h₁ env₁ timeout counted
  rw [Method.mwp_bind]
  apply mwp_mono (poll_calls _ _ _ _)
  rintro h₂ env₂ y ⟨t, result, rfl, polled, same, rfl⟩
  rw [Method.rest_ok]
  apply Method.mwp_seq (checkWritable_counted counted polled same)
  · exact fun _ _ _ ended => ended
  intro h₃ env₃ _ counted
  simp only [Method.rest_ok, Method.mwp_bind, mwp_write, true_and]
  constructor
  · intro k
    split
    · refine Method.mwp_pure.mpr ⟨counted.raised, (latest_write fd _ k).symm, ?_⟩
      rw [transferred_append, transferred_write, ← counted.offset]
    · apply Method.mwp_pure.mpr
      simp only [Method.again_done, counted.raised]
      exact .all h₃ fd _ k
  · intro errno
    refine mwp_mono (writeFailed_ended ?fresh _) ?_
    case fresh => exact counted.raised
    rintro h₄ env₄ y ⟨ended, rfl⟩
    exact Method.rest_ok.mpr (mwp_leave.mpr ended)

end Specs

theorem writeBuffer_ended (s : Settings) (buff : List UInt8) (errno : Errno) (memory : List UInt8) :
    mwp (fun _ => True) [] ⟨[], errno, memory⟩ (writeBuffer s buff) (fun h env _ =>
      Ended h env.raised) := by
  simp only [writeBuffer, Method.mwp_bind]
  apply mwp_mono getFd_calls
  rintro h env x ⟨fd, rfl, rfl, rfl⟩
  simp only [Method.rest_ok, Method.mwp_bind]
  apply mwp_mono (firstWrite_counted rfl rfl rfl)
  rintro h env (result | written) counted
  · exact counted
  simp only [Method.rest_ok, Method.mwp_bind]
  apply mwp_mono (endTime_calls _)
  rintro h₁ env₁ x ⟨clock, same, endTime, rfl⟩
  have counted : Counted h₁ env₁ (written, written) := by
    rcases clock with rfl | ⟨r, rfl⟩
    · exact ⟨same.raised.trans counted.raised, counted.written, counted.offset⟩
    · exact counted.idle (idle_other (by simp)) same
  simp only [Method.rest_ok, Method.mwp_bind]
  apply mwp_mono getCloseEventReadFd_calls
  rintro h₂ env₂ x ⟨close, rfl, rfl, rfl⟩
  apply Method.rest_ok.mpr
  refine mwp_iterate Counted (counted.idle (idle_other (by simp)) (.refl _)) ?_
  intro h env x counted
  exact writeRound_counted counted endTime

/-- An exception of `writeBuffer` reports all bytes accepted, exactly where the deadline and a
failed `write` find the call as it expects them to. -/
theorem writeBuffer_reports_iff (s : Settings) (buff : List UInt8)
    (errno : Errno) (memory : List UInt8) {h : History termios} {x : Except ℤ ℤ} {env : Env}
    (run : Program.Returns (writeBuffer s buff ⟨[], errno, memory⟩) h (x, env)) :
    Reports h env.raised ↔ Foreseen h :=
  (wp_returns (writeBuffer_ended s buff errno memory) run : Ended h env.raised).reports_iff

/-- A `poll` that times out after one of two bytes reports this byte. -/
theorem writeBuffer_reports_one : ∃ (h : History termios) (message : Option String),
      Program.Returns (writeBuffer .new [1, 2] ⟨[], .EAGAIN, []⟩) h (.error 1,
      ⟨[.timeoutIOException 1 message], .EAGAIN, []⟩) ∧
    Reports h [.timeoutIOException 1 message] := by
  have run : Program.Returns (writeBuffer (S := termios) .new [1, 2] ⟨[], .EAGAIN, []⟩)
      [⟨.getFd, (5 : ℤ)⟩, ⟨.write 5 [1, 2], .ok 1⟩, ⟨.getCloseEventReadFd, (6 : ℤ)⟩,
        ⟨.poll .write 5 6 (-1), some (.ok .timeout)⟩] (.error 1, _) :=
    Program.replay_sound 20 rfl
  refine ⟨_, _, run, (writeBuffer_reports_iff .new [1, 2] .EAGAIN [] run).mpr
    ⟨fun t r same => ?_, ?_⟩⟩
  · cases (List.append_inj' (show [_, _, _] ++ [_] = t ++ [_] from same) rfl).2
  · intro t fd bytes errno same
    cases (List.append_inj' (show [_, _, _] ++ [_] = t ++ [_] from same) rfl).2

/-- Two of three bytes are accepted one after the other, and then the deadline has passed. -/
theorem writeBuffer_forgets :
    ¬∀ (s : Settings) (buff : List UInt8) (errno : Errno) (memory : List UInt8)
    (h : History termios) (x : Except ℤ ℤ) (env : Env),
    Program.Returns (writeBuffer s buff ⟨[], errno, memory⟩) h (x, env) → Reports h env.raised := by
  intro reports
  have run : Program.Returns (writeBuffer (S := termios)
      { Settings.new with pollWriteTimeout := 1000 } [1, 2, 3] ⟨[], .EAGAIN, []⟩)
      [⟨.getFd, (5 : ℤ)⟩, ⟨.write 5 [1, 2, 3], .ok 1⟩, ⟨.clockGettime, .ok ⟨0, 0⟩⟩,
        ⟨.getCloseEventReadFd, (6 : ℤ)⟩, ⟨.clockGettime, .ok ⟨0, 0⟩⟩,
        ⟨.poll .write 5 6 1000, some (.ok (.ready POLLOUT 0))⟩, ⟨.write 5 [2, 3], .ok 1⟩,
        ⟨.clockGettime, .ok ⟨3, 0⟩⟩] (.error 1, _) :=
    Program.replay_sound 20 rfl
  exact absurd (reports _ _ _ _ _ _ _ run _ List.mem_cons_self 1 rfl) (by decide)

end Spsw.Jni.TermiosIO

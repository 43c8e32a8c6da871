import Spsw.Jni.ReadDelivered

/-!
# When a read reports the end of the stream

A `read` that finds nothing after `poll` has reported something is noticed in the loop, but
not before it. When the time is over then, `readBuffer` returns 0 without an exception, and
`readSingle` takes this for the end of the stream.
-/
namespace Spsw.Jni.TermiosIO
open Interaction
open Interaction.Method (mwp mwp_mono mwp_iterate)
open AbstractSerialPortSocketIO (Readout returned)
open Jnhw (Direction Errno PollResult Timespec POLLIN POLLHUP POLLNVAL INVALID_FD remainingTimeOut)

inductive Phase where
  | plain
  | reported
  | starved
  deriving DecidableEq, Repr

/-- `reported` after a wait that has reported something, `starved` after an empty `read`
that follows it, for as long as there are only clock readings and waits without a report. -/
def Phase.next (phase : Phase) : Event termios → Phase
  | ⟨.poll _ _ _ _, some (.ok (.ready _ _))⟩ | ⟨.sleep _ _ _ _, .ok (.ready _ _)⟩ => .reported
  | ⟨.read _ _, .ok ⟨[], _⟩⟩ => if phase = .reported then .starved else .plain
  | ⟨.clockGettime, _⟩ | ⟨.poll _ _ _ _, none⟩ | ⟨.poll _ _ _ _, some (.ok .timeout)⟩
  | ⟨.sleep _ _ _ _, .ok .timeout⟩ => if phase = .starved then .starved else .plain
  | _ => .plain

def phase (h : History termios) : Phase := h.foldl Phase.next .plain

/-- The read has ended as its time was over after an empty `read`. -/
def Starved (h : History termios) : Prop := phase h = .starved

/-- The event tells that the descriptor is closed. -/
def tells : Event termios → Bool
  | ⟨.getFd, fd⟩ => decide (fd = INVALID_FD)
  | ⟨.poll _ _ _ _, some (.ok (.ready port close))⟩ | ⟨.sleep _ _ _ _, .ok (.ready port close)⟩ =>
      decide (close = POLLIN ∨ port &&& POLLNVAL = POLLNVAL)
  | _ => false

def Seen (h : History termios) : Prop := ∃ ev ∈ h, tells ev = true

/-- What the exceptions and the result of a read tell. -/
structure Tally (h : History termios) (raised : List JavaException) (result : ℤ) : Prop where
  starved : Starved h ↔ result = 0 ∧ raised = []
  closed : ∀ e ∈ raised, e.isAsynchronousClose = true → Seen h

section Events
variable {h t : History termios}

theorem Seen.append (seen : Seen h) (t : History termios) : Seen (h ++ t) := by
  obtain ⟨ev, member, told⟩ := seen
  exact ⟨ev, List.mem_append_left t member, told⟩

theorem seen_snoc {ev : Event termios} (told : tells ev = true) : Seen (h ++ [ev]) :=
  ⟨ev, List.mem_append_right h (List.mem_singleton.mpr rfl), told⟩

@[simp] theorem phase_snoc (h : History termios) (ev : Event termios) :
    phase (h ++ [ev]) = (phase h).next ev := by
  rw [phase, List.foldl_append]
  rfl

/-- A clock reading or a wait without a report. -/
def Passing (t : History termios) : Prop := ∀ h, Starved (h ++ t) ↔ Starved h

theorem passing_clock (r : Except Errno Timespec) : Passing [⟨.clockGettime, r⟩] := by
  intro h
  simp only [Starved, phase_snoc, Phase.next]
  split <;> simp_all

theorem Polled.passing (polled : Polled t (.ok .timeout)) : Passing t := by
  intro h
  cases polled with
  | atOnce =>
      simp only [Starved, phase_snoc, Phase.next]
      split <;> simp_all
  | @asleep d port close timeout =>
      rw [List.append_cons]
      simp only [Starved, phase_snoc, Phase.next]
      by_cases starved : phase h = .starved <;> simp [starved]

theorem Polled.reported {port close : BitVec 16} (polled : Polled t (.ok (.ready port close))) :
    phase (h ++ t) = .reported := by
  cases polled with
  | atOnce => exact phase_snoc h _
  | asleep =>
      rw [List.append_cons]
      exact phase_snoc _ _

theorem Polled.failed {errno : Errno} (polled : Polled t (.error errno)) :
    phase (h ++ t) = .plain := by
  cases polled with
  | atOnce => exact phase_snoc h _
  | asleep =>
      rw [List.append_cons]
      exact phase_snoc _ _

theorem Polled.seen {port close : BitVec 16} (polled : Polled t (.ok (.ready port close)))
    (told : close = POLLIN ∨ port &&& POLLNVAL = POLLNVAL) : Seen (h ++ t) := by
  cases polled with
  | atOnce => exact seen_snoc (decide_eq_true told)
  | asleep => rw [List.append_cons]; exact seen_snoc (decide_eq_true told)

theorem phase_look (fd : ℤ) : phase (h ++ [⟨.getFd, fd⟩]) = .plain := phase_snoc h _

theorem phase_refused (fd : ℤ) (room : ℕ) (errno : Errno) :
    phase (h ++ [⟨.read fd room, .error errno⟩]) = .plain :=
  phase_snoc h _

/-- A `read` that finds nothing is the first sign of an end, if it follows a report. -/
theorem phase_read {fd : ℤ} {room : ℕ} (bytes : { bytes : List UInt8 // bytes.length ≤ room }) :
    phase (h ++ [⟨.read fd room, .ok bytes⟩]) =
      if bytes.val.length = 0 ∧ phase h = .reported then .starved else .plain := by
  obtain ⟨_ | ⟨b, bytes⟩, fits⟩ := bytes
  · simp [Phase.next]
  · simp [Phase.next]

end Events

section Specs
variable {h : History termios} {env : Env} {s : Settings} {port close : ℤ} {len overallRead : ℕ}

/-- Every exception that tells of closing has been preceded by a sign of it. -/
def Announced (h : History termios) (env : Env) : Prop :=
  ∀ e ∈ env.raised, e.isAsynchronousClose = true → Seen h

theorem Announced.append (announced : Announced h env) {env' : Env}
    (same : env'.raised = env.raised) (t : History termios) : Announced (h ++ t) env' := by
  intro e member asynchronous
  rw [same] at member
  exact (announced e member asynchronous).append t

theorem Announced.raise (announced : Announced h env) {e : JavaException}
    (seen : e.isAsynchronousClose = true → Seen h) :
    Announced h { env with raised := env.raised ++ [e] } := by
  intro e' member asynchronous
  rcases List.mem_append.mp member with old | new
  · exact announced e' old asynchronous
  · rw [List.mem_singleton.mp new] at asynchronous
    exact seen asynchronous

/-- A part of a read either goes on or ends the call. -/
def Telling {α : Type} (Q : History termios → Env → α → Prop) (h : History termios) (env : Env) :
    Except ℤ α → Prop
  | .ok a => Q h env a
  | .error result => Tally h env.raised result

/-- `throw ..; return -1;` -/
theorem mwp_throws {α : Type} {Q : History termios → Env → α → Prop}
    (announced : Announced h env) (fed : ¬Starved h) {e : JavaException}
    (seen : e.isAsynchronousClose = true → Seen h) :
    mwp (fun _ => True) h env (do throwing e; leave (-1)) (Telling Q) := by
  simp only [Method.mwp_bind, mwp_throwing, Method.rest_ok, mwp_leave]
  exact ⟨iff_of_false fed fun none => absurd none.1 (by decide), announced.raise seen⟩

theorem mwp_throwsWithError {α : Type} {Q : History termios → Env → α → Prop}
    (announced : Announced h env) (fed : ¬Starved h) (bytesTransferred : ℤ) (msg : String) :
    mwp (fun _ => True) h env
      (do
      throw_InterruptedIOExceptionWithError s bytesTransferred msg; leave (-1)) (Telling Q) := by
  simp only [Method.mwp_bind, mwp_throw_InterruptedIOExceptionWithError, Method.rest_ok, mwp_leave]
  exact ⟨iff_of_false fed fun none => absurd none.1 (by decide),
    announced.raise (by simp [JavaException.isAsynchronousClose])⟩

theorem fed_of {p : Phase} (now : phase h = p) (other : p ≠ .starved) : ¬Starved h := by
  rw [Starved, now]
  exact other

theorem not_starved_nil : ¬Starved [] := fed_of (p := .plain) rfl (by simp)

/-- After a look at the descriptor: it tells whether the port is closed. -/
theorem readFailed_telling {α : Type} {Q : History termios → Env → α → Prop}
    (announced : Announced h env) (msg : String) :
    mwp (fun _ => True) h env (do readFailed s msg; leave (-1)) (Telling Q) := by
  simp only [readFailed, Method.mwp_bind]
  apply mwp_mono getFd_calls
  rintro h' env' x ⟨fd, rfl, rfl, rfl⟩
  have announced : Announced (h ++ [⟨.getFd, fd⟩]) env' := announced.append rfl _
  have fed := fed_of (phase_look (h := h) fd) (by simp)
  apply Method.rest_ok.mpr
  split
  · next closed => exact Method.mwp_bind.mp (mwp_throws announced fed fun _ =>
      seen_snoc (decide_eq_true closed))
  · exact Method.mwp_bind.mp (mwp_throwsWithError announced fed 0 msg)

/-- Nothing has been read or thrown yet. -/
structure Fresh (h : History termios) (env : Env) : Prop where
  plain : phase h = .plain
  none : env.raised = []

theorem Fresh.announced (fresh : Fresh h env) : Announced h env := by
  intro e member
  rw [fresh.none] at member
  cases member

theorem firstRead_telling (positive : 1 ≤ len) (fresh : Fresh h env) :
    mwp (fun _ => True) h env (firstRead s port len) (Telling fun h' env' _ => Fresh h' env') := by
  simp only [firstRead, Method.mwp_bind]
  apply mwp_mono (read_calls port 0 len)
  rintro h' env' x (⟨bytes, rfl, raised, buff, rfl⟩ | ⟨errno, rfl, same, rfl⟩)
  · have fresh : Fresh (h ++ [⟨.read port len, .ok bytes⟩]) env' := by
      refine ⟨?_, raised.trans fresh.none⟩
      rw [phase_read, fresh.plain, if_neg (by simp)]
    simp only [Method.rest_ok]
    split
    · next full =>
        apply mwp_leave.mpr
        refine Tally.mk (iff_of_false (fed_of fresh.plain (by simp)) fun none => ?_) fresh.announced
        have := none.1
        omega
    · apply Method.mwp_pure.mpr
      exact fresh
  · have fresh : Fresh (h ++ [⟨.read port len, .error errno⟩]) env' :=
      ⟨phase_refused port len errno, same.raised.trans fresh.none⟩
    simp only [Method.rest_ok, Method.mwp_bind]
    apply mwp_mono getFd_calls
    rintro h' env'' x ⟨fd, rfl, rfl, rfl⟩
    have fresh : Fresh (h ++ [⟨.read port len, .error errno⟩] ++ [⟨.getFd, fd⟩]) env'' :=
      ⟨phase_look fd, fresh.none⟩
    have fed := fed_of fresh.plain (by simp)
    simp only [Method.rest_ok]
    split
    · next closed => exact mwp_throws fresh.announced fed fun _ => seen_snoc (decide_eq_true closed)
    split
    · apply Method.mwp_pure.mpr
      exact fresh
    · exact mwp_throwsWithError fresh.announced fed 0 _

/-- After a report the call goes on, or it throws what the report tells. -/
theorem checkReadable_telling {portEvents closeEvents : BitVec 16} (announced : Announced h env)
    (reported : phase h = .reported)
    (told : closeEvents = POLLIN ∨ portEvents &&& POLLNVAL = POLLNVAL → Seen h) :
    mwp (fun _ => True) h env (checkReadable s portEvents closeEvents)
      (Telling fun h' env' _ => h' = h ∧ env' = env) := by
  have fed := fed_of reported (by simp)
  unfold checkReadable
  split
  · next closing => exact mwp_throws announced fed fun _ => told (.inl closing)
  split
  · apply Method.mwp_pure.mpr
    exact ⟨rfl, rfl⟩
  split
  · exact mwp_throws announced fed (by simp [JavaException.isAsynchronousClose])
  split
  · next invalid => exact mwp_throws announced fed fun _ => told (.inr invalid)
  · exact mwp_throwsWithError announced fed 0 _

theorem awaitFirst_telling (fresh : Fresh h env) :
    mwp (fun _ => True) h env (awaitFirst s port close len)
      (Telling fun h' env' (nread : ℕ) => Tally h' env'.raised nread) := by
  simp only [awaitFirst, Method.mwp_bind]
  apply mwp_mono (poll_calls .read port close s.pollReadTimeout)
  rintro h' env' x ⟨t, result, rfl, polled, same, rfl⟩
  have announced : Announced (h ++ t) env' := fresh.announced.append same.raised t
  rcases result with errno | (_ | ⟨portEvents, closeEvents⟩)
  · exact mwp_throwsWithError announced (fed_of polled.failed (by simp)) 0 _
  · refine mwp_throws announced ?_ (by simp [JavaException.isAsynchronousClose])
    rw [polled.passing h]
    exact fed_of fresh.plain (by simp)
  simp only [Method.rest_ok]
  apply Method.mwp_seq (checkReadable_telling announced polled.reported polled.seen)
  · exact fun _ _ _ told => told
  intro h' env'' _ same
  obtain ⟨rfl, rfl⟩ := same
  rw [Method.mwp_bind]
  apply mwp_mono (read_calls port 0 len)
  rintro h' env₁ x (⟨bytes, rfl, raised, buff, rfl⟩ | ⟨errno, rfl, same', rfl⟩)
  · have none : env₁.raised = [] := raised.trans (same.raised.trans fresh.none)
    have tally : Tally (h ++ t ++ [⟨.read port len, .ok bytes⟩]) env₁.raised bytes.val.length := by
      refine ⟨?_, announced.append raised _⟩
      rw [Starved, phase_read, polled.reported]
      simp [none]
    simp only [Method.rest_ok]
    split
    · exact mwp_leave.mpr tally
    · apply Method.mwp_pure.mpr
      exact tally
  · exact readFailed_telling (announced.append same'.raised _) _

theorem remaining_telling (tally : Tally h env.raised overallRead) (endTime : Timespec) :
    mwp (fun _ => True) h env (remaining s endTime overallRead)
      (Telling fun h' env' _ => Tally h' env'.raised overallRead) := by
  unfold remaining
  split
  · exact Method.mwp_pure.mpr tally
  · rw [Method.mwp_bind]
    apply mwp_mono (clock_gettime_calls s.currentTime)
    rintro h' env' x ⟨r, now, rfl, same, rfl⟩
    have tally : Tally (h ++ [⟨.clockGettime, r⟩]) env'.raised overallRead := by
      rw [same.raised]
      refine ⟨(passing_clock r h).trans tally.starved, fun e member asynchronous => ?_⟩
      exact (tally.closed e member asynchronous).append _
    simp only [Method.rest_ok]
    split
    · exact mwp_leave.mpr tally
    split
    · exact Method.mwp_pure.mpr tally
    · exact Method.mwp_pure.mpr tally

/-- A wait of the loop: without a report it ends the call, and an empty `read`
before it is not noticed. -/
theorem checkNext_telling (tally : Tally h env.raised overallRead) {t : History termios}
    {result : Except Errno PollResult} (polled : Polled t result) {env' : Env}
    (same : env'.raised = env.raised) :
    mwp (fun _ => True) (h ++ t) env' (checkNext s overallRead result)
      (Telling fun h' env'' _ => phase h' = .reported ∧ Announced h' env'') := by
  have announced : Announced (h ++ t) env' := Announced.append tally.closed same t
  rcases result with errno | (_ | ⟨portEvents, closeEvents⟩)
  · exact mwp_throwsWithError announced (fed_of polled.failed (by simp)) 0 _
  · refine mwp_leave.mpr (Tally.mk ((polled.passing h).trans ?_) announced)
    rw [same]
    exact tally.starved
  · apply mwp_mono (checkReadable_telling announced polled.reported polled.seen)
    rintro h' env'' (result | u) after
    · exact after
    · obtain ⟨rfl, rfl⟩ := after
      exact ⟨polled.reported, announced⟩

/-- An empty `read` of the loop is noticed. -/
theorem countRead_telling {room nread : ℕ} {bytes : { bytes : List UInt8 // bytes.length ≤ room }}
    (announced : Announced (h ++ [⟨.read port room, .ok bytes⟩]) env)
    (number : bytes.val.length = nread) :
    mwp (fun _ => True) (h ++ [⟨.read port room, .ok bytes⟩]) env
      (countRead s overallRead (.ok nread)) (Telling fun h' env' (total : ℕ) =>
      Tally h' env'.raised total) := by
  cases nread with
  | succ nread =>
      apply Method.mwp_pure.mpr
      refine Tally.mk (iff_of_false ?_ fun none => ?_) announced
      · rw [Starved, phase_read, if_neg (fun empty => by omega)]
        simp
      · have := none.1
        omega
  | zero =>
      simp only [countRead, Method.mwp_bind]
      apply mwp_mono getFd_calls
      rintro h' env' x ⟨fd, rfl, rfl, rfl⟩
      have announced : Announced (h ++ [⟨.read port room, .ok bytes⟩] ++ [⟨.getFd, fd⟩]) env' :=
        announced.append rfl _
      have fed : ¬Starved (h ++ [⟨.read port room, .ok bytes⟩] ++ [⟨.getFd, fd⟩]) :=
        fed_of (phase_look fd) (by simp)
      simp only [Method.rest_ok]
      split
      · next closed => exact mwp_throws announced fed fun _ => seen_snoc (decide_eq_true closed)
      · simp only [Method.mwp_bind, mwp_throw_InterruptedIOExceptionWithError, Method.rest_ok]
        apply Method.mwp_pure.mpr
        refine Tally.mk (iff_of_false fed fun none => ?_)
          (announced.raise (by simp [JavaException.isAsynchronousClose]))
        exact List.append_ne_nil_of_right_ne_nil _ (List.cons_ne_nil _ _) none.2

theorem readRound_telling (tally : Tally h env.raised overallRead) (endTime : Timespec) :
    mwp (fun _ => True) h env (readRound s port close len endTime overallRead)
      (Method.again (fun h' env' (overallRead : ℕ) => Tally h' env'.raised overallRead)
        fun h' env' x =>
        Tally h' env'.raised (returned x)) := by
  rw [readRound]
  apply Method.mwp_seq (remaining_telling tally endTime)
  · exact fun _ _ _ told => told
  intro h env timeout tally
  rw [Method.mwp_bind]
  apply mwp_mono (poll_calls .read port close timeout)
  rintro h' env' x ⟨t, result, rfl, polled, same, rfl⟩
  rw [Method.rest_ok]
  apply Method.mwp_seq (checkNext_telling tally polled same.raised)
  · exact fun _ _ _ told => told
  intro h env _ next
  obtain ⟨-, announced⟩ := next
  have onward {h : History termios} {env : Env} {nread : Except Errno ℕ}
      (counting : mwp (fun _ => True) h env (countRead s overallRead nread)
        (Telling fun h' env' (total : ℕ) => Tally h' env'.raised total)) :
      mwp (fun _ => True) h env (countRead s overallRead nread >>= fun overallRead =>
          if overallRead < len then pure (.inl overallRead) else pure (.inr (overallRead : ℤ)))
        (Method.again (fun h' env' (overallRead : ℕ) => Tally h' env'.raised overallRead)
            fun h' env' x =>
          Tally h' env'.raised (returned x)) := by
    apply Method.mwp_seq counting
    · exact fun _ _ _ told => told
    intro h env total tally
    split
    · exact Method.mwp_pure.mpr tally
    · exact Method.mwp_pure.mpr tally
  rw [Method.mwp_bind]
  apply mwp_mono (read_calls port overallRead (len - overallRead))
  rintro h' env' x (⟨bytes, rfl, raised, buff, rfl⟩ | ⟨errno, rfl, same, rfl⟩)
  · exact onward (countRead_telling (announced.append raised _) rfl)
  · exact onward (readFailed_telling (announced.append same.raised _) _)

theorem readBuffer_tally (s : Settings) {len : ℕ} (positive : 1 ≤ len)
    (errno : Errno) (buff : List UInt8) :
    mwp (fun _ => True) [] ⟨[], errno, buff⟩ (readBuffer s len) (fun h env x =>
      Tally h env.raised (returned x)) := by
  simp only [readBuffer, Method.mwp_bind]
  apply mwp_mono getFd_calls
  rintro h env x ⟨port, rfl, rfl, rfl⟩
  simp only [Method.rest_ok, Method.mwp_bind]
  apply mwp_mono getCloseEventReadFd_calls
  rintro h env x ⟨close, rfl, rfl, rfl⟩
  have fresh : Fresh ([] ++ [⟨.getFd, port⟩] ++ [⟨.getCloseEventReadFd, close⟩]) ⟨[],
    errno, buff⟩ := ⟨rfl, rfl⟩
  rw [Method.rest_ok]
  apply Method.mwp_seq (firstRead_telling positive fresh)
  · exact fun _ _ _ told => told
  intro h env nread fresh
  rw [Method.mwp_bind]
  apply mwp_mono (endTime_calls s.pollReadTimeout)
  rintro h₁ env₁ x ⟨clock, same, endTime, rfl⟩
  have fresh : Fresh h₁ env₁ := by
    refine ⟨?_, same.raised.trans fresh.none⟩
    rcases clock with rfl | ⟨r, rfl⟩
    · exact fresh.plain
    · rw [phase_snoc, fresh.plain]
      rfl
  have waited : mwp (fun _ => True) h₁ env₁ (if nread = 0 then awaitFirst s port close len
      else pure nread) (Telling fun h' env' (nread : ℕ) => Tally h' env'.raised nread) := by
    split
    · exact awaitFirst_telling fresh
    · next some =>
        apply Method.mwp_pure.mpr
        refine Tally.mk (iff_of_false (fed_of fresh.plain (by simp)) fun none => ?_) fresh.announced
        have := none.1
        omega
  rw [Method.rest_ok]
  apply Method.mwp_seq waited
  · exact fun _ _ _ told => told
  intro h env nread tally
  exact mwp_iterate (fun h (env : Env) (overallRead : ℕ) => Tally h env.raised overallRead) tally
    fun h env overallRead tally => readRound_telling tally endTime

end Specs
end Spsw.Jni.TermiosIO

namespace Spsw.Jni
open Interaction
open Interaction.Method (mwp mwp_mono tryCatch)
open TermiosIO (termios Settings Starved Seen Tally Delivered not_starved_nil
  readBuffer readBuffer_tally readBuffer_delivered)
open AbstractSerialPortSocketIO
open Jnhw (Errno POLLIN)

/-- There has been a sign that the port was closed. -/
def WasClosed (h : History termios) (ending : Ending) : Prop :=
  Seen h ∨ ending.interrupted = true ∨ ending.closed = true

/-- How a native method ends: `stop` tells which results would be taken for an end. -/
def Outcome (stop : ℤ → Prop) (h : History termios) : Except JavaException ℤ → Prop
  | .ok n => stop n ↔ Starved h
  | .error e => ¬Starved h ∧ (e.isAsynchronousClose = true → Seen h)

section Streams
variable {σ : Type} {h : History termios} {st : σ} {stop : ℤ → Prop}

theorem mwp_tally {s : Settings} {errno : Errno} {buff : List UInt8} {len : ℕ}
    (positive : 1 ≤ len) :
    mwp (fun _ => True) [] st (callReadBuffer s errno buff len) (fun h st' x =>
      st' = st ∧ ∃ r, x = .ok r ∧ Tally h r.raised r.result ∧ Delivered buff len h r) := by
  apply wp_bind.mpr
  apply wp_mono (wp_and (readBuffer_tally s positive errno buff)
    (readBuffer_delivered s len errno buff))
  intro h x both
  exact wp_pure.mpr ⟨rfl, _, rfl, both.1, both.2⟩

/-- What is thrown beside a read's own exceptions is thrown only after bytes have come. -/
theorem mwp_outcome {raised pending : List JavaException} {result n : ℤ}
    (tally : Tally h raised result) (other : pending ≠ [] → result ≠ 0)
    (plain : ∀ e ∈ pending, e.isAsynchronousClose = false)
    (returned : raised = [] → (stop n ↔ Starved h)) :
    mwp (fun _ => True) h st (give (raised ++ pending) n) (fun h' _ x => Outcome stop h' x) := by
  apply mwp_give
  · intro e member
    rcases List.mem_append.mp member with own | new
    · refine And.intro ?_ (tally.closed e own)
      rw [tally.starved]
      exact fun none => List.ne_nil_of_mem own none.2
    · refine And.intro ?_ fun asynchronous => ?_
      · rw [tally.starved]
        exact fun none => other (List.ne_nil_of_mem new) none.1
      · rw [plain e new] at asynchronous
        cases asynchronous
  · intro none
    exact returned (List.append_eq_nil_iff.mp none).1

theorem readBytes_outcome (found : Found) (s : Settings) {bytes : List UInt8}
    (positive : 1 ≤ bytes.length) :
    mwp (fun _ => True) [] bytes (readBytes found s) (fun h _ x =>
      Outcome (fun n => n = 0 ∨ n = -1) h x) := by
  simp only [readBytes, Method.mwp_bind, Method.mwp_locals, Method.rest_ok]
  apply mwp_mono (mwp_tally positive)
  rintro h st x ⟨rfl, r, rfl, tally, delivered⟩
  simp only [Method.rest_ok, Method.mwp_bind, Method.mwp_assign]
  rw [← List.append_nil r.raised]
  refine mwp_outcome tally (absurd rfl) (by simp) fun none => ?_
  have number : r.result ≠ -1 := fun failed => delivered.failed failed none
  rw [tally.starved]
  exact ⟨fun stopped => ⟨stopped.resolve_right number, none⟩, fun starved => .inl starved.1⟩

theorem readBytes_ArgsOK_outcome (m : Machine) (found : Found) (s : Settings)
    (bytes : List UInt8) (off : ℤ) {len : ℤ} (positive : 1 ≤ len) :
    mwp (fun _ => True) [] bytes (readBytes_ArgsOK m found s off len)
      (fun h _ x => Outcome (fun n => n = 0 ∨ n = -1) h x) := by
  unfold readBytes_ArgsOK
  split
  · exact Method.mwp_raise.mpr ⟨not_starved_nil, by simp [JavaException.isAsynchronousClose]⟩
  simp only [Method.mwp_bind]
  apply mwp_mono (mwp_tally (by omega))
  rintro h st x ⟨rfl, r, rfl, tally, delivered⟩
  have returned : r.raised = [] → ((r.result = 0 ∨ r.result = -1) ↔ Starved h) := by
    intro none
    have number : r.result ≠ -1 := fun failed => delivered.failed failed none
    rw [tally.starved]
    exact ⟨fun stopped => ⟨stopped.resolve_right number, none⟩, fun starved => .inl starved.1⟩
  simp only [Method.rest_ok, Method.mwp_bind]
  split
  · next some =>
      simp only [SetByteArrayRegion, Method.mwp_bind, Method.mwp_locals, Method.rest_ok]
      split
      · simp only [Method.mwp_bind, Method.mwp_assign, Method.rest_ok, Method.mwp_pure]
        exact mwp_outcome tally (absurd rfl) (by simp) returned
      · simp only [Method.rest_ok, Method.mwp_pure]
        exact mwp_outcome tally (fun _ =>
          by omega) (by simp [JavaException.isAsynchronousClose]) returned
  · simp only [Method.rest_ok, Method.mwp_pure]
    exact mwp_outcome tally (absurd rfl) (by simp) returned

/-- The count 0 becomes the end of the stream. -/
theorem readSingle_outcome (found : Found) (s : Settings) :
    mwp (fun _ => True) [] st (readSingle found s) (fun h _ x =>
      Outcome (fun n => n = -1) h x) := by
  simp only [readSingle, Method.mwp_bind]
  apply mwp_mono (mwp_tally (le_refl 1))
  rintro h st x ⟨rfl, r, rfl, tally, delivered⟩
  have ended {n : ℤ} (returned : r.raised = [] → (n = -1 ↔ Starved h)) :
      mwp (fun _ => True) h st (give r.raised n) (fun h _ x => Outcome (fun n => n = -1) h x) := by
    rw [← List.append_nil r.raised]
    exact mwp_outcome tally (absurd rfl) (by simp) returned
  simp only [Method.rest_ok]
  split
  · next failed => exact ended fun none => absurd none (delivered.failed failed)
  split
  · next zero =>
      refine ended fun none => iff_of_true rfl ?_
      rw [tally.starved]
      exact ⟨zero, none⟩
  split
  · next one =>
      refine ended fun none => iff_of_false (by omega) ?_
      rw [tally.starved]
      omega
  · next some zero one =>
      refine mwp_outcome tally (fun _ => zero)
        (by simp [JavaException.isAsynchronousClose]) fun none => ?_
      refine iff_of_false some ?_
      rw [tally.starved]
      exact fun starved => zero starved.1

/-- What is left of the outcome once an `AsynchronousCloseException` has become a result. -/
def Caught (stop : ℤ → Prop) (h : History termios) : Except JavaException ℤ → Prop
  | .ok n => (stop n ↔ Starved h) ∨ ¬Starved h ∧ Seen h
  | .error _ => ¬Starved h

/-- `catch (AsynchronousCloseException ace)` -/
theorem mwp_untilClosed {call : JavaCall σ ℤ}
    (native : mwp (fun _ => True) [] st call (fun h _ x => Outcome stop h x)) :
    mwp (fun _ => True) [] st (SerialInputStream.untilClosed call) (fun h _ x =>
      Caught stop h x) := by
  apply Method.mwp_tryCatch
  apply mwp_mono native
  intro h st x outcome
  cases x with
  | ok n => exact Method.caught_ok.mpr (.inl outcome)
  | error e =>
      apply Method.caught_error.mpr
      split
      · next asynchronous => exact Method.mwp_pure.mpr (.inr ⟨outcome.1, outcome.2 asynchronous⟩)
      · exact Method.mwp_raise.mpr outcome.1

/-- `end(completed)` -/
theorem Caught.settled {x : Except JavaException ℤ} (caught : Caught stop h x) (ending : Ending) :
    (∀ n, ending.settle x = .ok n → stop n → WasClosed h ending) ↔
      (Starved h → WasClosed h ending) := by
  have whenClosed (closed : WasClosed h ending) :
      (∀ n, ending.settle x = .ok n → stop n → WasClosed h ending) ↔
        (Starved h → WasClosed h ending) :=
    iff_of_true (fun _ _ _ => closed) fun _ => closed
  by_cases interrupted : ending.interrupted = true
  · exact whenClosed (.inr (.inl interrupted))
  unfold Ending.settle
  rw [if_neg interrupted]
  cases x with
  | ok n =>
      rcases caught with same | ⟨-, seen⟩
      · constructor
        · exact fun closed starved => closed n rfl (same.mpr starved)
        · rintro closed n' ⟨⟩ stopped
          exact closed (same.mp stopped)
      · have closed : WasClosed h ending := .inl seen
        exact iff_of_true (fun _ _ _ => closed) fun _ => closed
  | error e =>
      have fed : ¬Starved h := caught
      refine iff_of_true (fun n thrown => ?_) fun starved => absurd starved fed
      dsimp only at thrown
      split at thrown <;> cases thrown

theorem mwp_stream {call : JavaCall σ ℤ} (ending : Ending)
    (native : mwp (fun _ => True) [] st call (fun h _ x => Outcome stop h x)) :
    mwp (fun _ => True) [] st (interruptible ending (SerialInputStream.untilClosed call))
      (fun h _ x =>
      (∀ n, x = .ok n → stop n → WasClosed h ending) ↔ (Starved h → WasClosed h ending)) := by
  apply wp_bind.mpr
  apply wp_mono (mwp_untilClosed native)
  intro h x caught
  exact wp_pure.mpr (caught.settled ending)

theorem readArray_ends (found : Found) (s : Settings) (ending : Ending) {b : List UInt8}
    (positive : 1 ≤ b.length) :
    mwp (fun _ => True) [] b (SerialInputStream.readArray found s ending) (fun h _ x =>
      (∀ n, x = .ok n → n = 0 ∨ n = -1 → WasClosed h ending) ↔
          (Starved h → WasClosed h ending)) := by
  simp only [SerialInputStream.readArray, Method.mwp_bind, Method.mwp_locals, Method.rest_ok]
  rw [if_neg (by omega)]
  exact mwp_stream ending (readBytes_outcome found s positive)

theorem readRegion_ends (m : Machine) (found : Found) (s : Settings) (ending : Ending)
    (b : List UInt8) (off : ℤ) {len : ℤ} (positive : 1 ≤ len) :
    mwp (fun _ => True) [] b (SerialInputStream.readRegion m found s ending off len) (fun h _ x =>
      (∀ n, x = .ok n → n = 0 ∨ n = -1 → WasClosed h ending) ↔
          (Starved h → WasClosed h ending)) := by
  simp only [SerialInputStream.readRegion, Method.mwp_bind, Method.mwp_locals, Method.rest_ok]
  split
  · exact Method.mwp_raise.mpr (iff_of_true (by simp) fun starved => absurd starved not_starved_nil)
  · rw [if_neg (by omega)]
    exact mwp_stream ending (readBytes_ArgsOK_outcome m found s b off positive)

end Streams

/-- A read of an open port returns nothing, or reports the end of the stream,
exactly if it is starved. -/
theorem read_ends_iff (m : Machine) (found : Found) (s : Settings) (ending : Ending) :
    (∀ (len : ℕ) errno buff h x env, 1 ≤ len →
      Program.Returns (readBuffer s len ⟨[], errno, buff⟩) h (x, env) →
      (1 ≤ returned x ∨ env.raised ≠ [] ↔ ¬Starved h)) ∧
    (∀ h x, Program.Returns (SerialInputStream.read found s ending ()) h (x, ()) →
      ((∀ n, x = .ok n → n = -1 → WasClosed h ending) ↔ (Starved h → WasClosed h ending))) ∧
    (∀ b h x b', 1 ≤ b.length →
      Program.Returns (SerialInputStream.readArray found s ending b) h (x, b') →
      ((∀ n, x = .ok n → n = 0 ∨ n = -1 → WasClosed h ending) ↔ (Starved h → WasClosed h ending))) ∧
    ∀ b (off len : ℤ) h x b', 1 ≤ len →
      Program.Returns (SerialInputStream.readRegion m found s ending off len b) h (x, b') →
      ((∀ n, x = .ok n → n = 0 ∨ n = -1 → WasClosed h ending) ↔
        (Starved h → WasClosed h ending)) := by
  refine ⟨?_, ?_, ?_, ?_⟩
  · intro len errno buff h x env positive run
    obtain ⟨tally, delivered⟩ : Tally h env.raised (returned x) ∧
      Delivered buff len h ⟨returned x, env.raised, env.buff⟩ :=
      wp_returns (wp_and (readBuffer_tally s positive errno buff)
        (readBuffer_delivered s len errno buff)) run
    rw [tally.starved]
    constructor
    · rintro (some | thrown) none
      · have := none.1
        omega
      · exact thrown none.2
    · intro fed
      by_cases none : env.raised = []
      · have number := delivered.counted fun failed => delivered.failed failed none
        have some : returned x ≠ 0 := fun zero => fed ⟨zero, none⟩
        dsimp only at number
        omega
      · exact .inr none
  · intro h x run
    exact wp_returns (mwp_stream ending (readSingle_outcome found s)) run
  · intro b h x b' positive run
    exact wp_returns (readArray_ends found s ending positive) run
  · intro b off len h x b' positive run
    exact wp_returns (readRegion_ends m found s ending b off positive) run

theorem read_ends_one :
    ¬Starved oneByte ∧ (Starved oneByte → WasClosed oneByte ⟨false, false⟩) := by
  obtain ⟨plain, -, array, -⟩ :=
    read_ends_iff ⟨.little, fun _ => true⟩ ⟨.EAGAIN, [0, 0]⟩ Settings.new ⟨false, false⟩
  constructor
  · exact (plain 2 .EAGAIN [0, 0] oneByte (.error 1) ⟨[], .EAGAIN, [7, 0]⟩ (by decide)
      (Program.replay_sound 20 rfl)).mp (.inl (by decide))
  · refine (array [0, 0] oneByte (.ok 1) [7, 0] (by decide) (Program.replay_sound 20 rfl)).mp ?_
    rintro n ⟨⟩ stopped
    exact absurd stopped (by decide)

/-- A port that is open, and readable by what `poll` reports, though a `read` finds nothing. -/
def nothing : History termios :=
  [⟨.getFd, (5 : ℤ)⟩, ⟨.getCloseEventReadFd, (6 : ℤ)⟩,
    ⟨.read 5 1, .error .EAGAIN⟩, ⟨.getFd, (5 : ℤ)⟩,
    ⟨.poll .read 5 6 (-1), some (.ok (.ready POLLIN 0))⟩,
    ⟨.read 5 1, .ok ⟨[], by decide⟩⟩, ⟨.poll .read 5 6 100, some (.ok .timeout)⟩]

theorem nothing_open : ¬WasClosed nothing ⟨false, false⟩ := by
  rintro (seen | closed | closed)
  · revert seen
    unfold Seen
    decide
  · cases closed
  · cases closed

/-- The read returns 0, and the stream has come to its end. -/
theorem read_ends_open :
    (¬∀ (s : Settings) (len : ℕ) errno buff h x env, 1 ≤ len →
      Program.Returns (readBuffer s len ⟨[], errno, buff⟩) h (x, env) → ¬Seen h →
      1 ≤ returned x ∨ env.raised ≠ []) ∧
    ¬∀ (found : Found) (s : Settings) (ending : Ending) h,
      Program.Returns (SerialInputStream.read found s ending ()) h (.ok (-1), ()) →
        WasClosed h ending := by
  constructor
  · intro some
    have run : Program.Returns (readBuffer Settings.new 1 ⟨[], .EAGAIN, [0]⟩) nothing
      (.error 0, _) :=
      Program.replay_sound 20 rfl
    rcases some _ _ _ _ _ _ _ (le_refl 1) run fun seen =>
      nothing_open (.inl seen) with positive | thrown
    · exact absurd positive (by decide)
    · exact thrown rfl
  · intro closed
    exact nothing_open (closed ⟨.EAGAIN, [0]⟩ Settings.new ⟨false,
      false⟩ nothing (Program.replay_sound 20 rfl))

end Spsw.Jni

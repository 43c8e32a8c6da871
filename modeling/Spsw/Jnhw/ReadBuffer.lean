import Spsw.Jnhw.ReadObserved

/-!
# What `read(ByteBuffer)` owes

The bytes the call has taken are in its buffer, however it ends. Its result is
clean exactly when nothing harmful was observed, and an undisturbed call loses
bytes only where a read after some bytes is answered with `EAGAIN`.
-/
namespace Spsw.Jnhw
open Interaction
open Interaction.Method (mwp mwp_iterate mwp_mono)

/-- Nothing has happened yet that spoils the outcome of the call. -/
structure Calm (o : Observed) : Prop where
  deadlineFailed : o.deadlineFailed = false
  cancelled : o.cancelled = false
  interrupted : o.interrupted = false

/-- What a stream can pass on: the number of the bytes, an IOException, or the
end of the stream if there are none. -/
def Clean (bytes : List UInt8) : Except JavaException ℤ → Prop
  | .ok n => n = bytes.length
  | .error e => if e.isAsynchronousClose = true then bytes = [] else e.isIOException = true

/-- The overall timeout could be computed; the cancel event was not met after the
first wait, unless `end` found an interruption; and after some bytes the port was
neither closed nor the thread interrupted. -/
structure Harmless (o : Observed) : Prop where
  deadline : o.deadlineFailed = false
  cancel : o.cancelled = true → o.interrupted = true
  close : o.bytes ≠ [] → o.interrupted = false ∧ o.closed = false

/-- Without a disturbance a call returns the number of its bytes, or has none, or
was refused more by `EAGAIN`. -/
def Kept (o : Observed) (x : Except JavaException ℤ) : Prop :=
  o.undisturbed = true → match x with
    | .ok n => n = o.bytes.length ∧ o.starved = false
    | .error e =>
        e.isAsynchronousClose = false ∧ (o.bytes = [] ∨ o.starved = true ∧ e.isTimeout = false)

/-- A result that is not the number of the bytes is `-1`, for the cancel event
after the first wait. -/
def Counted (o : Observed) : Except JavaException ℤ → Prop
  | .ok n => n = o.bytes.length ∨ n = -1 ∧ o.cancelled = true
  | .error _ => True

/-- `bytes` have been put into `b₀`. -/
def Filled (b₀ : ByteBuffer) (bytes : List UInt8) (b : ByteBuffer) : Prop :=
  ∃ fits, b = b₀.place bytes fits

theorem Filled.start (b : ByteBuffer) : Filled b [] b :=
  ⟨Nat.zero_le _, (ByteBuffer.place_nil _).symm⟩

theorem Filled.more {b₀ b : ByteBuffer} {bytes more : List UInt8} (filled : Filled b₀ bytes b)
    (fits : more.length ≤ b.remaining) : Filled b₀ (bytes ++ more) (b.place more fits) := by
  obtain ⟨fits', rfl⟩ := filled
  have both : (bytes ++ more).length ≤ b₀.remaining := by
    rw [ByteBuffer.place_remaining] at fits
    rw [List.length_append]
    omega
  exact ⟨both, ByteBuffer.place_place fits' fits both⟩

/-- What `read(ByteBuffer)` owes. -/
structure Read (b₀ : ByteBuffer) (o : Observed) (f : Frame)
    (x : Except JavaException ℤ) : Prop where
  filled : Filled b₀ o.bytes f.buffer
  clean : Clean o.bytes x ↔ Harmless o
  kept : Kept o x
  counted : Counted o x

/-- What its blocking part owes before `end`. -/
structure Blocked (b₀ : ByteBuffer) (o : Observed) (f : Frame) (x : Except JavaException ℤ) : Prop
    extends Read b₀ o f x where
  completed : f.completed = true
  deadline : o.deadlineFailed = false
  uninterrupted : o.interrupted = false

/-- What holds wherever the call may go on. -/
structure Reading (b₀ : ByteBuffer) (o : Observed) (f : Frame) (overallRead : ℤ) :
    Prop extends Calm o where
  filled : Filled b₀ o.bytes f.buffer
  begun : o.begun = true
  opened : o.closed = false
  count : overallRead = o.bytes.length
  fed : o.starved = false

/-- What holds once something has gone wrong. -/
structure Stopping (b₀ : ByteBuffer) (o : Observed) (f : Frame) : Prop extends Calm o where
  filled : Filled b₀ o.bytes f.buffer
  disturbed : o.undisturbed = true → o.bytes = [] ∨ o.starved = true

theorem Calm.harmless {o : Observed} (calm : Calm o) (opened : o.closed = false) : Harmless o :=
  ⟨calm.deadlineFailed, by simp [calm.cancelled], fun _ => ⟨calm.interrupted, opened⟩⟩

/-- The loop goes on, or the blocking part is over. -/
abbrev Onward (b₀ : ByteBuffer) : History posix → Frame → Except JavaException (ℤ ⊕ ℤ) → Prop :=
  Method.again (fun h f n => Reading b₀ (observed h) f n ∧ (observed h).waited = true)
    (fun h f x => Blocked b₀ (observed h) f x)

section Specs
variable {h : History posix} {b₀ : ByteBuffer} {f : Frame} {s : Socket} {overallRead : ℤ} {α : Type}

/-- An IOException, other than for a close, is a clean end. -/
theorem Stopping.error {o : Observed} {e : JavaException} (stopping : Stopping b₀ o f)
    (opened : o.closed = false) (completed : f.completed = true) (io : e.isIOException = true)
    (notClosed : e.isAsynchronousClose = false) (notTimeout : e.isTimeout = false) :
    Blocked b₀ o f (.error e) := by
  refine ⟨⟨stopping.filled, ?_, ?_, trivial⟩, completed,
    stopping.deadlineFailed, stopping.interrupted⟩
  · simp only [Clean, notClosed, Bool.false_eq_true, if_false, io, true_iff]
    exact stopping.harmless opened
  · intro undisturbed
    rcases stopping.disturbed undisturbed with none | starved
    · exact ⟨notClosed, .inl none⟩
    · exact ⟨notClosed, .inr ⟨starved, notTimeout⟩⟩

/-- A look at `fd` changes nothing but what is known of `fd`. -/
theorem Stopping.fdIsInvalid (stopping : Stopping b₀ (observed h) f) (r : Bool) :
    Stopping b₀ (observed (h ++ [⟨.fdIsInvalid, r⟩])) f := by
  obtain ⟨⟨deadline, cancel, interrupt⟩, filled, disturbed⟩ := stopping
  rw [observed_snoc]
  exact ⟨⟨deadline, cancel, interrupt⟩, filled,
    fun calm => disturbed (Bool.and_eq_true _ _ ▸ calm).1⟩

/-- The text of the poll structures tells nothing. -/
theorem Stopping.pollFdsToString {d : Direction} {fds : String}
    (stopping : Stopping b₀ (observed h) f) :
    Stopping b₀ (observed (h ++ [⟨.pollFdsToString d, fds⟩])) f := by
  obtain ⟨⟨deadline, cancel, interrupt⟩, filled, disturbed⟩ := stopping
  rw [observed_snoc]
  exact ⟨⟨deadline, cancel, interrupt⟩, filled,
    fun calm => disturbed (Bool.and_eq_true _ _ ▸ calm).1⟩

theorem observed_fdIsInvalid (r : Bool) :
    (observed (h ++ [⟨.fdIsInvalid, r⟩])).closed = (r && !(observed h).bytes.isEmpty) := by
  simp [observe]

/-- A close is a clean end only as long as no byte has been taken. -/
theorem Stopping.closedOrCancelled {post : History posix → Frame → Except JavaException α → Prop}
    (stopping : Stopping b₀ (observed h) f) (completed : f.completed = true)
    (stop : ∀ h' f' e, Blocked b₀ (observed h') f' (.error e) → post h' f' (.error e)) :
    mwp (fun _ => True) h f closedOrCancelled post := by
  simp only [Jnhw.closedOrCancelled, Jnhw.fdIsInvalid, Method.mwp_bind, mwp_ask, true_and,
    Method.rest_ok]
  intro r
  have later := stopping.fdIsInvalid r
  have closed := observed_fdIsInvalid (h := h) r
  cases r with
  | true =>
      simp only [if_true, Method.mwp_raise]
      refine stop _ _ _ ⟨⟨later.filled, ?_, ?_, trivial⟩, completed,
        later.deadlineFailed, later.interrupted⟩
      · constructor
        · refine fun none => ⟨later.deadlineFailed, ?_, fun some => absurd none some⟩
          rw [later.cancelled]
          exact fun never => absurd never Bool.false_ne_true
        · intro harmless
          by_contra some
          have opened := (harmless.close some).2
          rw [closed, Bool.true_and, Bool.not_eq_false', List.isEmpty_iff] at opened
          rw [observed_bytes, received_append, ← observed_bytes, opened] at some
          exact some rfl
      · intro calm
        simp [observe] at calm
  | false =>
      simp only [Bool.false_eq_true, if_false, Method.mwp_raise]
      exact stop _ _ _ (later.error (by rw [closed, Bool.false_and]) completed rfl rfl rfl)

theorem Stopping.pollReadFailed {post : History posix → Frame → Except JavaException α → Prop}
    {nee : Errno} {message : String} (stopping : Stopping b₀ (observed h) f)
    (opened : (observed h).closed = false)
    (stop : ∀ h' f' e, Blocked b₀ (observed h') f' (.error e) → post h' f' (.error e)) :
    mwp (fun _ => True) h f (pollReadFailed nee message) post := by
  simp only [Jnhw.pollReadFailed, Method.mwp_bind, mwp_complete, Method.rest_ok, Method.mwp_raise]
  have here : Stopping b₀ (observed h) { f with completed := true } :=
    ⟨stopping.toCalm, stopping.filled, stopping.disturbed⟩
  exact stop _ _ _ (here.error opened rfl rfl rfl rfl)

theorem Stopping.readFailed {post : History posix → Frame → Except JavaException α → Prop}
    {nee : Errno} {message : String} (stopping : Stopping b₀ (observed h) f)
    (stop : ∀ h' f' e, Blocked b₀ (observed h') f' (.error e) → post h' f' (.error e)) :
    mwp (fun _ => True) h f (readFailed nee message) post := by
  simp only [Jnhw.readFailed, Jnhw.fdIsInvalid, Method.mwp_bind, mwp_ask, true_and, Method.rest_ok]
  intro r
  have later := stopping.fdIsInvalid r
  have done : Stopping b₀ (observed (h ++ [⟨.fdIsInvalid, r⟩])) { f with completed := true } :=
    ⟨later.toCalm, later.filled, later.disturbed⟩
  cases r with
  | true =>
      simp only [if_true, Method.mwp_bind, mwp_complete, Method.rest_ok]
      exact done.closedOrCancelled rfl stop
  | false =>
      have opened := observed_fdIsInvalid (h := h) false
      simp only [Bool.false_eq_true, if_false]
      split
      · simp only [Method.mwp_bind, mwp_complete, Method.rest_ok, Method.mwp_raise]
        exact stop _ _ _ (done.error opened rfl rfl rfl rfl)
      · simp only [Method.mwp_bind, mwp_complete, Method.rest_ok, Method.mwp_raise]
        exact stop _ _ _ (done.error opened rfl rfl rfl rfl)

/-- After `POLLIN` alone the call goes on; anything else ends it. -/
theorem mwp_checkReadable {port : BitVec 16}
    {post : History posix → Frame → Except JavaException Unit → Prop}
    (go : port = POLLIN → post h f (.ok ()))
    (stopping : port ≠ POLLIN → Stopping b₀ (observed h) f ∧ (observed h).closed = false)
    (stop : ∀ h' f' e, Blocked b₀ (observed h') f' (.error e) → post h' f' (.error e)) :
    mwp (fun _ => True) h f (checkReadable port) post := by
  unfold checkReadable
  split
  · next readable => simpa using go readable
  · next other =>
      obtain ⟨⟨calm, filled, disturbed⟩, opened⟩ := stopping other
      have done : Stopping b₀ (observed h) { f with completed := true } := ⟨calm, filled, disturbed⟩
      split
      · simp only [Method.mwp_bind, mwp_complete, Method.rest_ok, Method.mwp_raise]
        exact stop _ _ _ (done.error opened rfl rfl rfl rfl)
      · split
        · simp only [Method.mwp_bind, mwp_complete, Method.rest_ok]
          exact done.closedOrCancelled rfl stop
        · simp only [pollFdsToString, Method.mwp_bind, mwp_complete, mwp_ask,
            true_and, Method.rest_ok, Method.mwp_raise]
          intro fds
          refine stop _ _ _ (done.pollFdsToString.error ?_ rfl rfl rfl rfl)
          rw [observed_snoc]
          exact opened

theorem Reading.completed {o : Observed} (reading : Reading b₀ o f overallRead) :
    Blocked b₀ o { f with completed := true } (.ok overallRead) :=
  ⟨⟨reading.filled, iff_of_true reading.count (reading.harmless reading.opened),
    fun _ => ⟨reading.count, reading.fed⟩, .inl reading.count⟩, rfl,
      reading.deadlineFailed, reading.interrupted⟩

theorem Reading.received (reading : Reading b₀ (observed h) f overallRead)
    (bytes : { bytes : List UInt8 // bytes.length ≤ f.buffer.remaining }) :
    Reading b₀ (observed (h ++ [⟨.read f.buffer.remaining, .ok bytes⟩]))
      { f with buffer := f.buffer.place bytes.val bytes.property }
        (overallRead + bytes.val.length) := by
  obtain ⟨⟨deadline, cancel, interrupt⟩, filled, begun, opened, count, fed⟩ := reading
  rw [observed_snoc]
  refine ⟨⟨deadline, cancel, interrupt⟩, filled.more bytes.property, begun, opened, ?_, fed⟩
  simp [observe, count]

/-- A read that fails is a disturbance, or has starved the call, or has found it without a byte. -/
theorem Reading.refused {room : ℕ} {nee : Errno} (reading : Reading b₀ (observed h) f overallRead) :
    Stopping b₀ (observed (h ++ [⟨.read room, .error nee⟩])) f := by
  obtain ⟨⟨deadline, cancel, interrupt⟩, filled, begun, opened, count, fed⟩ := reading
  rw [observed_snoc]
  refine ⟨⟨deadline, cancel, interrupt⟩, filled, fun calm => ?_⟩
  simp only [observe, undisturbed, Bool.and_eq_true, decide_eq_true_eq] at calm
  by_cases none : (observed h).bytes = []
  · exact .inl none
  · right
    simp [observe, calm.2, none]

/-- A read while the call may go on. -/
theorem readOn_onward (reading : Reading b₀ (observed h) f overallRead)
    (waited : (observed h).waited = true) :
    mwp (fun _ => True) h f (readOn overallRead) (Onward b₀) := by
  simp only [readOn, Method.mwp_bind, mwp_read, true_and]
  constructor
  · intro bytes
    simp only [Method.rest_ok, Method.mwp_bind, Method.mwp_locals]
    have more := reading.received bytes
    split
    · simp only [Method.mwp_pure, Onward, Method.again_next]
      exact ⟨more, by simp [observe, waited]⟩
    · simp only [Method.mwp_bind, mwp_complete, Method.rest_ok, Method.mwp_pure,
        Onward, Method.again_done]
      exact more.completed
  · intro nee
    exact reading.refused.readFailed (fun _ _ _ blocked => blocked)

theorem Reading.stopping {o : Observed} (reading : Reading b₀ o f overallRead)
    (disturbed : o.undisturbed = false) : Stopping b₀ o f :=
  ⟨reading.toCalm, reading.filled, by simp [disturbed]⟩

/-- An event that tells nothing new leaves the call where it is. -/
theorem Reading.neutral {ev : Event posix} (reading : Reading b₀ (observed h) f overallRead)
    (same : notice (observed h) ev = observed h) :
    Reading b₀ (observed (h ++ [ev])) f overallRead := by
  have eq : observed (h ++ [ev]) =
      { observed h with undisturbed := (observed h).undisturbed && undisturbed ev } := by
    simp only [observed_append, List.foldl_cons, List.foldl_nil, observe, same]
  obtain ⟨⟨deadline, cancel, interrupt⟩, filled, begun, opened, count, fed⟩ := reading
  rw [eq]
  exact ⟨⟨deadline, cancel, interrupt⟩, filled, begun, opened, count, fed⟩

/-- An answer of `poll` without the cancel event lets the call go on. -/
theorem Reading.polled {timeout : ℤ} {port cancel : BitVec 16}
    (reading : Reading b₀ (observed h) f overallRead)
    (notCancelled : cancel = POLLIN → (observed h).waited = false) :
    Reading b₀ (observed (h ++ [⟨.poll .read timeout, .ok (.ready port cancel)⟩])) f
      overallRead := by
  have late : ((observed h).waited && decide (cancel = POLLIN)) = false := by
    by_cases event : cancel = POLLIN
    · rw [notCancelled event, Bool.false_and]
    · rw [decide_eq_false event, Bool.and_false]
  obtain ⟨⟨deadline, cancelled, interrupt⟩, filled, begun, opened, count, fed⟩ := reading
  simp only [observed_append, List.foldl_cons, List.foldl_nil, observe, notice, late, Bool.or_false]
  exact ⟨⟨deadline, cancelled, interrupt⟩, filled, begun, opened, count, fed⟩

theorem ready_onward {timeout : ℤ} {port cancel : BitVec 16}
    (reading : Reading b₀ (observed h) f overallRead)
    (notCancelled : cancel = POLLIN → (observed h).waited = false) :
    mwp (fun _ => True) (h ++ [⟨.poll .read timeout, .ok (.ready port cancel)⟩]) f
      (do checkReadable port; readOn overallRead) (Onward b₀) := by
  have polled : Reading b₀ (observed (h ++ [⟨.poll .read timeout, .ok (.ready port cancel)⟩])) f
      overallRead := reading.polled notCancelled
  rw [Method.mwp_bind]
  refine mwp_checkReadable (fun _ => ?_) (fun other => ?_) (fun _ _ _ blocked => blocked)
  · exact readOn_onward polled (by simp [observe])
  · exact ⟨polled.stopping (by simp [observe, other]), polled.opened⟩

/-- What the poll of the loop has found: an error, a timeout, or some events. -/
def Polled (b₀ : ByteBuffer) (f : Frame) (overallRead : ℤ) (h : History posix) (f' : Frame) :
    Except JavaException (Except Errno PollResult) → Prop
  | .error _ => False
  | .ok (.error _) => f' = f ∧ Stopping b₀ (observed h) f ∧ (observed h).closed = false
  | .ok (.ok .timeout) => f' = f ∧ Reading b₀ (observed h) f overallRead
  | .ok (.ok (.ready port cancel)) => f' = f ∧ ∃ h₁ timeout,
      h = h₁ ++ [⟨.poll .read timeout, .ok (.ready port cancel)⟩] ∧
      Reading b₀ (observed h₁) f overallRead ∧ (observed h₁).waited = true

theorem poll_polled {timeout : ℤ} (reading : Reading b₀ (observed h) f overallRead)
    (waited : (observed h).waited = true) :
    mwp (fun _ => True) h f (poll .read timeout) (Polled b₀ f overallRead) := by
  refine mwp_ask.mpr (fun r => ⟨trivial, ?_⟩)
  rcases r with nee | _ | ⟨port, cancel⟩
  · have failed : Reading b₀ (observed (h ++ [⟨.poll .read timeout, .error nee⟩])) f overallRead :=
      reading.neutral rfl
    exact ⟨rfl, failed.stopping (by simp [observe]), failed.opened⟩
  · exact ⟨rfl, reading.neutral rfl⟩
  · exact ⟨rfl, h, timeout, rfl, reading, waited⟩

theorem pollForRead_polled {endTime : Option Timespec}
    (reading : Reading b₀ (observed h) f overallRead) (waited : (observed h).waited = true) :
    mwp (fun _ => True) h f (pollForRead s endTime) (Polled b₀ f overallRead) := by
  cases endTime with
  | none => exact poll_polled reading waited
  | some endTime =>
      simp only [pollForRead, clock_gettime, Method.mwp_bind]
      refine mwp_ask.mpr (fun now => ⟨trivial, ?_⟩)
      cases now with
      | error nee =>
          have late : ((observed h).deadlineFailed || !(observed h).begun) =
              (observed h).deadlineFailed := by
            rw [reading.begun, Bool.not_true, Bool.or_false]
          have failed : Reading b₀ (observed (h ++ [⟨.clockGettime, .error nee⟩])) f overallRead :=
            reading.neutral (by simp only [notice, late])
          simp only [Method.rest_ok, Method.mwp_pure]
          exact ⟨rfl, failed.stopping (by simp [observe]), failed.opened⟩
      | ok currentTime =>
          have timed : Reading b₀
            (observed (h ++ [⟨.clockGettime, .ok currentTime⟩])) f overallRead :=
            reading.neutral rfl
          simp only [Method.rest_ok]
          split
          · exact Method.mwp_pure.mpr ⟨rfl, timed⟩
          · exact poll_polled timed (by simpa [observe] using waited)

/-- One round of the loop. Only the cancel event ends it in a count that is not
that of the bytes. -/
theorem readRound_onward {endTime : Option Timespec}
    (reading : Reading b₀ (observed h) f overallRead) (waited : (observed h).waited = true) :
    mwp (fun _ => True) h f (readRound s endTime overallRead) (Onward b₀) := by
  simp only [readRound, Method.mwp_bind]
  apply mwp_mono (pollForRead_polled reading waited)
  rintro h f' x polled
  rcases x with e | nee | _ | ⟨port, cancel⟩
  · exact polled.elim
  · obtain ⟨rfl, stopping, opened⟩ := polled
    exact stopping.pollReadFailed opened (fun _ _ _ blocked => blocked)
  · obtain ⟨rfl, reading⟩ := polled
    simp only [Method.rest_ok, Method.mwp_bind, mwp_complete, Method.mwp_pure,
      Onward, Method.again_done]
    exact reading.completed
  · obtain ⟨rfl, h₁, timeout, rfl, reading, waited⟩ := polled
    simp only [Method.rest_ok]
    split
    · next event =>
        simp only [Method.mwp_bind, mwp_complete, Method.rest_ok, Method.mwp_pure, Onward,
          Method.again_done]
        subst event
        refine ⟨⟨?_, ?_, ?_, .inr ⟨rfl, ?_⟩⟩, rfl, ?_, ?_⟩
        · simpa [observe] using reading.filled
        · refine iff_of_false ?_ (fun harmless => ?_)
          · simp only [Clean]
            omega
          · have := harmless.cancel (by simp [observe, waited])
            simp [observe, reading.interrupted] at this
        · intro calm
          simp [observe, POLLIN] at calm
        · simp [observe, waited]
        · simpa [observe] using reading.deadlineFailed
        · simpa [observe] using reading.interrupted
    · next other => exact ready_onward reading (fun event => absurd event other)

theorem awaitFirst_onward (reading : Reading b₀ (observed h) f 0)
    (fresh : (observed h).waited = false) :
    mwp (fun _ => True) h f (awaitFirst s) (Onward b₀) := by
  simp only [awaitFirst, poll, Method.mwp_bind]
  refine mwp_ask.mpr (fun polled => ⟨trivial, ?_⟩)
  rcases polled with nee | _ | ⟨port, cancel⟩
  · have failed : Reading b₀ (observed (h ++ [⟨.poll .read s.pollReadTimeout, .error nee⟩])) f 0 :=
      reading.neutral rfl
    exact (failed.stopping
      (by simp [observe])).pollReadFailed failed.opened (fun _ _ _ blocked => blocked)
  · have late : Reading b₀ (observed (h ++ [⟨.poll .read s.pollReadTimeout, .ok .timeout⟩])) f 0 :=
      reading.neutral rfl
    have none : (observed (h ++ [⟨.poll .read s.pollReadTimeout, .ok .timeout⟩])).bytes = [] := by
      have := late.count
      rw [← List.length_eq_zero_iff]
      omega
    simp only [Method.rest_ok, Method.mwp_bind, mwp_complete, Method.mwp_raise,
      Onward, Method.again_error]
    refine ⟨⟨late.filled, ?_, fun _ => ⟨rfl, .inl none⟩, trivial⟩, rfl,
      late.deadlineFailed, late.interrupted⟩
    exact iff_of_true rfl (late.harmless late.opened)
  · simp only [Method.rest_ok]
    split
    · next event =>
        have polled : Reading b₀ (observed (h ++ [⟨.poll .read s.pollReadTimeout,
            .ok (.ready port cancel)⟩])) f 0 := reading.polled (fun _ => fresh)
        have stopping := polled.stopping (by simp [observe, event, POLLIN])
        simp only [Method.mwp_bind, mwp_complete, Method.rest_ok]
        exact Stopping.closedOrCancelled ⟨stopping.toCalm, stopping.filled, stopping.disturbed⟩ rfl
          (fun _ _ _ blocked => blocked)
    · exact ready_onward reading (fun _ => fresh)

/-- `end` throws exactly when it finds the thread interrupted. -/
theorem endBlocking_read {x : Except JavaException ℤ} (blocked : Blocked b₀ (observed h) f x) :
    mwp (fun _ => True) h f endBlocking
      (Method.settle (fun h f x => Read b₀ (observed h) f x) x) := by
  obtain ⟨⟨filled, clean, kept, counted⟩, completed, deadline, uninterrupted⟩ := blocked
  simp only [endBlocking, isInterrupted, Method.mwp_bind, Method.mwp_locals, Method.rest_ok]
  refine mwp_ask.mpr (fun r => ⟨trivial, ?_⟩)
  cases r with
  | true =>
      simp only [Method.rest_ok, if_true, Method.mwp_raise, Method.settle_error]
      refine ⟨by simpa [observe] using filled, ?_, by simp [Kept, observe], trivial⟩
      constructor
      · intro none
        exact ⟨by simpa [observe] using deadline, by simp [observe], fun some => absurd none some⟩
      · intro harmless
        by_contra some
        have := (harmless.close some).1
        simp [observe] at this
  | false =>
      have known : { observed h with interrupted := false } = observed h := by rw [← uninterrupted]
      have same : observed (h ++ [⟨.interrupted, false⟩]) = observed h := by
        simp only [observed_append, List.foldl_cons, List.foldl_nil, observe,
          notice, known, undisturbed, Bool.not_false, Bool.and_true]
      simp only [Method.rest_ok, Bool.false_eq_true, if_false, completed, if_true, Method.mwp_pure,
        Method.settle_ok, same]
      exact ⟨filled, clean, kept, counted⟩

/-- What holds after the first attempt, before `begin`. -/
structure Opening (b₀ : ByteBuffer) (o : Observed) (f : Frame) (nread : ℤ) : Prop where
  reading : Reading b₀ { o with begun := true } f nread
  unbegun : o.begun = false
  waited : o.waited = !o.bytes.isEmpty

/-- Only the clock can end the call here, and it does so in an unchecked exception. -/
theorem deadline_opening {timeout nread : ℤ} (opening : Opening b₀ (observed h) f nread) :
    mwp (fun _ => True) h f (deadline timeout) (fun h' f' x =>
      match x with
      | .ok _ => f' = f ∧ Opening b₀ (observed h') f nread
      | .error e => Read b₀ (observed h') f' (.error e)) := by
  unfold deadline
  split
  · exact Method.mwp_pure.mpr ⟨rfl, opening⟩
  · simp only [clock_gettime, Method.mwp_bind]
    refine mwp_ask.mpr (fun now => ⟨trivial, ?_⟩)
    obtain ⟨⟨⟨deadline, cancelled, interrupt⟩, filled, begun, opened, count, fed⟩,
      unbegun, waited⟩ := opening
    cases now with
    | ok now =>
        simp only [Method.rest_ok, Method.mwp_pure, observed_append,
          List.foldl_cons, List.foldl_nil, observe, notice]
        exact ⟨trivial, ⟨⟨deadline, cancelled, interrupt⟩, filled, begun,
          opened, count, fed⟩, unbegun, waited⟩
    | error nee =>
        simp only [Method.rest_ok, Method.mwp_raise]
        refine ⟨by
          simpa [observe] using filled, iff_of_false ?_ (fun harmless => ?_), by simp [Kept,
          observe], trivial⟩
        · simp [Clean, JavaException.isAsynchronousClose, JavaException.isIOException]
        · have := harmless.deadline
          simp [observe, unbegun] at this

theorem continueRead_read {nread : ℤ} (opening : Opening b₀ (observed h) f nread) :
    mwp (fun _ => True) h f (continueRead s nread) (fun h f x => Read b₀ (observed h) f x) := by
  simp only [continueRead, Method.mwp_bind]
  apply mwp_mono (deadline_opening opening)
  rintro h' f' (e | endTime) ready
  · exact ready
  obtain ⟨rfl, opening⟩ := ready
  apply mwp_blocking trivial
  have begun : Reading b₀ (observed (h' ++ [⟨.begin, ()⟩]))
      { f' with completed := false } nread := by
    obtain ⟨⟨⟨deadline, cancelled, interrupt⟩, filled, begun, opened, count, fed⟩, -, -⟩ := opening
    simp only [observed_append, List.foldl_cons, List.foldl_nil, observe, notice]
    exact ⟨⟨deadline, cancelled, interrupt⟩, filled, begun, opened, count, fed⟩
  have waited : (observed (h' ++ [⟨.begin, ()⟩])).waited = !(observed h').bytes.isEmpty := by
    simpa [observe] using opening.waited
  have empty : nread = 0 ↔ (observed h').bytes = [] := by
    have count : nread = (observed h').bytes.length := opening.reading.count
    rw [← List.length_eq_zero_iff]
    omega
  have first : mwp (fun _ => True) (h' ++ [⟨.begin, ()⟩]) { f' with completed := false }
      (firstWait s nread) (Onward b₀) := by
    unfold firstWait
    split
    · next none =>
        apply awaitFirst_onward (none ▸ begun)
        rw [waited, empty.mp none]
        rfl
    · next some =>
        refine Method.mwp_pure.mpr ⟨begun, ?_⟩
        rw [waited, Bool.not_eq_true', List.isEmpty_eq_false_iff]
        exact fun none => some (empty.mpr none)
  have body : mwp (fun _ => True) (h' ++ [⟨.begin, ()⟩]) { f' with completed := false }
      (do let first ← firstWait s nread; readLoop s endTime first)
      (fun h f x => Blocked b₀ (observed h) f x) := by
    rw [Method.mwp_bind]
    apply mwp_mono first
    rintro h f (e | n | n) onward
    · exact onward
    · exact mwp_iterate _ onward (fun h f n here => readRound_onward here.1 here.2)
    · exact Method.mwp_pure.mpr onward
  exact mwp_mono body (fun h f x blocked => endBlocking_read blocked)

theorem readRefused_read {nee : Errno}
    {post : History posix → Frame → Except JavaException α → Prop}
    (stop : ∀ message, post h f (.error (.interruptedIOException message 0))) :
    mwp (fun _ => True) h f (readRefused nee) post := by
  unfold readRefused
  split
  · exact Method.mwp_raise.mpr (stop _)
  · exact Method.mwp_raise.mpr (stop _)

/-- The first attempt returns what it has read, or throws without a byte. -/
theorem firstRead_opening : mwp (fun _ => True) [] f firstRead (fun h f' x =>
    match x with
    | .ok nread => Opening f.buffer (observed h) f' nread
    | .error e => Read f.buffer (observed h) f' (.error e)) := by
  simp only [firstRead, Method.mwp_bind, mwp_read, true_and, List.nil_append]
  constructor
  · intro bytes
    simp only [Method.rest_ok, Method.mwp_pure]
    refine ⟨⟨⟨rfl, rfl, rfl⟩, ?_, rfl, rfl, rfl, rfl⟩, rfl, rfl⟩
    exact (Filled.start f.buffer).more bytes.property
  · intro nee
    simp only [Method.rest_ok, fdIsInvalid, Method.mwp_bind]
    refine mwp_ask.mpr (fun r => ⟨trivial, ?_⟩)
    cases r with
    | true =>
        simp only [Method.rest_ok, if_true, Method.mwp_raise]
        refine ⟨Filled.start f.buffer, iff_of_true rfl ⟨rfl, ?_, ?_⟩, ?_, trivial⟩
        · rintro ⟨⟩
        · exact fun some => absurd rfl some
        · intro calm
          simp [observed, observe] at calm
    | false =>
        simp only [Method.rest_ok, Bool.false_eq_true, if_false]
        split
        · next again =>
            subst again
            exact Method.mwp_pure.mpr
              ⟨⟨⟨rfl, rfl, rfl⟩, .start f.buffer, rfl, rfl, rfl, rfl⟩, rfl, rfl⟩
        · refine readRefused_read (fun message => ?_)
          refine ⟨Filled.start f.buffer, iff_of_true rfl ⟨rfl, ?_, ?_⟩,
            fun _ => ⟨rfl, .inl rfl⟩, trivial⟩
          · rintro ⟨⟩
          · exact fun some => absurd rfl some

/-- `read(ByteBuffer)`: its bytes are in the buffer, it ends cleanly exactly when
nothing harmful was observed, and undisturbed it loses bytes only to `EAGAIN`. -/
theorem read_read : mwp (fun _ => True) [] f (read s) (fun h f' x =>
    Read f.buffer (observed h) f' x) := by
  simp only [read, Method.mwp_bind, Method.mwp_locals, Method.rest_ok]
  split
  · simp only [Method.mwp_bind]
    apply mwp_mono firstRead_opening
    rintro h f' (e | nread) opening
    · exact opening
    simp only [Method.rest_ok, Method.mwp_bind, Method.mwp_locals]
    split
    · exact continueRead_read opening
    · refine Method.mwp_pure.mpr ⟨opening.reading.filled, ?_,
        fun _ => ⟨opening.reading.count, opening.reading.fed⟩, .inl opening.reading.count⟩
      refine iff_of_true opening.reading.count ⟨opening.reading.deadlineFailed, ?_, ?_⟩
      · rw [show (observed h).cancelled = false from opening.reading.cancelled]
        exact fun never => absurd never Bool.false_ne_true
      · exact fun _ => ⟨opening.reading.interrupted, opening.reading.opened⟩
  · refine Method.mwp_pure.mpr ⟨Filled.start f.buffer, iff_of_true rfl ⟨rfl, ?_, ?_⟩,
      fun _ => ⟨rfl, rfl⟩, .inl rfl⟩
    · rintro ⟨⟩
    · exact fun some => absurd rfl some

end Specs

end Spsw.Jnhw

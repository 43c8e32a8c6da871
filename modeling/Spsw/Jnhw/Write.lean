import Spsw.Jnhw.Socket

/-!
# Writing to the descriptor

`write(ByteBuffer)`, `write(byte)`, and the halves `startWrite` and
`continueWrite` that the asynchronous socket runs in different threads. The tail
of `write(ByteBuffer)` and `continueWrite` are the same code.
-/
namespace Spsw.Jnhw
open Interaction
open Interaction.Method (locals raise iterate mwp mwp_tryFinally mwp_iterate mwp_mono)

/-- A failed first attempt, other than `EAGAIN`. -/
def writeRefused {α : Type} (s : Socket) (nee : Errno) : Call α := do
  let invalid ← fdIsInvalid
  if invalid = true then raise .asynchronousCloseException
  else if nee = .EBADF then raise (.interruptedIOException PORT_FD_INVALID 0)
  else do
    let message ← formatMsg s nee "unknown port error write "
    raise (.interruptedIOException message 0)

/-- Waits for the descriptor, at most for what is left until `endTime`. -/
def pollForWrite : Option Timespec → Call (Except Errno PollResult)
  | none => poll .write POLL_INFINITE_TIMEOUT
  | some endTime => do
      let now ← clock_gettime
      match now with
      | .error nee => pure (.error nee)
      | .ok currentTime =>
          if remainingTimeOut endTime currentTime < 0 then raise (.timeoutIOException 0)
          else poll .write (remainingTimeOut endTime currentTime)

/-- Returns on `POLLOUT` and throws on anything else `poll` has reported. -/
def checkWritable (written offset : ℤ) : PollResult → Call Unit
  | .timeout => do
      complete
      raise (.timeoutIOException written)
  | .ready port cancel =>
      if cancel = POLLIN then do
        complete
        closedOrCancelled
      else if port = POLLOUT then pure ()
      else if port &&& POLLHUP = POLLHUP then do
        complete
        raise (.interruptedIOException PORT_FD_INVALID 0)
      else if port &&& POLLNVAL = POLLNVAL then do
        complete
        closedOrCancelled
      else do
        complete
        raise (.interruptedIOException "poll returned with poll event write " offset)

def pollWriteFailed {α : Type} (s : Socket) (nee : Errno) (offset : ℤ) : Call α := do
  let message ← formatMsg s nee "poll timeout with error in write!"
  complete
  raise (.interruptedIOException message offset)

def writeFailed {α : Type} (s : Socket) (nee : Errno) (offset : ℤ) : Call α := do
  let invalid ← fdIsInvalid
  if invalid = true then do
    complete
    closedOrCancelled
  else if nee = .EBADF then do
    complete
    raise (.interruptedIOException PORT_FD_INVALID 0)
  else do
    let message ← formatMsg s nee "error during Unistd.write"
    complete
    raise (.interruptedIOException message offset)

/-- One pass of the do-while loop. -/
def writeRound (s : Socket) (endTime : Option Timespec) (written offset : ℤ) : Call (ℤ ⊕ ℤ) := do
  let polled ← pollForWrite endTime
  match polled with
  | .error nee => pollWriteFailed s nee offset
  | .ok result => do
      checkWritable written offset result
      let attempt ← Unistd.write
      match attempt with
      | .error nee => writeFailed s nee offset
      | .ok k => do
          let frame ← locals
          if frame.buffer.hasRemaining = true then pure (.inl (offset + k))
          else do
            complete
            pure (.inr (offset + k))

def continueWrite (s : Socket) (written : ℤ) : Call ℤ := do
  let endTime ← deadline s.pollWriteTimeout
  blocking (iterate (writeRound s endTime written) written)

def startWrite (s : Socket) : Call ℤ := do
  let frame ← locals
  if frame.buffer.hasRemaining = true then do
    let attempt ← Unistd.write
    match attempt with
    | .ok written => pure written
    | .error nee => if nee = .EAGAIN then pure 0 else writeRefused s nee
  else pure 0

/-- `write(ByteBuffer)`. -/
def write (s : Socket) : Call ℤ := do
  let frame ← locals
  if frame.buffer.hasRemaining = true then do
    let attempt ← Unistd.write
    match attempt with
    | .ok written => do
        let frame ← locals
        if frame.buffer.hasRemaining = true then continueWrite s written else pure written
    | .error nee => if nee = .EAGAIN then continueWrite s 0 else writeRefused s nee
  else pure 0

/-- The second attempt of `write(byte)`, once the descriptor is writable. -/
def retryWriteByte (s : Socket) (b : UInt8) : Call ℤ := do
  let polled ← poll .write s.pollWriteTimeout
  match polled with
  | .error nee => pollWriteFailed s nee 0
  | .ok result => do
      checkWritable 0 0 result
      let attempt ← offer [b]
      match attempt with
      | .error nee => writeFailed s nee 0
      | .ok k => do
          complete
          if k.val = 1 then pure 1 else raise (.runtimeException "Should never ever happen!")

/-- `write(byte)`. -/
def writeByte (s : Socket) (b : UInt8) : Call ℤ := do
  let attempt ← offer [b]
  match attempt with
  | .ok k => if k.val = 1 then pure 1 else blocking (retryWriteByte s b)
  | .error nee => if nee = .EAGAIN then blocking (retryWriteByte s b) else writeRefused s nee

/-- `n` bytes of `b₀` have been handed over since the history `h₀`, and nothing
else; the position has followed. -/
structure Handed (h₀ : History posix) (b₀ : ByteBuffer) (n : ℕ) (h : History posix)
    (b : ByteBuffer) : Prop where
  fits : n ≤ b₀.remaining
  buffer : b = b₀.advance n
  sent : sent h = sent h₀ ++ b₀.pending.take n

namespace Handed
variable {h₀ h : History posix} {b₀ b : ByteBuffer} {n : ℕ}

theorem start (h₀ : History posix) (b₀ : ByteBuffer) : Handed h₀ b₀ 0 h₀ b₀ :=
  ⟨Nat.zero_le _, by rw [ByteBuffer.advance_zero], by rw [List.take_zero, List.append_nil]⟩

theorem quiet (done : Handed h₀ b₀ n h b) (h' : History posix) (same : Jnhw.sent h' = Jnhw.sent h) :
    Handed h₀ b₀ n h' b :=
  ⟨done.fits, done.buffer, by rw [same, done.sent]⟩

theorem remaining (done : Handed h₀ b₀ n h b) : b.remaining = b₀.remaining - n := by
  rw [done.buffer, ByteBuffer.advance_remaining]

/-- One accepted write extends what has been handed over by its bytes. -/
theorem accept (done : Handed h₀ b₀ n h b) (k : Fin (b.pending.length + 1)) :
    Handed h₀ b₀ (n + k.val) (h ++ [⟨.write b.pending, .ok k⟩]) (b.advance k.val) := by
  obtain ⟨fits, rfl, sent⟩ := done
  have within : k.val ≤ b₀.remaining - n := by
    have := k.isLt
    simp only [ByteBuffer.pending_length, ByteBuffer.advance_remaining] at this
    omega
  have bound : n + k.val ≤ b₀.remaining := by omega
  refine ⟨bound, ByteBuffer.advance_advance b₀ n k.val, ?_⟩
  simp only [sent_append, sent_cons, sent_nil, sent, accepted, ByteBuffer.advance_pending,
    List.append_assoc, List.append_nil, List.take_add]

end Handed

/-- Some first part of `b₀` is all that has been handed over since `h₀`. -/
def InOrder (h₀ : History posix) (b₀ : ByteBuffer) (h : History posix) : Prop :=
  ∃ n, n ≤ b₀.remaining ∧ sent h = sent h₀ ++ b₀.pending.take n

theorem inOrder_transfers (h₀ : History posix) (b₀ : ByteBuffer) : OfTransfers (InOrder h₀ b₀) := by
  rintro h h' same _ ⟨n, fits, eq⟩
  exact ⟨n, fits, same.trans eq⟩

theorem Handed.inOrder {h₀ h : History posix} {b₀ b : ByteBuffer} {n : ℕ}
    (done : Handed h₀ b₀ n h b) : InOrder h₀ b₀ h :=
  ⟨n, done.fits, done.sent⟩

/-- What a writing call owes: it has handed over a first part of its bytes, all
of them when it returns their number. -/
def Wrote (h₀ : History posix) (b₀ : ByteBuffer) (h : History posix) (f : Frame)
    (x : Except JavaException ℤ) : Prop :=
  ∃ n, Handed h₀ b₀ n h f.buffer ∧ ∀ count, x = .ok count → n = b₀.remaining ∧ count = n

section Quiet
variable {α : Type}

theorem writeRefused_quiet (s : Socket) (nee : Errno) :
    Quiet (writeRefused s nee : Call α) Throwing := by
  refine .bind fdIsInvalid_quiet (fun _ => .ite (fun _ => .raise ⟨_, rfl⟩) (fun _ => ?_))
  refine .ite (fun _ => .raise ⟨_, rfl⟩) (fun _ => ?_)
  exact .bind (formatMsg_quiet s nee _) (fun _ => .raise ⟨_, rfl⟩)

theorem pollWriteFailed_quiet (s : Socket) (nee : Errno) (offset : ℤ) :
    Quiet (pollWriteFailed s nee offset : Call α) Throwing :=
  .bind (formatMsg_quiet s nee _) (fun _ => .bind .complete (fun _ => .raise ⟨_, rfl⟩))

theorem writeFailed_quiet (s : Socket) (nee : Errno) (offset : ℤ) :
    Quiet (writeFailed s nee offset : Call α) Throwing := by
  refine .bind fdIsInvalid_quiet (fun _ => .ite (fun _ => ?_) (fun _ => ?_))
  · exact .bind .complete (fun _ => closedOrCancelled_quiet)
  · refine .ite (fun _ => .bind .complete (fun _ => .raise ⟨_, rfl⟩)) (fun _ => ?_)
    exact .bind (formatMsg_quiet s nee _) (fun _ => .bind .complete (fun _ => .raise ⟨_, rfl⟩))

theorem checkWritable_quiet (written offset : ℤ) (result : PollResult) :
    Quiet (checkWritable written offset result) (fun _ => True) := by
  have stop : Quiet (do complete; closedOrCancelled : Call Unit) (fun _ => True) :=
    .bind .complete (fun _ => closedOrCancelled_quiet.weaken (fun _ _ => trivial))
  cases result with
  | timeout => exact .bind .complete (fun _ => .raise trivial)
  | ready port cancel =>
      refine .ite (fun _ => stop) (fun _ => .ite (fun _ => .pure trivial) (fun _ => ?_))
      refine .ite (fun _ => .bind .complete (fun _ => .raise trivial)) (fun _ => ?_)
      exact .ite (fun _ => stop) (fun _ => .bind .complete (fun _ => .raise trivial))

theorem pollForWrite_quiet (endTime : Option Timespec) :
    Quiet (pollForWrite endTime) (fun _ => True) := by
  cases endTime with
  | none => exact (poll_quiet _ _).weaken (fun _ _ => trivial)
  | some endTime =>
      refine .bind clock_gettime_quiet (fun now => ?_)
      cases now with
      | error nee => exact .pure trivial
      | ok currentTime =>
          exact .ite (fun _ => .raise trivial)
            (fun _ => (poll_quiet _ _).weaken (fun _ _ => trivial))

end Quiet

section Specs
variable {h₀ h : History posix} {b₀ : ByteBuffer} {f : Frame} {s : Socket} {n : ℕ}

/-- A quiet ending of a writing call leaves it with what it has handed over. -/
theorem mwp_stop {α : Type} {m : Call α} (quiet : Quiet m Throwing)
    (done : Handed h₀ b₀ n h f.buffer)
    {post : History posix → Frame → Except JavaException α → Prop}
    (stop : ∀ h' f' e, Handed h₀ b₀ n h' f'.buffer → post h' f' (.error e)) :
    mwp (InOrder h₀ b₀) h f m post := by
  apply mwp_mono (quiet _ (inOrder_transfers h₀ b₀) h f done.inOrder)
  rintro h' f' x ⟨idle, e, rfl⟩
  exact stop h' f' e (by rw [idle.buffer]; exact done.quiet _ idle.sent)

theorem Wrote.stop {h' : History posix} {f' : Frame} {e : JavaException}
    (done : Handed h₀ b₀ n h' f'.buffer) : Wrote h₀ b₀ h' f' (.error e) :=
  ⟨n, done, by rintro count ⟨⟩⟩

/-- One round hands over some more and goes on exactly when bytes remain. -/
theorem writeRound_wrote (endTime : Option Timespec) (written : ℤ)
    (done : Handed h₀ b₀ n h f.buffer) :
    mwp (InOrder h₀ b₀) h f (writeRound s endTime written n)
      (Method.again (fun h' f' offset => ∃ m : ℕ, offset = m ∧ Handed h₀ b₀ m h' f'.buffer)
        (Wrote h₀ b₀)) := by
  have ordered := inOrder_transfers h₀ b₀
  simp only [writeRound, Method.mwp_bind]
  apply mwp_mono (pollForWrite_quiet endTime _ ordered h f done.inOrder)
  rintro h f₁ x ⟨idle, -⟩
  have done : Handed h₀ b₀ n h f₁.buffer := by rw [idle.buffer]; exact done.quiet _ idle.sent
  rcases x with e | nee | result
  · exact Wrote.stop done
  · exact mwp_stop (pollWriteFailed_quiet s nee _) done (fun _ _ _ => Wrote.stop)
  simp only [Method.rest_ok, Method.mwp_bind]
  apply mwp_mono (checkWritable_quiet _ _ result _ ordered h f₁ done.inOrder)
  rintro h f₂ x ⟨idle, -⟩
  have done : Handed h₀ b₀ n h f₂.buffer := by rw [idle.buffer]; exact done.quiet _ idle.sent
  rcases x with e | u
  · exact Wrote.stop done
  simp only [Method.rest_ok, Method.mwp_bind, mwp_write]
  constructor
  · intro k
    have more := done.accept k
    refine ⟨more.inOrder, ?_⟩
    simp only [Method.mwp_locals, Method.rest_ok]
    split
    · simp only [Method.mwp_pure, Method.again_next]
      exact ⟨n + k.val, by push_cast; rfl, more⟩
    · next all =>
        simp only [Method.mwp_bind, mwp_complete, Method.rest_ok,
          Method.mwp_pure, Method.again_done]
        refine ⟨n + k.val, more, ?_⟩
        rintro count ⟨⟩
        have := more.remaining
        have := more.fits
        rw [Bool.not_eq_true, ByteBuffer.hasRemaining_false_iff] at all
        constructor
        · omega
        · push_cast; rfl
  · intro nee
    have same := done.quiet (h ++ [⟨.write f₂.buffer.pending, .error nee⟩]) (by simp)
    exact ⟨same.inOrder, mwp_stop (writeFailed_quiet s nee _) same (fun _ _ _ => Wrote.stop)⟩

theorem Wrote.idle {h' : History posix} {f' : Frame} {x : Except JavaException ℤ}
    (w : Wrote h₀ b₀ h f x) (idle : Idle h f h' f') : Wrote h₀ b₀ h' f' x := by
  obtain ⟨m, done, all⟩ := w
  exact ⟨m, by rw [idle.buffer]; exact done.quiet _ idle.sent, all⟩

theorem Wrote.inOrder {x : Except JavaException ℤ} (w : Wrote h₀ b₀ h f x) : InOrder h₀ b₀ h :=
  w.elim (fun _ done => done.1.inOrder)

theorem Wrote.error {x : Except JavaException ℤ} {e : JavaException} (w : Wrote h₀ b₀ h f x) :
    Wrote h₀ b₀ h f (.error e) := by
  obtain ⟨m, done, -⟩ := w
  exact ⟨m, done, by rintro count ⟨⟩⟩

/-- The `finally` block of a writing call may only turn its outcome into an exception. -/
theorem mwp_blocking_wrote {body : Call ℤ} (done : Handed h₀ b₀ n h f.buffer)
    (w : ∀ h f, Handed h₀ b₀ n h f.buffer → mwp (InOrder h₀ b₀) h f body (Wrote h₀ b₀)) :
    mwp (InOrder h₀ b₀) h f (blocking body) (Wrote h₀ b₀) := by
  have opened := done.quiet (h ++ [⟨.begin, ()⟩]) (by simp)
  refine mwp_blocking opened.inOrder (mwp_mono (w _ { f with completed := false } opened) ?_)
  intro h f x wrote
  apply mwp_mono (endBlocking_quiet _ (inOrder_transfers h₀ b₀) h f wrote.inOrder)
  rintro h' f' y ⟨idle, -⟩
  cases y with
  | ok u => exact wrote.idle idle
  | error e => exact (wrote.idle idle).error

theorem continueWrite_wrote (done : Handed h₀ b₀ n h f.buffer) :
    mwp (InOrder h₀ b₀) h f (continueWrite s n) (Wrote h₀ b₀) := by
  simp only [continueWrite, Method.mwp_bind]
  apply mwp_mono (deadline_quiet _ _ (inOrder_transfers h₀ b₀) h f done.inOrder)
  rintro h f x ⟨idle, -⟩
  have done : Handed h₀ b₀ n h f.buffer := by rw [idle.buffer]; exact done.quiet _ idle.sent
  rcases x with e | endTime
  · exact Wrote.stop done
  refine mwp_blocking_wrote done (fun h f done => ?_)
  refine mwp_iterate (fun h f offset => ∃ m : ℕ, offset = m ∧ Handed h₀ b₀ m h f.buffer)
    ⟨n, rfl, done⟩ ?_
  rintro h f offset ⟨m, rfl, done⟩
  exact writeRound_wrote endTime n done

/-- What a first attempt owes: some bytes are handed over and their number returned. -/
def Started (h₀ : History posix) (b₀ : ByteBuffer) (h : History posix) (f : Frame)
    (x : Except JavaException ℤ) : Prop :=
  ∃ n, Handed h₀ b₀ n h f.buffer ∧ ∀ count, x = .ok count → count = n

theorem startWrite_started : mwp (InOrder h f.buffer) h f (startWrite s) (Started h f.buffer) := by
  have start := Handed.start h f.buffer
  simp only [startWrite, Method.mwp_bind, Method.mwp_locals, Method.rest_ok]
  split
  · simp only [Method.mwp_bind, mwp_write]
    constructor
    · intro k
      have more := start.accept k
      rw [Nat.zero_add] at more
      refine ⟨more.inOrder, ?_⟩
      simp only [Method.rest_ok, Method.mwp_pure]
      exact ⟨k.val, more, by rintro count ⟨⟩; rfl⟩
    · intro nee
      have same := start.quiet (h ++ [⟨.write f.buffer.pending, .error nee⟩]) (by simp)
      refine ⟨same.inOrder, ?_⟩
      simp only [Method.rest_ok]
      split
      · simp only [Method.mwp_pure]
        exact ⟨0, same, by rintro count ⟨⟩; rfl⟩
      · exact mwp_stop (writeRefused_quiet s nee) same
          (fun _ _ _ stopped => ⟨0, stopped, by rintro count ⟨⟩⟩)
  · simp only [Method.mwp_pure]
    exact ⟨0, start, by rintro count ⟨⟩; rfl⟩

/-- `write(ByteBuffer)` hands over a first part of its buffer, and all of it
when it returns. -/
theorem write_wrote : mwp (InOrder h f.buffer) h f (write s) (Wrote h f.buffer) := by
  have start := Handed.start h f.buffer
  simp only [write, Method.mwp_bind, Method.mwp_locals, Method.rest_ok]
  split
  · simp only [Method.mwp_bind, mwp_write]
    constructor
    · intro k
      have more := start.accept k
      rw [Nat.zero_add] at more
      refine ⟨more.inOrder, ?_⟩
      simp only [Method.rest_ok, Method.mwp_bind, Method.mwp_locals]
      split
      · exact continueWrite_wrote more
      · next all =>
          rw [Bool.not_eq_true, ByteBuffer.hasRemaining_false_iff] at all
          have := more.remaining
          have := more.fits
          simp only [Method.mwp_pure]
          refine ⟨k.val, more, ?_⟩
          rintro count ⟨⟩
          exact ⟨by omega, rfl⟩
    · intro nee
      have same := start.quiet (h ++ [⟨.write f.buffer.pending, .error nee⟩]) (by simp)
      refine ⟨same.inOrder, ?_⟩
      simp only [Method.rest_ok]
      split
      · exact continueWrite_wrote same
      · exact mwp_stop (writeRefused_quiet s nee) same (fun _ _ _ => Wrote.stop)
  · next none =>
      rw [Bool.not_eq_true, ByteBuffer.hasRemaining_false_iff] at none
      simp only [Method.mwp_pure]
      refine ⟨0, start, ?_⟩
      rintro count ⟨⟩
      exact ⟨none.symm, rfl⟩

/-- What `write(byte)` owes: the one byte, once it returns. -/
def WroteByte (sent₀ : List UInt8) (b : UInt8) (h : History posix) (x : Except JavaException ℤ) :
    Prop :=
  ∀ count, x = .ok count → sent h = sent₀ ++ [b]

theorem WroteByte.error {sent₀ : List UInt8} {b : UInt8} {e : JavaException} :
    WroteByte sent₀ b h (.error e) := by
  rintro count ⟨⟩

theorem take_one {b : UInt8} {k : Fin ([b].length + 1)} (one : k.val = 1) :
    [b].take k.val = [b] := by
  rw [one]; rfl

theorem retryWriteByte_wrote {sent₀ : List UInt8} {b : UInt8} (none : sent h = sent₀) :
    mwp (fun _ => True) h f (retryWriteByte s b) (fun h' _ x => WroteByte sent₀ b h' x) := by
  have throws : ∀ {m : Call ℤ} {h f}, Quiet m Throwing →
      mwp (fun _ => True) h f m (fun h' _ x => WroteByte sent₀ b h' x) := by
    intro m h f quiet
    apply mwp_mono (quiet _ always_transfers h f trivial)
    rintro h' f' x ⟨-, e, rfl⟩
    exact WroteByte.error
  simp only [retryWriteByte, Method.mwp_bind]
  apply mwp_mono (poll_quiet _ _ _ always_transfers h f trivial)
  rintro h f x ⟨idle, polled, rfl⟩
  cases polled with
  | error nee => exact throws (pollWriteFailed_quiet s nee 0)
  | ok result =>
      simp only [Method.rest_ok, Method.mwp_bind]
      apply mwp_mono (checkWritable_quiet 0 0 result _ always_transfers h f trivial)
      rintro h f x ⟨idle', -⟩
      have none : sent h = sent₀ := idle'.sent.trans (idle.sent.trans none)
      cases x with
      | error e => exact WroteByte.error
      | ok u =>
          simp only [Method.rest_ok, Method.mwp_bind, mwp_offer, true_and]
          refine ⟨fun k => ?_, fun nee => throws (writeFailed_quiet s nee 0)⟩
          simp only [Method.rest_ok, mwp_complete]
          split
          · next one =>
              rw [Method.mwp_pure]
              intro count _
              rw [sent_append, sent_cons, sent_nil, accepted, take_one one, List.append_nil, none]
          · exact Method.mwp_raise.mpr WroteByte.error

theorem writeByte_wrote {b : UInt8} :
    mwp (fun _ => True) h f (writeByte s b) (fun h' _ x => WroteByte (sent h) b h' x) := by
  have retry : ∀ {h' f'}, sent h' = sent h →
      mwp (fun _ => True) h' f' (blocking (retryWriteByte s b))
        (fun h' _ x => WroteByte (sent h) b h' x) := by
    intro h' f' none
    refine mwp_blocking trivial (mwp_mono (retryWriteByte_wrote (by simpa using none)) ?_)
    intro h' f' x wrote
    apply mwp_mono (endBlocking_quiet _ always_transfers h' f' trivial)
    rintro h'' f'' y ⟨idle, -⟩
    cases y with
    | ok u => exact fun count eq => idle.sent.trans (wrote count eq)
    | error e => exact WroteByte.error
  simp only [writeByte, Method.mwp_bind, mwp_offer, true_and]
  constructor
  · intro k
    simp only [Method.rest_ok]
    split
    · next one =>
        rw [Method.mwp_pure]
        intro count _
        rw [sent_append, sent_cons, sent_nil, accepted, take_one one, List.append_nil]
    · next none =>
        have zero : k.val = 0 := by
          have := k.isLt
          simp only [List.length_singleton] at this
          omega
        exact retry (by simp [zero])
  · intro nee
    simp only [Method.rest_ok]
    split
    · exact retry (by simp)
    · apply mwp_mono (writeRefused_quiet s nee _ always_transfers _ f trivial)
      rintro h' f' x ⟨-, e, rfl⟩
      exact WroteByte.error

end Specs
end Spsw.Jnhw

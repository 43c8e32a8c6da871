import Spsw.Jnhw.Socket

/-!
# Writing through the native library

`writeBuffer` of the termios library and the `write(ByteBuffer)` above it. The
native code loops until all bytes are written, and its caller moves the position
by what it returns.
-/
namespace Spsw.Jni
open Interaction
open Interaction.Method (locals assign raise iterate tryCatch mwp mwp_mono mwp_seq
  mwp_iterate mwp_tryCatch)
open Jnhw

/-- The setting a write consults, what the stack holds where `endTime` and
`currentTime` are declared, `errno` before the call, and the text
`"%d: (%s)", errno, strerror(errno)`. -/
structure NativeSocket where
  pollWriteTimeout : ℤ
  endTime : Timespec
  currentTime : Timespec
  errno : Errno
  errnoText : Errno → String

/-- A socket without a write timeout. -/
def NativeSocket.new : NativeSocket := ⟨-1, ⟨0, 0⟩, ⟨0, 0⟩, .EAGAIN, Errno.getErrnoSymbol⟩

/-- `clock_gettime(CLOCK_MONOTONIC, &t)`, its result not looked at. -/
def clock_gettime (t : Timespec) : Call Timespec := do
  let now ← Jnhw.clock_gettime
  match now with
  | .ok now => pure now
  | .error _ => pure t

def throw_InterruptedIOExceptionWithError {α : Type} (s : NativeSocket) (errno : Errno)
    (bytesTransferred : ℤ) (msg : String) : Call α :=
  raise (.interruptedIOException
    (msg ++ ": Unknown port error " ++ s.errnoText errno) bytesTransferred)

/-- `endTime` is set only for a positive timeout. -/
def endTime (s : NativeSocket) : Call Timespec :=
  if 0 < s.pollWriteTimeout then do
    let now ← clock_gettime s.endTime
    pure (now.plusMillis s.pollWriteTimeout)
  else pure s.endTime

/-- The timeout of the next poll; `endTime` is used for the timeout 0 as well. -/
def remaining (s : NativeSocket) (endTime : Timespec) (written : ℕ) : Call ℤ :=
  if 0 ≤ s.pollWriteTimeout then do
    let currentTime ← clock_gettime s.currentTime
    if remainingTimeOut endTime currentTime < 0 then
      raise (.timeoutIOException written (some "writeBuffer overallWriteTimeout"))
    else pure (remainingTimeOut endTime currentTime)
  else pure (-1)

/-- Returns on `POLLOUT` and throws on anything else `poll` has reported. -/
def checkWritable (s : NativeSocket) (errno : Errno) (offset : ℕ) :
    Except Errno PollResult → Call Unit
  | .ok .timeout => raise (.timeoutIOException offset (some "writeBuffer poll timeout"))
  | .error errno =>
      throw_InterruptedIOExceptionWithError s errno offset "poll timeout with error writeBytes"
  | .ok (.ready port close) =>
      if close = POLLIN then raise .asynchronousCloseException
      else if port = POLLOUT then pure ()
      else if port &&& POLLHUP = POLLHUP then raise (.ioException PORT_FD_INVALID)
      else if port &&& POLLNVAL = POLLNVAL then raise .asynchronousCloseException
      else throw_InterruptedIOExceptionWithError s errno offset
        "poll returned with poll event writeBytes"

/-- One pass of the do-while loop over `written` and `offset`. -/
def writeRound (s : NativeSocket) (invalid : Bool) (buff : List UInt8) (errno : Errno)
    (endTime : Timespec) (x : ℕ × ℕ) : Call ((ℕ × ℕ) ⊕ ℕ) := do
  let remainingTimeOut ← remaining s endTime x.1
  let polled ← poll .write remainingTimeOut
  checkWritable s errno x.2 polled
  let attempt ← offer (buff.drop x.2)
  match attempt with
  | .ok written =>
      if x.2 + written.val < buff.length then pure (.inl (written.val, x.2 + written.val))
      else pure (.inr written.val)
  | .error errno =>
      if invalid = true then raise .asynchronousCloseException
      else throw_InterruptedIOExceptionWithError s errno 0 "unknown port error 2 writeBytes"

/-- From the computation of `endTime` on. -/
def writeRest (s : NativeSocket) (invalid : Bool) (buff : List UInt8) (errno : Errno)
    (written : ℕ) : Call ℕ := do
  let endTime ← endTime s
  iterate (writeRound s invalid buff errno endTime) (written, written)

def writeBuffer (s : NativeSocket) (buff : List UInt8) : Call ℕ := do
  let invalid ← fdIsInvalid
  let attempt ← offer buff
  match attempt with
  | .ok written =>
      if written.val = buff.length then pure written.val
      else writeRest s invalid buff s.errno written.val
  | .error errno =>
      if errno = .EAGAIN then writeRest s invalid buff errno 0
      else if invalid = true then raise .asynchronousCloseException
      else throw_InterruptedIOExceptionWithError s errno 0 "unknown port error 1 writeBytes"

/-- `write_ArgsOK`: the native code sees the remaining bytes of a direct buffer. -/
def write_ArgsOK (s : NativeSocket) (src : ByteBuffer) : Call ℕ := writeBuffer s src.pending

/-- `src.position(src.position() + result)`. -/
def movePosition (result : ℤ) : Call Unit := do
  let frame ← locals
  match frame.buffer.setPosition (frame.buffer.position + result) with
  | some src => assign (fun f => { f with buffer := src })
  | none => raise (.illegalArgumentException "newPosition")

/-- `begin(); result = write_ArgsOK(..); completed = true;` with its `catch (IOException e)`. -/
def guarded (s : NativeSocket) (src : ByteBuffer) : Call ℕ :=
  tryCatch (do
      let result ← write_ArgsOK s src
      complete
      pure result)
    (fun e => if e.isIOException = true then do
        complete
        raise e
      else raise e)

/-- `write(ByteBuffer)`. -/
def write (s : NativeSocket) : Call ℤ := do
  let frame ← locals
  if frame.buffer.hasRemaining = true then do
    let result ← blocking (guarded s frame.buffer)
    movePosition result
    pure (result : ℤ)
  else pure 0

/-- A caller's `while (src.hasRemaining()) write(src);`. -/
def transmit (s : NativeSocket) : Call Unit :=
  iterate (fun _ => do
    let frame ← locals
    if frame.buffer.hasRemaining = true then do
      let _ ← write s
      pure (.inl ())
    else pure (.inr ())) ()

/-- A write accepts all it is offered, or nothing. -/
def whole : Event posix → Bool
  | ⟨.write bytes, .ok k⟩ => decide (k.val = 0 ∨ k.val = bytes.length)
  | _ => true

/-- No write has accepted a proper part of what it was offered. -/
def Whole (h : History posix) : Prop := ∀ ev ∈ h, whole ev = true

@[simp] theorem whole_nil : Whole [] := by
  rintro ev ⟨⟩

@[simp] theorem whole_append (h t : History posix) : Whole (h ++ t) ↔ Whole h ∧ Whole t := by
  simp [Whole, or_imp, forall_and]

@[simp] theorem whole_write (bytes : List UInt8) (k : Fin (bytes.length + 1)) :
    Whole [⟨.write bytes, .ok k⟩] ↔ k.val = 0 ∨ k.val = bytes.length := by
  simp [Whole, whole]

@[simp] theorem whole_refused (bytes : List UInt8) (errno : Errno) :
    Whole [⟨.write bytes, .error errno⟩] := by
  simp [Whole, whole]

theorem whole_still {ev : Event posix} (quiet : still ev.1 = true) : whole ev = true := by
  obtain ⟨e, r⟩ := ev
  cases e with
  | write bytes => cases quiet
  | _ => rfl

theorem whole_idle {h h' : History posix} {f f' : Frame} (idle : Idle h f h' f') :
    Whole h' ↔ Whole h := by
  obtain ⟨t, rfl, quiet⟩ := idle.events
  rw [whole_append]
  exact and_iff_left (fun ev member => whole_still (quiet ev member))

section Quiet
variable {α : Type} {s : NativeSocket}

theorem clock_gettime_quiet (t : Timespec) : Quiet (clock_gettime t) Returning := by
  refine .bind Jnhw.clock_gettime_quiet (fun now => ?_)
  cases now with
  | ok now => exact .pure ⟨_, rfl⟩
  | error nee => exact .pure ⟨_, rfl⟩

theorem endTime_quiet (s : NativeSocket) : Quiet (endTime s) Returning :=
  .ite (fun _ => .bind (clock_gettime_quiet _) (fun _ => .pure ⟨_, rfl⟩)) (fun _ => .pure ⟨_, rfl⟩)

theorem remaining_quiet (endTime : Timespec) (written : ℕ) :
    Quiet (remaining s endTime written) (fun _ => True) := by
  refine .ite (fun _ => .bind (clock_gettime_quiet _) (fun _ => ?_)) (fun _ => .pure trivial)
  exact .ite (fun _ => .raise trivial) (fun _ => .pure trivial)

theorem checkWritable_quiet (errno : Errno) (offset : ℕ) (polled : Except Errno PollResult) :
    Quiet (checkWritable s errno offset polled) (fun _ => True) := by
  rcases polled with errno | _ | ⟨port, close⟩
  · exact .raise trivial
  · exact .raise trivial
  · refine .ite (fun _ => .raise trivial) (fun _ => .ite (fun _ => .pure trivial) (fun _ => ?_))
    refine .ite (fun _ => .raise trivial) (fun _ => ?_)
    exact .ite (fun _ => .raise trivial) (fun _ => .raise trivial)

/-- What stands before a write that is still to be made: nothing transferred. -/
theorem mwp_quiet {m : Call α} {R : Except JavaException α → Prop} (quiet : Quiet m R)
    {h : History posix} {f : Frame} : mwp (fun _ => True) h f m (fun h' f' _ => Idle h f h' f') :=
  mwp_mono (quiet _ always_transfers h f trivial) (fun _ _ _ done => done.1)

end Quiet

/-- The first `offset` bytes have been handed over since `h₀`, by writes of nothing
exactly if there are none. -/
structure Offered (h₀ : History posix) (buff : List UInt8) (offset : ℕ)
    (h : History posix) : Prop where
  sent : sent h = sent h₀ ++ buff.take offset
  whole : Whole h ↔ Whole h₀ ∧ offset = 0

/-- What the native code owes when it returns: all bytes are handed over, and the
result is their number exactly if no write has split them. -/
structure Written (h₀ : History posix) (buff : List UInt8) (h : History posix)
    (result : ℕ) : Prop where
  sent : sent h = sent h₀ ++ buff
  bound : result ≤ buff.length
  whole : Whole h ↔ Whole h₀ ∧ result = buff.length

theorem Written.since {h₀ h₁ h : History posix} {buff : List UInt8} {result : ℕ} {f f' : Frame}
    (written : Written h₁ buff h result) (idle : Idle h₀ f h₁ f') : Written h₀ buff h result :=
  ⟨by rw [written.sent, idle.sent], written.bound, by rw [written.whole, whole_idle idle]⟩

section Specs
variable {h₀ h : History posix} {buff : List UInt8} {offset : ℕ} {f : Frame} {s : NativeSocket}
  {b : ByteBuffer}

theorem Offered.idle (offered : Offered h₀ buff offset h) {h' : History posix} {f' : Frame}
    (idle : Idle h f h' f') : Offered h₀ buff offset h' :=
  ⟨idle.sent.trans offered.sent, (whole_idle idle).trans offered.whole⟩

theorem Offered.accept (offered : Offered h₀ buff offset h)
    (k : Fin ((buff.drop offset).length + 1)) (more : offset + k.val < buff.length) :
    Offered h₀ buff (offset + k.val) (h ++ [⟨.write (buff.drop offset), .ok k⟩]) := by
  have sent := offered.sent
  have size : (buff.drop offset).length = buff.length - offset := List.length_drop
  constructor
  · simp [sent, List.take_add]
  · rw [whole_append, whole_write, offered.whole, and_assoc]
    exact and_congr_right (fun _ => by omega)

theorem Offered.last (offered : Offered h₀ buff offset h) (k : Fin ((buff.drop offset).length + 1))
    (inside : offset < buff.length) (full : ¬offset + k.val < buff.length) :
    Written h₀ buff (h ++ [⟨.write (buff.drop offset), .ok k⟩]) k.val := by
  have bound := k.isLt
  have sent := offered.sent
  have size : (buff.drop offset).length = buff.length - offset := List.length_drop
  have all : (buff.drop offset).take k.val = buff.drop offset := List.take_of_length_le (by omega)
  refine ⟨?_, by omega, ?_⟩
  · simp [sent, all]
  · rw [whole_append, whole_write, offered.whole, and_assoc]
    exact and_congr_right (fun _ => by omega)

/-- What the native code leaves behind when it ends with `x`. -/
def Returned (h₀ : History posix) (buff : List UInt8) (b : ByteBuffer)
    (h : History posix) (f : Frame) (x : Except JavaException ℕ) : Prop :=
  ∀ result, x = .ok result → f.buffer = b ∧ Written h₀ buff h result

theorem Returned.thrown {e : JavaException} : Returned h₀ buff b h f (.error e) := by
  rintro result ⟨⟩

theorem writeRound_written (invalid : Bool) (errno : Errno) (endTime : Timespec) (written : ℕ)
    (inside : offset < buff.length) (offered : Offered h₀ buff offset h) :
    mwp (fun _ => True) h f (writeRound s invalid buff errno endTime (written, offset))
      (Method.again (fun h' f' x => f'.buffer = f.buffer ∧ x.2 < buff.length ∧
        Offered h₀ buff x.2 h') (Returned h₀ buff f.buffer)) := by
  rw [writeRound]
  apply mwp_seq (mwp_quiet (remaining_quiet endTime written))
  · exact fun _ _ _ _ => Returned.thrown
  intro h₁ f₁ timeout idle
  apply mwp_seq (mwp_quiet (poll_quiet .write timeout))
  · exact fun _ _ _ _ => Returned.thrown
  intro h₂ f₂ polled idle₁
  apply mwp_seq (mwp_quiet (checkWritable_quiet errno offset polled))
  · exact fun _ _ _ _ => Returned.thrown
  intro h₃ f₃ _ idle₂
  have idle := (idle.trans idle₁).trans idle₂
  have offered := offered.idle idle
  simp only [Method.rest_ok, Method.mwp_bind, mwp_offer, true_and]
  constructor
  · intro k
    split
    · next more => exact Method.mwp_pure.mpr ⟨idle.buffer, more, offered.accept k more⟩
    · next full =>
        apply Method.mwp_pure.mpr
        rintro result ⟨⟩
        exact ⟨idle.buffer, offered.last k inside full⟩
  · intro errno
    split
    · exact Method.mwp_raise.mpr Returned.thrown
    · exact Method.mwp_raise.mpr Returned.thrown

theorem writeRest_written (invalid : Bool) (errno : Errno) (inside : offset < buff.length)
    (offered : Offered h₀ buff offset h) :
    mwp (fun _ => True) h f (writeRest s invalid buff errno offset)
      (Returned h₀ buff f.buffer) := by
  rw [writeRest]
  apply mwp_seq (mwp_quiet (endTime_quiet s))
  · exact fun _ _ _ _ => Returned.thrown
  intro h₁ f₁ endTime idle
  refine mwp_iterate (fun h' f' x => f'.buffer = f.buffer ∧ x.2 < buff.length ∧
    Offered h₀ buff x.2 h') ⟨idle.buffer, inside, offered.idle idle⟩ ?_
  rintro h' f' ⟨written, offset⟩ ⟨same, inside, offered⟩
  rw [← same]
  exact writeRound_written invalid errno endTime written inside offered

theorem writeBuffer_written (some : 0 < buff.length) :
    mwp (fun _ => True) h f (writeBuffer s buff) (Returned h buff f.buffer) := by
  rw [writeBuffer]
  apply mwp_seq (mwp_quiet fdIsInvalid_quiet)
  · exact fun _ _ _ _ => Returned.thrown
  intro h₁ f₁ invalid idle
  have start : Offered h buff 0 h₁ := by
    refine Offered.idle ⟨by simp, by simp⟩ idle
  have same := idle.buffer
  simp only [Method.rest_ok, Method.mwp_bind, mwp_offer, true_and]
  constructor
  · intro k
    split
    · next all =>
        apply Method.mwp_pure.mpr
        rintro result ⟨⟩
        have last := start.last k some (by omega)
        exact ⟨same, last⟩
    · next part =>
        have bound := k.isLt
        have inside : k.val < buff.length := by omega
        have more := start.accept k (by rwa [Nat.zero_add])
        rw [Nat.zero_add] at more
        rw [← same]
        exact writeRest_written invalid s.errno inside more
  · intro errno
    have refused : Offered h buff 0 (h₁ ++ [⟨.write buff, .error errno⟩]) :=
      ⟨by simpa using start.sent, by
        rw [whole_append]
        exact (and_iff_left (whole_refused buff errno)).trans start.whole⟩
    split
    · rw [← same]
      exact writeRest_written invalid errno some refused
    · split
      · exact Method.mwp_raise.mpr Returned.thrown
      · exact Method.mwp_raise.mpr Returned.thrown

theorem guarded_written (some : b.hasRemaining = true) :
    mwp (fun _ => True) h f (guarded s b) (Returned h b.pending f.buffer) := by
  have positive : 0 < b.pending.length := by
    rw [ByteBuffer.pending_length]
    exact (ByteBuffer.hasRemaining_iff b).mp some
  apply mwp_tryCatch
  simp only [Method.mwp_bind, write_ArgsOK]
  apply mwp_mono (writeBuffer_written positive)
  rintro h' f' (e | result) returned
  · refine Method.rest_error.mpr (Method.caught_error.mpr ?_)
    split
    · simp only [Method.mwp_bind, mwp_complete]
      exact Method.mwp_raise.mpr Returned.thrown
    · exact Method.mwp_raise.mpr Returned.thrown
  · simp only [Method.rest_ok, Method.mwp_bind, mwp_complete, Method.mwp_pure, Method.caught_ok]
    rintro result' ⟨⟩
    exact returned result rfl

/-- What `write(ByteBuffer)` has done when it returns: all remaining bytes are handed
over, and the position follows the count, which is all of them exactly if no write
has split them. -/
def Passed (h₀ : History posix) (b : ByteBuffer) (h : History posix) (f : Frame)
    (x : Except JavaException ℤ) : Prop :=
  ∀ count, x = .ok count → sent h = sent h₀ ++ b.pending ∧ ∃ r : ℕ, count = r ∧ r ≤ b.remaining ∧
    f.buffer = b.advance r ∧ (Whole h ↔ Whole h₀ ∧ r = b.remaining)

theorem Passed.thrown {e : JavaException} : Passed h₀ b h f (.error e) := by
  rintro count ⟨⟩

theorem write_passed : mwp (fun _ => True) h f (write s) (Passed h f.buffer) := by
  simp only [write, Method.mwp_bind, Method.mwp_locals, Method.rest_ok]
  split
  · next some =>
      have begun : Idle h f (h ++ [⟨.begin, ()⟩]) f := ⟨⟨_, rfl, by simp [still]⟩, rfl⟩
      simp only [Method.mwp_bind]
      refine mwp_blocking trivial (mwp_mono (guarded_written some) ?_)
      intro h₁ f₁ x returned
      apply mwp_mono (mwp_quiet endBlocking_quiet)
      rintro h₂ f₂ (e | u) idle
      · exact Passed.thrown
      simp only [Method.settle_ok]
      rcases x with e | result
      · exact Passed.thrown
      obtain ⟨same, written⟩ := returned result rfl
      have written := written.since begun
      have bound := written.bound
      rw [ByteBuffer.pending_length] at bound
      simp only [Method.rest_ok, Method.mwp_bind, movePosition,
        Method.mwp_locals, idle.buffer, same, ByteBuffer.setPosition_advance f.buffer bound,
        Method.mwp_assign, Method.mwp_pure]
      rintro count ⟨⟩
      have whole := written.whole
      rw [ByteBuffer.pending_length] at whole
      exact ⟨idle.sent.trans written.sent, result, rfl, bound, rfl, (whole_idle idle).trans whole⟩
  · next none =>
      rw [Bool.not_eq_true, ByteBuffer.hasRemaining_false_iff] at none
      apply Method.mwp_pure.mpr
      rintro count ⟨⟩
      refine ⟨?_, 0, rfl, Nat.zero_le _, (ByteBuffer.advance_zero _).symm, by simp [none]⟩
      rw [(ByteBuffer.pending_eq_nil_iff f.buffer).mpr none, List.append_nil]

/-- Where a caller's loop stands: all is handed over and no write has split it, or
more has been handed over than there is, or will be. -/
inductive Transmitting (b₀ : ByteBuffer) (h : History posix) (b : ByteBuffer) : Prop
  | fresh (sent : sent h = []) (whole : Whole h) (same : b = b₀)
  | exact (sent : sent h = b₀.pending) (whole : Whole h) (none : b.remaining = 0)
  | split (split : ¬Whole h) (sent : b₀.remaining ≤ (sent h).length) (some : 0 < b.remaining)
  | again (split : ¬Whole h) (sent : b₀.remaining < (sent h).length)

theorem Transmitting.next {b₀ : ByteBuffer} {h' : History posix} {f' : Frame} {count : ℤ}
    (transmitting : Transmitting b₀ h b) (some : 0 < b.remaining)
    (passed : Passed h b h' f' (.ok count)) : Transmitting b₀ h' f'.buffer := by
  obtain ⟨sent, r, -, bound, moved, whole⟩ := passed count rfl
  have remaining : f'.buffer.remaining = b.remaining - r := by
    rw [moved, ByteBuffer.advance_remaining]
  have length := congrArg List.length sent
  rw [List.length_append, ByteBuffer.pending_length] at length
  cases transmitting with
  | fresh none clean same =>
      subst same
      by_cases all : r = b.remaining
      · refine .exact (by rw [sent, none, List.nil_append]) (whole.mpr ⟨clean, all⟩) (by omega)
      · rw [none, List.length_nil] at length
        exact .split (fun now => all (whole.mp now).2) (by omega) (by omega)
  | exact _ _ none => omega
  | split split before _ => exact .again (fun now => split (whole.mp now).1) (by omega)
  | again split before => exact .again (fun now => split (whole.mp now).1) (by omega)

theorem Transmitting.sent_iff {b₀ : ByteBuffer} (transmitting : Transmitting b₀ h b)
    (none : b.remaining = 0) : sent h = b₀.pending ↔ Whole h := by
  cases transmitting with
  | fresh nothing clean same =>
      subst same
      rw [nothing, (ByteBuffer.pending_eq_nil_iff b).mpr none]
      exact iff_of_true rfl clean
  | exact all clean _ => exact iff_of_true all clean
  | split _ _ some => omega
  | again split before =>
      refine iff_of_false (fun all => ?_) split
      rw [all, ByteBuffer.pending_length] at before
      omega

theorem transmit_sent (nothing : sent h = []) (clean : Whole h) :
    mwp (fun _ => True) h f (transmit s)
      (fun h' _ x => ∀ u, x = .ok u → (sent h' = f.buffer.pending ↔ Whole h')) := by
  apply mwp_iterate (fun h' f' _ => Transmitting f.buffer h' f'.buffer) (.fresh nothing clean rfl)
  intro h₁ f₁ u transmitting
  simp only [Method.mwp_bind, Method.mwp_locals, Method.rest_ok]
  split
  · next some =>
      simp only [Method.mwp_bind]
      apply mwp_mono write_passed
      rintro h₂ f₂ (e | count) passed
      · rintro u ⟨⟩
      · refine Method.rest_ok.mpr (Method.mwp_pure.mpr ?_)
        exact transmitting.next ((ByteBuffer.hasRemaining_iff _).mp some) passed
  · next none =>
      rw [Bool.not_eq_true, ByteBuffer.hasRemaining_false_iff] at none
      exact Method.mwp_pure.mpr (fun _ _ => transmitting.sent_iff none)

end Specs

/-- A `write(ByteBuffer)` that returns has handed over exactly its bytes, and counts
them and moves the position by their number if and only if no write has accepted a
proper part of what it was offered; and if and only if that is so in all its calls,
a caller that writes until nothing remains transmits the bytes once. -/
theorem write_exact_iff (s : NativeSocket) (b : ByteBuffer) (completed : Bool) :
    (∀ h count f, Program.Returns (write s ⟨b, completed⟩) h (.ok count, f) →
      ((sent h = b.pending ∧ count = b.remaining ∧ f.buffer.position = b.position + b.remaining) ↔
        Whole h)) ∧
    ∀ h u f, Program.Returns (transmit s ⟨b, completed⟩) h (.ok u, f) →
      (sent h = b.pending ↔ Whole h) := by
  constructor
  · intro h count f run
    obtain ⟨sent, r, rfl, bound, moved, whole⟩ := wp_returns write_passed run count rfl
    rw [moved, ByteBuffer.advance_position b bound, whole]
    simp only [whole_nil, true_and, sent, sent_nil, List.nil_append]
    omega
  · intro h u f run
    exact wp_returns (transmit_sent rfl whole_nil) run u rfl

/-- `EAGAIN` first, then all bytes at once. -/
theorem write_exact_iff_waited :
    (∃ h f, Program.Returns (write .new ⟨ByteBuffer.wrap [1, 2], false⟩) h (.ok 2, f) ∧
      sent h = [1, 2] ∧ f.buffer.position = 2) ∧
    ∃ h f, Program.Returns (transmit .new ⟨ByteBuffer.wrap [1, 2], false⟩) h (.ok (), f) ∧
      sent h = [1, 2] := by
  have once : Program.Returns (write .new ⟨ByteBuffer.wrap [1, 2], false⟩)
      [⟨.begin, ()⟩, ⟨.fdIsInvalid, false⟩, ⟨.write [1, 2], .error .EAGAIN⟩,
        ⟨.poll .write (-1), .ok (.ready POLLOUT 0)⟩, ⟨.write [1, 2], .ok 2⟩, ⟨.interrupted, false⟩]
      (.ok 2, ⟨(ByteBuffer.wrap [1, 2]).advance 2, true⟩) :=
    Program.replay_sound 20 rfl
  have whole : Program.Returns (transmit .new ⟨ByteBuffer.wrap [1, 2], false⟩)
      [⟨.begin, ()⟩, ⟨.fdIsInvalid, false⟩, ⟨.write [1, 2], .ok 2⟩, ⟨.interrupted, false⟩]
      (.ok (), ⟨(ByteBuffer.wrap [1, 2]).advance 2, true⟩) :=
    Program.replay_sound 20 rfl
  have exact := write_exact_iff .new (ByteBuffer.wrap [1, 2]) false
  have counted := (exact.1 _ _ _ once).mpr (by simp [Whole, Jni.whole])
  exact ⟨⟨_, _, once, counted.1, counted.2.2⟩,
    ⟨_, _, whole, (exact.2 _ _ _ whole).mpr (by simp [Whole, Jni.whole])⟩⟩

/-- Two writes of one byte each: the count is that of the last, and a caller that
goes on transmits the second byte twice. -/
theorem write_split :
    (∃ h f, Program.Returns (write .new ⟨ByteBuffer.wrap [1, 2], false⟩) h (.ok 1, f) ∧
      sent h = [1, 2] ∧ f.buffer.position = 1) ∧
    ∃ h f, Program.Returns (transmit .new ⟨ByteBuffer.wrap [1, 2], false⟩) h (.ok (), f) ∧
      sent h = [1, 2, 2] := by
  constructor
  · exact ⟨[⟨.begin, ()⟩, ⟨.fdIsInvalid, false⟩, ⟨.write [1, 2], .ok 1⟩,
      ⟨.poll .write (-1), .ok (.ready POLLOUT 0)⟩, ⟨.write [2], .ok 1⟩, ⟨.interrupted, false⟩],
      ⟨(ByteBuffer.wrap [1, 2]).advance 1, true⟩, Program.replay_sound 20 rfl, rfl, rfl⟩
  · exact ⟨[⟨.begin, ()⟩, ⟨.fdIsInvalid, false⟩, ⟨.write [1, 2], .ok 1⟩,
      ⟨.poll .write (-1), .ok (.ready POLLOUT 0)⟩, ⟨.write [2], .ok 1⟩, ⟨.interrupted, false⟩,
      ⟨.begin, ()⟩, ⟨.fdIsInvalid, false⟩, ⟨.write [2], .ok 1⟩, ⟨.interrupted, false⟩],
      ⟨(ByteBuffer.wrap [1, 2]).advance 2, true⟩, Program.replay_sound 30 rfl, rfl⟩

end Spsw.Jni

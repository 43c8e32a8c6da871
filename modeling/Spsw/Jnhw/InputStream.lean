import Spsw.Jnhw.ReadBuffer
import Spsw.Jnhw.ReadSingle

/-!
# The input stream over the socket

`SerialInputStream` with the overridden `read()`. A call works on the stream's
own buffer if that is large enough and `tryLock` has succeeded, else on a fresh
one; whatever an earlier call has left in the shared buffer is still there.
-/
namespace Spsw.Jnhw
open Interaction
open Interaction.Method (locals assign raise tryCatch mwp mwp_tryCatch mwp_mono)

/-- The array `b` with `bytes` stored from index `off` on. -/
def store (b : List UInt8) (off : ℕ) (bytes : List UInt8) : List UInt8 :=
  b.take off ++ bytes ++ b.drop (off + bytes.length)

/-- `buf.get(b, off, result)` -/
def getInto (b : List UInt8) (off : ℕ) (result : ℤ) : Call (List UInt8) :=
  if result < 0 ∨ off + result > b.length then raise .indexOutOfBoundsException
  else do
    let frame ← locals
    match frame.buffer.get result.toNat with
    | some (bytes, buf) => do
        assign (fun f => { f with buffer := buf })
        pure (store b off bytes)
    | none => raise .bufferUnderflowException

/-- `catch (AsynchronousCloseException ace) { return -1; }` -/
def endOfStream {α : Type} (value : α) (e : JavaException) : Call α :=
  if e.isAsynchronousClose = true then pure value else raise e

def clearAndLimit (len : ℕ) : Call Unit := do
  let frame ← locals
  match frame.buffer.clear.setLimit len with
  | some buf => assign (fun f => { f with buffer := buf })
  | none => raise (.illegalArgumentException "")

/-- `SerialInputStream.read(byte[], int, int)` after its bounds check: the result,
and the array as the call leaves it. -/
def readInto (s : Socket) (b : List UInt8) (off len : ℕ) : Call (ℤ × List UInt8) := do
  clearAndLimit len
  tryCatch (do
    let result ← read s
    assign (fun f => { f with buffer := f.buffer.flip })
    let b' ← getInto b off result
    pure (result, b')) (endOfStream (-1, b))

/-- `SerialInputStream.read(byte[], int, int)` -/
def readRange (s : Socket) (b : List UInt8) (off len : ℤ) : Call (ℤ × List UInt8) :=
  if off < 0 ∨ len < 0 ∨ len > b.length - off then raise .indexOutOfBoundsException
  else readInto s b off.toNat len.toNat

/-- `SerialInputStream.read(byte[])` -/
def readArray (s : Socket) (b : List UInt8) : Call (ℤ × List UInt8) := readInto s b 0 b.length

/-- `read()` of the stream `getInputStream` returns. -/
def readSingle (s : Socket) : Call ℤ := tryCatch (readByte s) (endOfStream (-1))

/-- How `SerialInputStream.read(byte[], int, int)` may end after it has taken
`bytes`: in their number with all of them stored, in -1 if there are none, or in
an IOException. -/
def Proper (b : List UInt8) (off len : ℕ) (bytes : List UInt8) :
    Except JavaException (ℤ × List UInt8) → Prop
  | .ok (n, b') => n = -1 ∧ bytes = [] ∧ b' = b ∨
      0 ≤ n ∧ n ≤ len ∧ n = bytes.length ∧ b' = store b off bytes
  | .error e => e.isIOException = true

section Specs
variable {s : Socket} {b : List UInt8} {off len : ℕ} {buf : ByteBuffer}

theorem setLimit_clear (fits : len ≤ buf.capacity) :
    ∃ limited, buf.clear.setLimit len = some limited ∧ limited.position = 0 ∧
      limited.remaining = len ∧ limited.capacity = buf.capacity := by
  refine ⟨_, dif_pos fits, ?_, ?_, rfl⟩
  · exact Nat.min_eq_left (Nat.zero_le _)
  · simp [ByteBuffer.remaining, ByteBuffer.clear]

theorem flip_pending {bytes : List UInt8} (fits : bytes.length ≤ buf.remaining)
    (start : buf.position = 0) : (buf.place bytes fits).flip.pending = bytes := by
  have written := ByteBuffer.place_written fits
  rw [start, List.take_zero, List.nil_append] at written
  exact written

/-- What `readInto` owes. -/
structure ReadInto (b : List UInt8) (off len : ℕ) (buf : ByteBuffer) (o : Observed) (f : Frame)
    (x : Except JavaException (ℤ × List UInt8)) : Prop where
  proper : Proper b off len o.bytes x ↔ Harmless o
  fits : o.bytes.length ≤ len
  returned : o.undisturbed = true → ∀ n b', x = .ok (n, b') →
    n = o.bytes.length ∧ b' = store b off o.bytes ∧ o.starved = false
  thrown : o.undisturbed = true → ∀ e, x = .error e →
    o.bytes = [] ∨ o.starved = true ∧ e.isTimeout = false
  capacity : f.buffer.capacity = buf.capacity

/-- `getInto` of exactly the bytes that have been read. -/
theorem mwp_getInto_all {h : History posix} {f : Frame} {bytes : List UInt8}
    {post : History posix → Frame → Except JavaException (List UInt8) → Prop}
    (room : off + bytes.length ≤ b.length) (pending : f.buffer.pending = bytes)
    (done : ∀ buf : ByteBuffer, buf.capacity = f.buffer.capacity →
      post h { f with buffer := buf } (.ok (store b off bytes))) :
    mwp (fun _ => True) h f (getInto b off bytes.length) post := by
  have inside : ¬((bytes.length : ℤ) < 0 ∨ off + (bytes.length : ℤ) > b.length) := by omega
  have got : f.buffer.get (bytes.length : ℤ).toNat =
      some (bytes, f.buffer.advance bytes.length) := by
    have enough : bytes.length ≤ f.buffer.remaining := by
      have length := f.buffer.pending_length
      rw [pending] at length
      omega
    rw [Int.toNat_natCast, ByteBuffer.get, if_pos enough, pending, List.take_length]
  simp only [getInto, if_neg inside, Method.mwp_bind, Method.mwp_locals, Method.rest_ok, got,
    Method.mwp_assign, Method.mwp_pure]
  exact done _ rfl

/-- Any other result ends in an unchecked exception or in that same result. -/
theorem mwp_getInto_other {h : History posix} {f : Frame} {result : ℤ}
    {post : History posix → Frame → Except JavaException (List UInt8) → Prop}
    (some : ∀ b' (buf : ByteBuffer), 0 ≤ result → buf.capacity = f.buffer.capacity →
      post h { f with buffer := buf } (.ok b'))
    (index : post h f (.error .indexOutOfBoundsException))
    (underflow : post h f (.error .bufferUnderflowException)) :
    mwp (fun _ => True) h f (getInto b off result) post := by
  unfold getInto
  split
  · exact Method.mwp_raise.mpr index
  · next inside =>
      simp only [Method.mwp_bind, Method.mwp_locals, Method.rest_ok]
      cases got : f.buffer.get result.toNat with
      | none => exact Method.mwp_raise.mpr underflow
      | some pair =>
          obtain ⟨bytes, buf⟩ := pair
          simp only [Method.mwp_bind, Method.mwp_assign, Method.rest_ok, Method.mwp_pure]
          apply some _ buf (by omega)
          unfold ByteBuffer.get at got
          split at got
          · cases got; rfl
          · cases got

theorem readInto_spec (inBounds : off + len ≤ b.length) (large : len ≤ buf.capacity) :
    mwp (fun _ => True) [] ⟨buf, false⟩ (readInto s b off len)
      (fun h f x => ReadInto b off len buf (observed h) f x) := by
  obtain ⟨limited, set, start, room, capacity⟩ := setLimit_clear large
  simp only [readInto, clearAndLimit, Method.mwp_bind, Method.mwp_locals, Method.rest_ok, set,
    Method.mwp_assign]
  apply mwp_tryCatch
  simp only [Method.mwp_bind]
  apply mwp_mono read_read
  rintro h f x ⟨⟨fits, filled⟩, clean, kept⟩
  have short : (observed h).bytes.length ≤ len := by
    simp only [room] at fits
    exact fits
  have same : f.buffer.capacity = buf.capacity := by
    rw [filled, ByteBuffer.place_capacity]
    exact capacity
  cases x with
  | error e =>
      simp only [Method.rest_error, Method.caught_error, endOfStream]
      split
      · next closed =>
          have clean : (observed h).bytes = [] ↔ Harmless (observed h) := by
            simpa [Clean, closed] using clean
          refine Method.mwp_pure.mpr ⟨?_, short, ?_, by rintro _ e ⟨⟩, same⟩
          · refine Iff.trans ?_ clean
            simp [Proper]
          · exact fun calm => absurd ((kept calm).1) (by simp [closed])
      · next open' =>
          have clean : e.isIOException = true ↔ Harmless (observed h) := by
            simpa [Clean, open'] using clean
          refine Method.mwp_raise.mpr ⟨clean, short, by rintro _ n b' ⟨⟩, ?_, same⟩
          rintro calm _ ⟨⟩
          exact (kept calm).2
  | ok n =>
      simp only [Method.rest_ok, Method.mwp_bind, Method.mwp_assign]
      by_cases all : n = (observed h).bytes.length
      · subst all
        refine mwp_getInto_all (by omega) ?_ ?_
        · rw [filled]
          exact flip_pending fits start
        · intro buf' capacity'
          refine Method.mwp_pure.mpr ⟨?_, short, ?_, by rintro _ e ⟨⟩, capacity'.trans same⟩
          · refine iff_of_true (.inr ⟨by omega, by omega, rfl, rfl⟩) (clean.mp rfl)
          · rintro calm _ _ ⟨⟩
            exact ⟨rfl, rfl, (kept calm).2⟩
      · have harmful : ¬Harmless (observed h) := fun harmless => all (clean.mpr harmless)
        have loss : ¬(observed h).undisturbed = true := fun calm => all (kept calm).1
        refine mwp_getInto_other ?_ ?_ ?_
        · intro b' buf' positive capacity'
          refine Method.mwp_pure.mpr ⟨iff_of_false ?_ harmful, short, fun calm => absurd calm loss,
            fun calm => absurd calm loss, capacity'.trans same⟩
          rintro (⟨rfl, -⟩ | ⟨-, -, eq, -⟩)
          · exact absurd positive (by decide)
          · exact all eq
        · simp only [Method.rest_error, Method.caught_error, endOfStream]
          exact Method.mwp_raise.mpr ⟨iff_of_false Bool.false_ne_true harmful, short,
            fun calm => absurd calm loss, fun calm => absurd calm loss, same⟩
        · simp only [Method.rest_error, Method.caught_error, endOfStream]
          exact Method.mwp_raise.mpr ⟨iff_of_false Bool.false_ne_true harmful, short,
            fun calm => absurd calm loss, fun calm => absurd calm loss, same⟩

theorem readRange_inBounds {off len : ℤ} (positive : 0 ≤ off ∧ 0 ≤ len)
    (inside : off + len ≤ b.length) :
    readRange s b off len = readInto s b off.toNat len.toNat := by
  unfold readRange
  rw [if_neg (by omega)]

/-- What the overridden `read()` owes; -1 stands for no byte. -/
structure ReadOne (o : Observed) (x : Except JavaException ℤ) : Prop where
  fed : o.starved = false
  returned : o.undisturbed = true → ∀ n, x = .ok n →
    n = -1 ∧ o.bytes = [] ∨ ∃ b : UInt8, o.bytes = [b] ∧ n = b.toNat
  thrown : o.undisturbed = true → ∀ e, x = .error e → o.bytes = []

theorem readSingle_spec {f : Frame} :
    mwp (fun _ => True) [] f (readSingle s) (fun h _ x => ReadOne (observed h) x) := by
  refine mwp_tryCatch (mwp_mono readByte_single ?_)
  rintro h f x ⟨fed, returned, thrown⟩
  cases x with
  | ok n =>
      refine ⟨fed, ?_, by rintro _ e ⟨⟩⟩
      rintro - m ⟨⟩
      exact .inr (returned n rfl)
  | error e =>
      simp only [Method.caught_error, endOfStream]
      split
      · refine Method.mwp_pure.mpr ⟨fed, ?_, by rintro _ e ⟨⟩⟩
        rintro calm n ⟨⟩
        exact .inl ⟨rfl, thrown e rfl calm⟩
      · refine Method.mwp_raise.mpr ⟨fed, by rintro _ n ⟨⟩, ?_⟩
        rintro calm _ ⟨⟩
        exact thrown e rfl calm

/-- A call of `read(byte[], int, int)` ends properly exactly when nothing harmful
was observed. -/
theorem readRange_proper_iff {off len : ℤ} (positive : 0 ≤ off ∧ 0 ≤ len)
    (inside : off + len ≤ b.length) (large : len.toNat ≤ buf.capacity) {h : History posix}
    {x : Except JavaException (ℤ × List UInt8)} {f : Frame}
    (run : Program.Returns (readRange s b off len ⟨buf, false⟩) h (x, f)) :
    Proper b off.toNat len.toNat (received h) x ↔ Harmless (observed h) := by
  rw [readRange_inBounds positive inside] at run
  have inBounds : off.toNat + len.toNat ≤ b.length := by omega
  have spec := wp_returns (readInto_spec (s := s) inBounds large) run
  rw [← observed_bytes]
  exact spec.proper

/-- One byte, the silence that ends the read, and the byte is returned. -/
theorem readRange_proper_iff_one_byte :
    Proper [0, 0] 0 2 [65] (.ok (1, [65, 0])) ↔ Harmless (observed
      [⟨.read 2, .ok ⟨[65], by decide⟩⟩, ⟨.begin, ()⟩, ⟨.poll .read 100, .ok .timeout⟩,
        ⟨.interrupted, false⟩]) := by
  have run : Program.Returns
      (readRange (.new "ttyUSB0") [0, 0] 0 2 ⟨ByteBuffer.allocateDirect 2, false⟩)
        [⟨.read 2, .ok ⟨[65], by decide⟩⟩, ⟨.begin, ()⟩, ⟨.poll .read 100, .ok .timeout⟩,
          ⟨.interrupted, false⟩] (.ok (1, [65, 0]), _) := Program.replay_sound 12 rfl
  exact readRange_proper_iff (by decide) (by decide) (by decide) run

/-- The cancel event after one byte: the byte is lost and the call ends in an
IndexOutOfBoundsException. -/
theorem readRange_cancelled : ∃ h x f,
    Program.Returns (readRange (.new "ttyUSB0") [0, 0] 0 2 ⟨ByteBuffer.allocateDirect 2, false⟩) h
      (x, f) ∧ x = .error .indexOutOfBoundsException ∧ ¬Proper [0, 0] 0 2 (received h) x := by
  refine ⟨[⟨.read 2, .ok ⟨[65], by decide⟩⟩, ⟨.begin, ()⟩, ⟨.poll .read 100, .ok (.ready 0 POLLIN)⟩,
    ⟨.interrupted, false⟩], _, _, Program.replay_sound 12 rfl, rfl, ?_⟩
  exact Bool.false_ne_true

end Specs
end Spsw.Jnhw

import Spsw.Jni.OutputStream

/-!
# The writing calls of an output stream agree

A caller cuts its bytes into calls of the three `write` methods. While the system accepts
what is written, all calls return and hand over these bytes if and only if no call is
bound to a missing function and no `jint` is read at its wrong end.
-/
namespace Spsw.Jni
open Interaction
open Interaction.Method (raise tryCatch mends mends_mono mends_iterate
  mends_tryCatch mends_tryFinally)
open Jnhw

/-- The system accepts what is written: each write takes a part of its bytes, a wait ends
because the port is ready, and no deadline passes within the call. -/
structure Succeeding (s : NativeSocket) (ok : Event posix → Prop) : Prop where
  writes : ∀ bytes r, ok ⟨.write bytes, r⟩ → ∃ k, r = .ok k ∧ (bytes ≠ [] → 0 < k.val)
  polls : ∀ timeout r, ok ⟨.poll .write timeout, r⟩ → ∃ close, r = .ok (.ready POLLOUT close) ∧
    close ≠ POLLIN
  clock : ∀ r, ok ⟨.clockGettime, r⟩ → ∃ now, r = .ok now
  inTime : 0 < s.pollWriteTimeout → ∀ start now, ok ⟨.clockGettime, .ok start⟩ →
    ok ⟨.clockGettime, .ok now⟩ →
    0 ≤ remainingTimeOut (start.plusMillis s.pollWriteTimeout) now
  unset : s.pollWriteTimeout = 0 → ∀ now, ok ⟨.clockGettime, .ok now⟩ →
    0 ≤ remainingTimeOut s.endTime now
  uninterrupted : ∀ r, ok ⟨.interrupted, r⟩ → r = false
  answers : ∀ e, ∃ r, ok ⟨e, r⟩

/-- A call, with its arguments as the caller has checked them. -/
inductive WriteCall where
  | int (b : BitVec 32)
  | array (b : JavaArray)
  | region (b : JavaArray) (off len : ℤ) (inBounds : 0 ≤ off ∧ 0 ≤ len ∧ off + len ≤ b.val.length)

namespace WriteCall

def perform (m : Machine) (s : NativeSocket) : WriteCall → Call Unit
  | .int b => SerialOutputStream.writeInt m s b
  | .array b => SerialOutputStream.writeArray m s b
  | .region b off len _ => SerialOutputStream.writeRegion m s b off len

/-- The bytes the caller means. -/
def bytes : WriteCall → List UInt8
  | .int b => [byteAt b 0]
  | .array b => b.val
  | .region b off len _ => (b.val.drop off.toNat).take len.toNat

/-- The bytes the descriptor is given. -/
def handed (order : ByteOrder) : WriteCall → List UInt8
  | .int b => (order.memory b).take 1
  | .array b => b.val
  | .region _ _ _ _ => []

/-- The call ends in a function of the library, or needs none. -/
def Linked : WriteCall → Prop
  | .int _ | .array _ => True
  | .region _ _ len _ => len = 0

/-- The method is bound, and the lowest byte of an `int` comes first in memory or is the
same as the one that does. -/
def Exact (order : ByteOrder) : WriteCall → Prop
  | .int b => order = .big → byteAt b 3 = byteAt b 0
  | .array _ => True
  | .region _ _ len _ => len = 0

end WriteCall

section Native
variable {s : NativeSocket} {ok : Event posix → Prop} {h : History posix}
  {f : Frame} {buff : List UInt8}

/-- The call asks for something and gets an answer that is `ok`. -/
theorem mends_ask {α : Type} {e : Request} {out : Answer e → α}
    {post : History posix → Frame → Except JavaException α → Prop}
    (done : ∀ r, ok ⟨e, r⟩ → post (h ++ [⟨e, r⟩]) f (.ok (out r))) :
    mends ok h f (ask e out) post :=
  Method.mends_request.mpr done

/-- `endTime` as the waits of the call use it. -/
def InTime (s : NativeSocket) (ok : Event posix → Prop) (endTime : Timespec) : Prop :=
  0 ≤ s.pollWriteTimeout → ∀ now, ok ⟨.clockGettime, .ok now⟩ → 0 ≤ remainingTimeOut endTime now

theorem clock_gettime_ends (succeeding : Succeeding s ok) (t : Timespec) :
    mends ok h f (clock_gettime t) (fun h' f' x => sent h' = sent h ∧ f' = f ∧
      ∃ now, x = .ok now ∧ ok ⟨.clockGettime, .ok now⟩) := by
  refine Method.mends_bind.mpr (mends_ask fun r allowed => ?_)
  obtain ⟨now, rfl⟩ := succeeding.clock r allowed
  exact Method.follows_ok.mpr (Method.mends_pure.mpr ⟨by simp, rfl, now, rfl, allowed⟩)

theorem endTime_ends (succeeding : Succeeding s ok) :
    mends ok h f (endTime s) (fun h' f' x => sent h' = sent h ∧ f' = f ∧
      ∃ endTime, x = .ok endTime ∧ InTime s ok endTime) := by
  rw [endTime]
  split
  · next timed =>
      refine Method.mends_bind.mpr (mends_mono (clock_gettime_ends succeeding _) ?_)
      rintro h' f' x ⟨same, kept, start, rfl, allowed⟩
      refine Method.follows_ok.mpr (Method.mends_pure.mpr ⟨same, kept, _, rfl, ?_⟩)
      exact fun _ now allowed' => succeeding.inTime timed start now allowed allowed'
  · next untimed =>
      refine Method.mends_pure.mpr ⟨rfl, rfl, _, rfl, fun some now allowed => ?_⟩
      exact succeeding.unset (by omega) now allowed

theorem remaining_ends (succeeding : Succeeding s ok) {endTime : Timespec}
    (inTime : InTime s ok endTime) (written : ℕ) :
    mends ok h f (remaining s endTime written) (fun h' f' x => sent h' = sent h ∧ f' = f ∧
      ∃ timeout, x = .ok timeout) := by
  rw [remaining]
  split
  · next timed =>
      refine Method.mends_bind.mpr (mends_mono (clock_gettime_ends succeeding _) ?_)
      rintro h' f' x ⟨same, kept, now, rfl, allowed⟩
      have left := inTime timed now allowed
      refine Method.follows_ok.mpr ?_
      rw [if_neg (by omega)]
      exact Method.mends_pure.mpr ⟨same, kept, _, rfl⟩
  · exact Method.mends_pure.mpr ⟨rfl, rfl, _, rfl⟩

/-- A write that the system accepts in part or whole. -/
theorem offer_ends (succeeding : Succeeding s ok) (bytes : List UInt8) :
    mends ok h f (offer bytes) (fun h' f' x => f' = f ∧
      ∃ k : Fin (bytes.length + 1), x = .ok (.ok k) ∧
      sent h' = sent h ++ bytes.take k.val ∧ (bytes ≠ [] → 0 < k.val)) := by
  refine mends_ask fun r allowed => ?_
  obtain ⟨k, rfl, some⟩ := succeeding.writes bytes r allowed
  exact ⟨rfl, k, rfl, by simp, some⟩

/-- Every round hands over more of the bytes. -/
theorem writeRound_ends (succeeding : Succeeding s ok) {invalid : Bool}
    {errno : Errno} {endTime : Timespec} (inTime : InTime s ok endTime) {h₀ : History posix}
    {written offset : ℕ} (inside : offset < buff.length)
    (offered : sent h = sent h₀ ++ buff.take offset) :
    mends ok h f (writeRound s invalid buff errno endTime (written, offset))
      (Method.again (fun h' f' x =>
        (f' = f ∧ x.2 < buff.length ∧ sent h' = sent h₀ ++ buff.take x.2) ∧
          buff.length - x.2 < buff.length - offset)
        (fun h' f' x => f' = f ∧ (∃ n, x = .ok n) ∧ sent h' = sent h₀ ++ buff)) := by
  simp only [writeRound, Method.mends_bind]
  apply mends_mono (remaining_ends succeeding inTime written)
  rintro h₁ f₁ x ⟨same, rfl, timeout, rfl⟩
  simp only [Method.follows_ok, Method.mends_bind]
  refine mends_ask fun r allowed => ?_
  obtain ⟨close, rfl, quiet⟩ := succeeding.polls timeout r allowed
  simp only [Method.follows_ok, Method.mends_bind, checkWritable, if_neg quiet,
    if_true, Method.mends_pure]
  apply mends_mono (offer_ends succeeding _)
  rintro h₂ f₂ x ⟨rfl, k, rfl, handed, some⟩
  have size : (buff.drop offset).length = buff.length - offset := List.length_drop
  have positive : 0 < k.val := some (by
    rw [← List.length_pos_iff]
    omega)
  have bound := k.isLt
  have handed : sent h₂ = sent h₀ ++ buff.take (offset + k.val) := by
    rw [handed, sent_append, sent_cons, sent_nil, same, offered]
    simp [List.take_add]
  refine Method.follows_ok.mpr ?_
  dsimp only
  split
  · next more =>
      apply Method.mends_pure.mpr
      exact ⟨⟨rfl, more, handed⟩, by dsimp only; omega⟩
  · next full =>
      apply Method.mends_pure.mpr
      refine ⟨rfl, ⟨_, rfl⟩, ?_⟩
      rw [handed, List.take_of_length_le (by omega)]

theorem writeBuffer_ends (succeeding : Succeeding s ok) (buff : List UInt8) :
    mends ok h f (writeBuffer s buff) (fun h' f' x => f' = f ∧ (∃ n, x = .ok n) ∧
      sent h' = sent h ++ buff) := by
  simp only [writeBuffer, Method.mends_bind]
  refine mends_ask fun invalid _ => ?_
  simp only [Method.follows_ok, Method.mends_bind]
  apply mends_mono (offer_ends succeeding buff)
  rintro h₁ f₁ x ⟨rfl, k, rfl, handed, some⟩
  have handed : sent h₁ = sent h ++ buff.take k.val := by simpa using handed
  refine Method.follows_ok.mpr ?_
  dsimp only
  split
  · next all =>
      refine Method.mends_pure.mpr ⟨rfl, ⟨_, rfl⟩, ?_⟩
      rw [handed, List.take_of_length_le (Nat.le_of_eq all.symm)]
  · next part =>
      have bound := k.isLt
      simp only [writeRest, Method.mends_bind]
      apply mends_mono (endTime_ends succeeding)
      rintro h₂ f₂ x ⟨same, rfl, endTime, rfl, inTime⟩
      refine Method.follows_ok.mpr (mends_iterate
        (fun h' f' x => f' = f₂ ∧ x.2 < buff.length ∧ sent h' = sent h ++ buff.take x.2)
        (fun x => buff.length - x.2) ⟨rfl, by dsimp only; omega, same.trans handed⟩ ?_)
      rintro h' f' ⟨written, offset⟩ ⟨rfl, inside, offered⟩
      exact writeRound_ends succeeding inTime inside offered

end Native

section Stream
variable {m : Machine} {s : NativeSocket} {ok : Event posix → Prop} {h : History posix} {f : Frame}

theorem endBlocking_ends (succeeding : Succeeding s ok) : mends ok h f endBlocking (fun h' _ x =>
    sent h' = sent h ∧ (f.completed = true → x = .ok ())) := by
  simp only [endBlocking, Method.mends_bind, Method.mends_locals, Method.follows_ok]
  refine mends_ask fun interrupted allowed => ?_
  rw [succeeding.uninterrupted interrupted allowed]
  simp only [Method.follows_ok, Bool.false_eq_true, if_false]
  split
  · exact Method.mends_pure.mpr ⟨by simp, fun _ => rfl⟩
  · next incomplete =>
      refine Method.mends_bind.mpr (mends_ask fun closed _ => Method.follows_ok.mpr ?_)
      split
      · exact Method.mends_raise.mpr ⟨by simp, fun completed => absurd completed incomplete⟩
      · exact Method.mends_pure.mpr ⟨by simp, fun _ => rfl⟩

/-- What a native call hands over is handed over, and it returns or throws as that does. -/
theorem interruptible_ends (succeeding : Succeeding s ok) {call : Call Unit}
    {bytes : List UInt8} {normal : Prop}
    (ends : ∀ h f, mends ok h f call (fun h' _ x => sent h' = sent h ++ bytes ∧
      ((x = .ok () ∧ normal) ∨ ∃ e, x = .error e ∧ e.isIOException = false ∧ ¬normal))) :
    mends ok h f (SerialOutputStream.interruptible call) (fun h' _ x => sent h' = sent h ++ bytes ∧
      (x = .ok () ↔ normal)) := by
  simp only [SerialOutputStream.interruptible, blocking, Method.mends_bind,
    Method.mends_assign, Method.follows_ok]
  apply mends_tryFinally
  refine Method.mends_bind.mpr (mends_ask fun _ _ => Method.follows_ok.mpr (mends_tryCatch ?_))
  refine Method.mends_bind.mpr (mends_mono (ends _ _) ?_)
  rintro h₁ f₁ x ⟨handed, ⟨rfl, linked⟩ | ⟨e, rfl, other, unlinked⟩⟩
  · refine Method.follows_ok.mpr (Method.mends_assign.mpr ?_)
    apply mends_mono (endBlocking_ends succeeding)
    rintro h₂ f₂ x ⟨same, returns⟩
    cases returns rfl
    exact ⟨by simpa using same.trans handed, iff_of_true rfl linked⟩
  · refine Method.follows_error.mpr ?_
    simp only [other, Bool.false_eq_true, if_false, Method.mends_raise]
    apply mends_mono (endBlocking_ends succeeding)
    rintro h₂ f₂ (e' | u) ⟨same, -⟩
    · exact ⟨by simpa using same.trans handed, iff_of_false (by simp) unlinked⟩
    · exact ⟨by simpa using same.trans handed, iff_of_false (by simp) unlinked⟩

theorem returned_ends (succeeding : Succeeding s ok) (buff : List UInt8) :
    mends ok h f (do
      let _ ← writeBuffer s buff
      pure () : Call Unit) (fun h' _ x => sent h' = sent h ++ buff ∧
        ((x = .ok () ∧ True) ∨ ∃ e, x = .error e ∧ e.isIOException = false ∧ ¬True)) := by
  refine Method.mends_bind.mpr (mends_mono (writeBuffer_ends succeeding buff) ?_)
  rintro h' f' x ⟨-, ⟨n, rfl⟩, handed⟩
  exact Method.follows_ok.mpr (Method.mends_pure.mpr ⟨handed, .inl ⟨rfl, trivial⟩⟩)

/-- A call hands over what its function makes of the bytes, and returns if it has one. -/
theorem perform_ends (succeeding : Succeeding s ok) (call : WriteCall) :
    mends ok h f (call.perform m s) (fun h' _ x => sent h' = sent h ++ call.handed m.order ∧
      (x = .ok () ↔ call.Linked)) := by
  cases call with
  | int b =>
      rw [WriteCall.perform, SerialOutputStream.writeInt, (linked m s).2.2]
      exact interruptible_ends succeeding fun h f => returned_ends succeeding _
  | array b =>
      rw [WriteCall.perform, SerialOutputStream.writeArray]
      split
      · next none =>
          have empty : b.val = [] := List.length_eq_zero_iff.mp none
          exact Method.mends_pure.mpr ⟨by simp [WriteCall.handed, empty], iff_of_true rfl trivial⟩
      · rw [(linked m s).2.1]
        exact interruptible_ends succeeding fun h f => returned_ends succeeding _
  | region b off len inBounds =>
      have small : toInt (off + len) = off + len := by
        have size := b.property
        rw [toInt, Int.bmod_eq_of_le (by omega) (by omega)]
      rw [WriteCall.perform, SerialOutputStream.writeRegion, small, if_neg (by omega)]
      split
      · next none =>
          exact Method.mends_pure.mpr ⟨by simp [WriteCall.handed], iff_of_true rfl none⟩
      · next some =>
          rw [(linked m s).1]
          refine interruptible_ends succeeding fun h f => Method.mends_raise.mpr ?_
          exact ⟨by simp [WriteCall.handed], .inr ⟨_, rfl, rfl, some⟩⟩

end Stream

namespace WriteCall
variable {order : ByteOrder} {call : WriteCall}

theorem handed_length (order : ByteOrder) (linked : call.Linked) :
    (call.handed order).length = call.bytes.length := by
  cases call with
  | int b => cases order <;> rfl
  | array b => rfl
  | region b off len inBounds =>
      obtain rfl : len = 0 := linked
      rfl

/-- A call is exact when it is bound and hands over what the caller means. -/
theorem exact_iff : call.Exact order ↔ call.Linked ∧ call.bytes = call.handed order := by
  cases call with
  | int b =>
      cases order with
      | little => exact iff_of_true (by simp [Exact]) ⟨trivial, rfl⟩
      | big =>
          constructor
          · exact fun same => ⟨trivial, congrArg (fun x => [x]) (same rfl).symm⟩
          · exact fun same _ => (List.cons.inj same.2).1.symm
  | array b => exact iff_of_true trivial ⟨trivial, rfl⟩
  | region b off len inBounds =>
      constructor
      · intro none
        obtain rfl : len = 0 := none
        exact ⟨rfl, rfl⟩
      · exact And.left

end WriteCall

/-- A call, the settings it finds, and what the system answers while it runs. -/
structure Turn where
  call : WriteCall
  socket : NativeSocket
  ok : Event posix → Prop
  succeeding : Succeeding socket ok

/-- No buffer takes part in the calls of a stream. -/
def outside : Frame := ⟨ByteBuffer.wrap [], false⟩

/-- Each call in turn ends and returns normally, and then `post` holds. -/
def AllReturn (m : Machine) (post : History posix → Prop) : List Turn → History posix → Prop
  | [], h => post h
  | turn :: turns, h => mends turn.ok h outside (turn.call.perform m turn.socket)
      (fun h' _ x => x = .ok () ∧ AllReturn m post turns h')

theorem allReturn_iff {m : Machine} {turns : List Turn} {h : History posix} {before : List UInt8}
    (size : before.length = (sent h).length) :
    AllReturn m (fun h' =>
      sent h' = before ++ turns.flatMap (fun turn => turn.call.bytes)) turns h ↔
      before = sent h ∧ ∀ turn ∈ turns, turn.call.Exact m.order := by
  induction turns generalizing h before with
  | nil =>
      constructor
      · intro same
        exact ⟨by simpa using same.symm, by simp⟩
      · intro same
        change sent h = before ++ []
        rw [List.append_nil, same.1]
  | cons turn turns ih =>
      have ends := perform_ends (m := m) (h := h) (f := outside) turn.succeeding turn.call
      simp only [List.flatMap_cons, ← List.append_assoc, List.forall_mem_cons]
      constructor
      · intro returned
        obtain ⟨h', x, ⟨normal, rest⟩, handed, linked⟩ :=
          ends_reached (ends_and returned ends) turn.succeeding.answers
        have linked := linked.mp normal
        have lengths := WriteCall.handed_length m.order linked
        obtain ⟨same, others⟩ :=
          (ih (by rw [handed, List.length_append, List.length_append, size, lengths])).mp rest
        obtain ⟨same, meant⟩ := List.append_inj (same.trans handed) size
        exact ⟨same, WriteCall.exact_iff.mpr ⟨linked, meant⟩, others⟩
      · rintro ⟨same, exact', others⟩
        obtain ⟨linked, meant⟩ := WriteCall.exact_iff.mp exact'
        apply mends_mono ends
        rintro h' f' x ⟨handed, returns⟩
        have whole : before ++ turn.call.bytes = sent h' := by rw [handed, same, meant]
        exact ⟨returns.mpr linked, (ih (congrArg List.length whole)).mpr ⟨whole, others⟩⟩

/-- All calls return and the descriptor is given the caller's bytes, if and only if each
call has its function and each `int` its lowest byte where memory begins. -/
theorem writes_agree_iff (m : Machine) (turns : List Turn) :
    AllReturn m (fun h => sent h = turns.flatMap (fun turn => turn.call.bytes)) turns [] ↔
      ∀ turn ∈ turns, turn.call.Exact m.order :=
  (allReturn_iff (h := []) rfl).trans (and_iff_right rfl)

/-- A system that grants all calls of a socket without a write timeout. -/
def granted : Event posix → Prop
  | ⟨.write bytes, r⟩ => ∃ k, r = .ok k ∧ (bytes ≠ [] → 0 < k.val)
  | ⟨.poll .write _, r⟩ => r = .ok (.ready POLLOUT 0)
  | ⟨.clockGettime, r⟩ => r = .ok ⟨0, 0⟩
  | ⟨.interrupted, r⟩ => r = false
  | _ => True

theorem granted_succeeding : Succeeding .new granted := by
  refine ⟨fun _ _ allowed => allowed, ?_, fun _ allowed => ⟨_, allowed⟩, ?_, ?_,
    fun _ allowed => allowed, ?_⟩
  · rintro timeout r rfl
    exact ⟨0, rfl, by decide⟩
  · rintro ⟨⟩
  · rintro ⟨⟩
  · intro e
    cases e with
    | write bytes =>
        refine ⟨.ok (Fin.last _), _, rfl, fun some => ?_⟩
        exact List.length_pos_iff.mpr some
    | read room => exact ⟨.error .EAGAIN, trivial⟩
    | poll direction timeout => cases direction <;> exact ⟨.ok (.ready POLLOUT 0), by trivial⟩
    | clockGettime => exact ⟨_, rfl⟩
    | interrupted => exact ⟨_, rfl⟩
    | fdIsInvalid => exact ⟨false, trivial⟩
    | isFdValid => exact ⟨true, trivial⟩
    | pollFdsToString direction => exact ⟨"", trivial⟩
    | begin => exact ⟨(), trivial⟩
    | channelClosed => exact ⟨false, trivial⟩

/-- One call of `write(byte[], int, int)` throws an error, and one of `write(int)` hands over
a zero on a big-endian machine. -/
theorem writes_disagree :
    (¬ ∀ turns : List Turn, AllReturn ⟨.little, fun _ => true⟩
      (fun h => sent h = turns.flatMap (fun turn => turn.call.bytes)) turns []) ∧
    ¬ ∀ b : BitVec 32, AllReturn ⟨.big, fun _ => true⟩ (fun h => sent h = [byteAt b 0])
      [⟨.int b, .new, granted, granted_succeeding⟩] [] := by
  constructor
  · intro agree
    have returned :=
      agree [⟨.region ⟨[1, 2], by decide⟩ 0 2 (by decide), .new, granted, granted_succeeding⟩]
    cases ((allReturn_iff (h := []) rfl).mp returned).2 _ List.mem_cons_self
  · intro agree
    have returned : AllReturn ⟨.big, fun _ => true⟩
      (fun h => sent h = [] ++ [Turn.mk (.int 0x41) .new granted granted_succeeding].flatMap
        (·.call.bytes)) _ [] :=
      agree 0x41
    cases ((allReturn_iff (h := []) rfl).mp returned).2 _ List.mem_cons_self rfl

end Spsw.Jni

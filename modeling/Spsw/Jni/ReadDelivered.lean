import Spsw.Jni.InputStream
import Spsw.Jni.TermiosCalls

/-!
# A native read delivers every byte

`readBuffer` keeps the number of bytes that the descriptor has handed out, and each `read`
puts its own behind them. What has been handed out is therefore always the first part of
the memory, and the native methods and `read(ByteBuffer)` bring it to its place.
-/
namespace Spsw.Jni.TermiosIO
open Interaction
open Interaction.Method (mwp mwp_mono mwp_iterate)
open AbstractSerialPortSocketIO (Readout returned)
open Jnhw (Direction Errno PollResult Timespec POLLIN POLLHUP POLLNVAL INVALID_FD remainingTimeOut)

/-- The bytes that one event has taken from the descriptor. -/
def obtained : Event termios → List UInt8
  | ⟨.read _ _, .ok bytes⟩ => bytes.val
  | _ => []

/-- All bytes that the descriptor has handed out, in order. -/
def handed (h : History termios) : List UInt8 := h.flatMap obtained

@[simp] theorem handed_append (h t : History termios) : handed (h ++ t) = handed h ++ handed t :=
  List.flatMap_append

@[simp] theorem handed_read (fd : ℤ) (room : ℕ)
    (bytes : { bytes : List UInt8 // bytes.length ≤ room }) :
    handed [⟨.read fd room, .ok bytes⟩] = bytes.val := List.append_nil _

/-- What has been handed out stands first in the memory, which is as it was behind that. -/
structure Filled (buff₀ : List UInt8) (len : ℕ) (h : History termios)
    (buff : List UInt8) : Prop where
  fits : (handed h).length ≤ len
  buff : buff = handed h ++ buff₀.drop (handed h).length

/-- What a read owes when it returns. -/
structure Delivered (buff₀ : List UInt8) (len : ℕ) (h : History termios) (r : Readout) : Prop where
  filled : Filled buff₀ len h r.buff
  counted : r.result ≠ -1 → r.result = (handed h).length
  failed : r.result = -1 → r.raised ≠ []
  timeouts : ∀ n message, .timeoutIOException n message ∈ r.raised → handed h = []

section Events
variable {h : History termios}

theorem Polled.handed {t : History termios} {result : Except Errno PollResult}
    (polled : Polled t result) :
    handed t = [] := by
  cases polled with
  | atOnce => rfl
  | asleep => rfl

/-- Another `read` behind what has been handed out. -/
theorem Filled.read {buff₀ buff : List UInt8} {len room : ℕ}
    (filled : Filled buff₀ len h buff) (fd : ℤ) (space : (handed h).length + room ≤ len)
    (bytes : { bytes : List UInt8 // bytes.length ≤ room }) :
    Filled buff₀ len (h ++ [⟨.read fd room, .ok bytes⟩])
      (buff.take (handed h).length ++ bytes.val ++
        buff.drop ((handed h).length + bytes.val.length)) := by
  have fits := bytes.property
  constructor
  case fits =>
    rw [handed_append, handed_read, List.length_append]
    omega
  case buff =>
    rw [filled.buff, handed_append, handed_read, List.take_left, List.length_append,
      ← List.drop_drop, List.drop_left, List.drop_drop]

theorem Filled.quiet {buff₀ buff : List UInt8} {len : ℕ}
    (filled : Filled buff₀ len h buff) {t : History termios} (none : handed t = []) :
    Filled buff₀ len (h ++ t) buff := by
  have same : handed (h ++ t) = handed h := by rw [handed_append, none, List.append_nil]
  constructor
  case fits => rw [same]; exact filled.fits
  case buff => rw [same]; exact filled.buff

end Events

/-- The running total of a read that goes on. -/
structure Progress (buff₀ : List UInt8) (len : ℕ) (h : History termios) (env : Env)
    (overallRead : ℕ) : Prop where
  filled : Filled buff₀ len h env.buff
  count : overallRead = (handed h).length
  untimed : ∀ n message, .timeoutIOException n message ∉ env.raised

/-- A part of a read either hands a number on or ends the call. -/
def Continuing {α : Type} (buff₀ : List UInt8) (len : ℕ)
    (Q : History termios → Env → α → Prop) (h : History termios) (env : Env) : Except ℤ α → Prop
  | .ok a => Q h env a
  | .error result => Delivered buff₀ len h ⟨result, env.raised, env.buff⟩

section Specs
variable {buff₀ : List UInt8} {len : ℕ} {h : History termios} {env : Env} {s : Settings}
  {port close : ℤ} {overallRead : ℕ}

theorem Progress.quiet (progress : Progress buff₀ len h env overallRead)
    {t : History termios} {env' : Env} (none : handed t = []) (same : Same env env') :
    Progress buff₀ len (h ++ t) env' overallRead := by
  constructor
  case filled => rw [same.buff]; exact progress.filled.quiet none
  case count => rw [handed_append, none, List.append_nil]; exact progress.count
  case untimed => rw [same.raised]; exact progress.untimed

/-- An exception that is no timeout, without the `return` that should follow it. -/
theorem Progress.raise (progress : Progress buff₀ len h env overallRead) {e : JavaException}
    (other : e.isTimeout = false) :
    Progress buff₀ len h { env with raised := env.raised ++ [e] } overallRead := by
  refine ⟨progress.filled, progress.count, fun n message member => ?_⟩
  rcases List.mem_append.mp member with old | new
  · exact progress.untimed n message old
  · rw [← List.mem_singleton.mp new] at other
    cases other

theorem Progress.done (progress : Progress buff₀ len h env overallRead) :
    Delivered buff₀ len h ⟨overallRead, env.raised, env.buff⟩ := by
  refine ⟨progress.filled, fun _ => by rw [progress.count],
    fun below => absurd (show (overallRead : ℤ) = -1 from below) (by omega), ?_⟩
  intro n message member
  exact absurd member (progress.untimed n message)

theorem Progress.fail (progress : Progress buff₀ len h env overallRead) (thrown : env.raised ≠ []) :
    Delivered buff₀ len h ⟨-1, env.raised, env.buff⟩ := by
  refine ⟨progress.filled, fun other => absurd rfl other, fun _ => thrown, ?_⟩
  intro n message member
  exact absurd member (progress.untimed n message)

/-- `throw ..; return -1;` -/
theorem mwp_failing {α : Type} {Q : History termios → Env → α → Prop}
    (progress : Progress buff₀ len h env overallRead) {e : JavaException}
    (other : e.isTimeout = false) :
    mwp (fun _ => True) h env (do throwing e; leave (-1)) (Continuing buff₀ len Q) := by
  simp only [Method.mwp_bind, mwp_throwing, Method.rest_ok, mwp_leave]
  exact (progress.raise other).fail (List.append_ne_nil_of_right_ne_nil _ (List.cons_ne_nil _ _))

theorem mwp_failingWithError {α : Type} {Q : History termios → Env → α → Prop}
    (progress : Progress buff₀ len h env overallRead) (bytesTransferred : ℤ) (msg : String) :
    mwp (fun _ => True) h env
      (do throw_InterruptedIOExceptionWithError s bytesTransferred msg; leave (-1))
      (Continuing buff₀ len Q) := by
  simp only [Method.mwp_bind, mwp_throw_InterruptedIOExceptionWithError, Method.rest_ok, mwp_leave]
  exact (progress.raise rfl).fail (List.append_ne_nil_of_right_ne_nil _ (List.cons_ne_nil _ _))

theorem readFailed_fails {α : Type} {Q : History termios → Env → α → Prop}
    (progress : Progress buff₀ len h env overallRead) (msg : String) :
    mwp (fun _ => True) h env (do readFailed s msg; leave (-1)) (Continuing buff₀ len Q) := by
  simp only [readFailed, Method.mwp_bind]
  apply mwp_mono getFd_calls
  rintro h' env' x ⟨fd, rfl, rfl, rfl⟩
  have progress : Progress buff₀ len (h ++ [⟨.getFd, fd⟩]) env' overallRead :=
    progress.quiet rfl (.refl _)
  simp only [Method.rest_ok]
  split
  · have failing : mwp (fun _ => True) _ env' (do throwing .asynchronousCloseException; leave (-1))
      (Continuing buff₀ len Q) := mwp_failing progress rfl
    simpa only [Method.mwp_bind] using failing
  · have failing : mwp (fun _ => True) _ env'
      (do throw_InterruptedIOExceptionWithError s 0 msg; leave (-1)) (Continuing buff₀ len Q) :=
    mwp_failingWithError progress 0 msg
    simpa only [Method.mwp_bind] using failing

/-- A `read` to where the bytes so far end. -/
theorem Progress.read (progress : Progress buff₀ len h env overallRead) {room : ℕ} (fd : ℤ)
    (space : overallRead + room ≤ len) (bytes : { bytes : List UInt8 // bytes.length ≤ room })
    {env' : Env} (raised : env'.raised = env.raised)
    (buff : env'.buff = env.buff.take overallRead ++ bytes.val ++
    env.buff.drop (overallRead + bytes.val.length)) :
    Progress buff₀ len (h ++ [⟨.read fd room, .ok bytes⟩]) env'
      (overallRead + bytes.val.length) := by
  obtain ⟨filled, rfl, untimed⟩ := progress
  refine ⟨?_, ?_, fun n message => by rw [raised]; exact untimed n message⟩
  · rw [buff]
    exact filled.read fd space bytes
  · rw [handed_append, handed_read, List.length_append]

/-- `if (nread == len) return nread;` -/
theorem mwp_full {nread : ℕ} (progress : Progress buff₀ len h env nread) :
    mwp (fun _ => True) h env (if nread = len then leave nread else pure nread)
      (Continuing buff₀ len (Progress buff₀ len)) := by
  split
  · exact mwp_leave.mpr progress.done
  · exact Method.mwp_pure.mpr progress

theorem firstRead_delivered (progress : Progress buff₀ len h env 0) :
    mwp (fun _ => True) h env (firstRead s port len)
      (Continuing buff₀ len (Progress buff₀ len)) := by
  simp only [firstRead, Method.mwp_bind]
  apply mwp_mono (read_calls port 0 len)
  rintro h' env' x (⟨bytes, rfl, raised, buff, rfl⟩ | ⟨errno, rfl, same, rfl⟩)
  · have progress := progress.read port (Nat.zero_add len).le bytes raised buff
    rw [Nat.zero_add] at progress
    exact mwp_full progress
  · have progress : Progress buff₀ len (h ++ [⟨.read port len, .error errno⟩]) env' 0 :=
      progress.quiet rfl same
    simp only [Method.rest_ok, Method.mwp_bind]
    apply mwp_mono getFd_calls
    rintro h' env'' x ⟨fd, rfl, rfl, rfl⟩
    have progress : Progress buff₀ len
      (h ++ [⟨.read port len, .error errno⟩] ++ [⟨.getFd, fd⟩]) env'' 0 :=
      progress.quiet rfl (.refl _)
    simp only [Method.rest_ok]
    split
    · exact mwp_failing progress rfl
    split
    · exact Method.mwp_pure.mpr progress
    · exact mwp_failingWithError progress 0 _

theorem checkReadable_delivered (progress : Progress buff₀ len h env overallRead)
    (portEvents closeEvents : BitVec 16) :
    mwp (fun _ => True) h env (checkReadable s portEvents closeEvents)
      (Continuing buff₀ len fun h' env' _ => Progress buff₀ len h' env' overallRead) := by
  unfold checkReadable
  split
  · exact mwp_failing progress rfl
  split
  · exact Method.mwp_pure.mpr progress
  split
  · exact mwp_failing progress rfl
  split
  · exact mwp_failing progress rfl
  · exact mwp_failingWithError progress 0 _

/-- Only here a timeout is thrown, and nothing has been handed out. -/
theorem awaitFirst_delivered (progress : Progress buff₀ len h env 0) :
    mwp (fun _ => True) h env (awaitFirst s port close len)
      (Continuing buff₀ len (Progress buff₀ len)) := by
  simp only [awaitFirst, Method.mwp_bind]
  apply mwp_mono (poll_calls .read port close s.pollReadTimeout)
  rintro h' env' x ⟨t, result, rfl, polled, same, rfl⟩
  have progress := progress.quiet polled.handed same
  rcases result with errno | (_ | ⟨portEvents, closeEvents⟩)
  · exact mwp_failingWithError progress 0 _
  · simp only [Method.rest_ok, Method.mwp_bind, mwp_throwing, mwp_leave]
    have none : handed (h ++ t) = [] := List.length_eq_zero_iff.mp progress.count.symm
    refine ⟨progress.filled, fun other => absurd rfl other, fun _ => ?_, fun _ _ _ => none⟩
    exact List.append_ne_nil_of_right_ne_nil _ (List.cons_ne_nil _ _)
  · simp only [Method.rest_ok]
    apply Method.mwp_seq (checkReadable_delivered progress portEvents closeEvents)
    · exact fun _ _ _ delivered => delivered
    intro h' env'' _ progress
    have progress : Progress buff₀ len h' env'' 0 := progress
    rw [Method.mwp_bind]
    apply mwp_mono (read_calls port 0 len)
    rintro h'' env₁ x (⟨bytes, rfl, raised, buff, rfl⟩ | ⟨errno, rfl, same, rfl⟩)
    · have progress := progress.read port (Nat.zero_add len).le bytes raised buff
      rw [Nat.zero_add] at progress
      exact mwp_full progress
    · exact readFailed_fails (progress.quiet rfl same) _

theorem remaining_delivered (progress : Progress buff₀ len h env overallRead) (endTime : Timespec) :
    mwp (fun _ => True) h env (remaining s endTime overallRead)
      (Continuing buff₀ len fun h' env' _ => Progress buff₀ len h' env' overallRead) := by
  unfold remaining
  split
  · exact Method.mwp_pure.mpr progress
  · rw [Method.mwp_bind]
    apply mwp_mono (clock_gettime_calls s.currentTime)
    rintro h' env' x ⟨r, now, rfl, same, rfl⟩
    have progress : Progress buff₀ len (h ++ [⟨.clockGettime, r⟩]) env' overallRead :=
      progress.quiet rfl same
    simp only [Method.rest_ok]
    split
    · exact mwp_leave.mpr progress.done
    split
    · exact Method.mwp_pure.mpr progress
    · exact Method.mwp_pure.mpr progress

theorem checkNext_delivered (progress : Progress buff₀ len h env overallRead)
    (result : Except Errno PollResult) :
    mwp (fun _ => True) h env (checkNext s overallRead result)
      (Continuing buff₀ len fun h' env' _ => Progress buff₀ len h' env' overallRead) := by
  rcases result with errno | (_ | ⟨portEvents, closeEvents⟩)
  · exact mwp_failingWithError progress 0 _
  · exact mwp_leave.mpr progress.done
  · exact checkReadable_delivered progress portEvents closeEvents

/-- A zero-byte `read` in the loop throws and goes on; the total is as it was. -/
theorem countRead_delivered {nread : ℕ}
    (progress : Progress buff₀ len h env (overallRead + nread)) :
    mwp (fun _ => True) h env (countRead s overallRead (.ok nread))
      (Continuing buff₀ len (Progress buff₀ len)) := by
  cases nread with
  | succ nread => exact Method.mwp_pure.mpr progress
  | zero =>
      simp only [countRead, Method.mwp_bind]
      apply mwp_mono getFd_calls
      rintro h' env' x ⟨fd, rfl, rfl, rfl⟩
      have progress : Progress buff₀ len (h ++ [⟨.getFd, fd⟩]) env' overallRead :=
        progress.quiet rfl (.refl _)
      simp only [Method.rest_ok]
      split
      · exact mwp_failing progress rfl
      · simp only [Method.mwp_bind, mwp_throw_InterruptedIOExceptionWithError,
          Method.rest_ok, Method.mwp_pure]
        exact progress.raise rfl

theorem readRound_delivered (progress : Progress buff₀ len h env overallRead) (endTime : Timespec) :
    mwp (fun _ => True) h env (readRound s port close len endTime overallRead)
      (Method.again (Progress buff₀ len) fun h' env' x =>
        Delivered buff₀ len h' ⟨returned x, env'.raised, env'.buff⟩) := by
  rw [readRound]
  apply Method.mwp_seq (remaining_delivered progress endTime)
  · exact fun _ _ _ delivered => delivered
  intro h env timeout progress
  have progress : Progress buff₀ len h env overallRead := progress
  rw [Method.mwp_bind]
  apply mwp_mono (poll_calls .read port close timeout)
  rintro h' env' x ⟨t, result, rfl, polled, same, rfl⟩
  rw [Method.rest_ok]
  apply Method.mwp_seq (checkNext_delivered (progress.quiet polled.handed same) result)
  · exact fun _ _ _ delivered => delivered
  intro h env _ progress
  have progress : Progress buff₀ len h env overallRead := progress
  have space : overallRead + (len - overallRead) ≤ len := by
    have := progress.filled.fits
    have := progress.count
    omega
  rw [Method.mwp_bind]
  apply mwp_mono (read_calls port overallRead (len - overallRead))
  have onward {h : History termios} {env : Env} {nread : Except Errno ℕ}
      (counting : mwp (fun _ => True) h env (countRead s overallRead nread)
        (Continuing buff₀ len (Progress buff₀ len))) :
      mwp (fun _ => True) h env (countRead s overallRead nread >>= fun overallRead =>
          if overallRead < len then pure (.inl overallRead) else pure (.inr (overallRead : ℤ)))
        (Method.again (Progress buff₀ len) fun h' env' x =>
          Delivered buff₀ len h' ⟨returned x, env'.raised, env'.buff⟩) := by
    apply Method.mwp_seq counting
    · exact fun _ _ _ delivered => delivered
    intro h env total progress
    split
    · exact Method.mwp_pure.mpr progress
    · exact Method.mwp_pure.mpr (Progress.done progress)
  rintro h' env' x (⟨bytes, rfl, raised, buff, rfl⟩ | ⟨errno, rfl, same, rfl⟩)
  · exact onward (countRead_delivered (progress.read port space bytes raised buff))
  · exact onward (readFailed_fails (progress.quiet rfl same) _)

/-- The loop invariant carried through the whole of `readBuffer`. -/
theorem readBuffer_delivered (s : Settings) (len : ℕ) (errno : Errno) (buff₀ : List UInt8) :
    mwp (fun _ => True) [] ⟨[], errno, buff₀⟩ (readBuffer s len) (fun h env x =>
      Delivered buff₀ len h ⟨returned x, env.raised, env.buff⟩) := by
  have start : Progress buff₀ len [] ⟨[], errno, buff₀⟩ 0 := ⟨⟨Nat.zero_le len, rfl⟩, rfl, by simp⟩
  simp only [readBuffer, Method.mwp_bind]
  apply mwp_mono getFd_calls
  rintro h env x ⟨port, rfl, rfl, rfl⟩
  simp only [Method.rest_ok, Method.mwp_bind]
  apply mwp_mono getCloseEventReadFd_calls
  rintro h env x ⟨close, rfl, rfl, rfl⟩
  have progress : Progress buff₀ len ([] ++ [⟨.getFd, port⟩] ++ [⟨.getCloseEventReadFd, close⟩])
      ⟨[], errno, buff₀⟩ 0 := (start.quiet rfl (.refl _)).quiet rfl (.refl _)
  rw [Method.rest_ok]
  apply Method.mwp_seq (firstRead_delivered progress)
  · exact fun _ _ _ delivered => delivered
  intro h env nread progress
  have progress : Progress buff₀ len h env nread := progress
  rw [Method.mwp_bind]
  apply mwp_mono (endTime_calls s.pollReadTimeout)
  rintro h₁ env₁ x ⟨clock, same, endTime, rfl⟩
  have progress : Progress buff₀ len h₁ env₁ nread := by
    rcases clock with rfl | ⟨r, rfl⟩
    · rw [← List.append_nil h₁]
      exact progress.quiet rfl same
    · exact progress.quiet rfl same
  have waited : mwp (fun _ => True) h₁ env₁ (if nread = 0 then awaitFirst s port close len
      else pure nread) (Continuing buff₀ len (Progress buff₀ len)) := by
    split
    · next none =>
        subst none
        exact awaitFirst_delivered progress
    · exact Method.mwp_pure.mpr progress
  rw [Method.rest_ok]
  apply Method.mwp_seq waited
  · exact fun _ _ _ delivered => delivered
  intro h env nread progress
  exact mwp_iterate (fun h env overallRead => Progress buff₀ len h env overallRead) progress
    fun h env overallRead progress => readRound_delivered progress endTime

end Specs
end Spsw.Jni.TermiosIO

namespace Spsw.Jni
open Interaction
open Interaction.Method (mwp mwp_mono)
open TermiosIO (termios Settings handed Filled Delivered readBuffer readBuffer_delivered)
open AbstractSerialPortSocketIO
open Slices (overwrite overwrite_fits overwrite_placed overwrite_same Placed)
open Jnhw (Errno)

/-- The `n` bytes handed out, at most `len`, are in `bytes'` from `start` on, and every other
element is as in `bytes`. -/
structure Brought (h : History termios) (start : ℕ) (len : ℤ) (bytes : List UInt8) (n : ℤ)
    (bytes' : List UInt8) : Prop where
  count : n = (handed h).length
  within : n ≤ len
  placed : Placed start (handed h) bytes bytes'

section Natives
variable {σ : Type} {h : History termios} {st : σ}

theorem mwp_callReadBuffer {s : Settings} {errno : Errno} {buff₀ : List UInt8} {len : ℕ} :
    mwp (fun _ => True) [] st (callReadBuffer s errno buff₀ len) (fun h st' x =>
      st' = st ∧ ∃ r, x = .ok r ∧ Delivered buff₀ len h r) := by
  apply wp_bind.mpr
  apply wp_mono (readBuffer_delivered s len errno buff₀)
  intro h x delivered
  exact wp_pure.mpr ⟨rfl, _, rfl, delivered⟩

theorem mwp_give {raised : List JavaException} {result : ℤ}
    {post : History termios → σ → Except JavaException ℤ → Prop}
    (thrown : ∀ e, e ∈ raised → post h st (.error e))
    (returned : raised = [] → post h st (.ok result)) :
    mwp (fun _ => True) h st (give raised result) post := by
  unfold give
  split
  · next e last => exact Method.mwp_raise.mpr (thrown e (List.mem_of_getLast? last))
  · next none => exact Method.mwp_pure.mpr (returned (List.getLast?_eq_none_iff.mp none))

/-- What is owed only of a call that returns a number. -/
def OnReturn (post : History termios → σ → ℤ → Prop) (h : History termios) (st : σ)
    (x : Except JavaException ℤ) : Prop :=
  ∀ n, x = .ok n → post h st n

theorem onReturn_error {post : History termios → σ → ℤ → Prop} {e : JavaException} :
    OnReturn post h st (.error e) := by
  simp [OnReturn]

/-- A result without an exception is a number of bytes. -/
theorem Delivered.quiet {buff₀ : List UInt8} {len : ℕ} {r : Readout}
    (delivered : Delivered buff₀ len h r) (none : r.raised = []) : r.result = (handed h).length :=
  delivered.counted fun below => delivered.failed below none

theorem readBytes_brings (found : Found) (s : Settings) (bytes : List UInt8) :
    mwp (fun _ => True) [] bytes (readBytes found s) (OnReturn fun h bytes' n =>
      Brought h 0 bytes.length bytes n bytes') := by
  simp only [readBytes, Method.mwp_bind, Method.mwp_locals, Method.rest_ok]
  apply mwp_mono mwp_callReadBuffer
  rintro h st x ⟨rfl, r, rfl, delivered⟩
  simp only [Method.rest_ok, Method.mwp_bind, Method.mwp_assign]
  refine mwp_give (fun _ _ => onReturn_error) fun none n returned => ?_
  cases returned
  have count := Delivered.quiet delivered none
  refine ⟨count, count.trans_le (Int.ofNat_le.mpr delivered.filled.fits), ?_⟩
  have fits : 0 + (handed h).length ≤ st.length := by rw [Nat.zero_add]; exact delivered.filled.fits
  have here : r.buff = overwrite st 0 (handed h) := by
    rw [overwrite_fits fits, List.take_zero, List.nil_append, Nat.zero_add]
    exact delivered.filled.buff
  rw [here]
  exact overwrite_placed fits

theorem readBytes_ArgsOK_brings (m : Machine) (found : Found) (s : Settings)
    (bytes : List UInt8) {off len : ℤ} (inside : 0 ≤ off ∧ 0 ≤ len ∧ off + len ≤ bytes.length) :
    mwp (fun _ => True) [] bytes (readBytes_ArgsOK m found s off len)
      (OnReturn fun h bytes' n => Brought h off.toNat len bytes n bytes') := by
  unfold readBytes_ArgsOK
  split
  · exact Method.mwp_raise.mpr onReturn_error
  simp only [Method.mwp_bind]
  apply mwp_mono mwp_callReadBuffer
  rintro h st x ⟨rfl, r, rfl, delivered⟩
  simp only [Method.rest_ok, Method.mwp_bind]
  have fits := delivered.filled.fits
  split
  · next some =>
      have number := delivered.counted (by omega)
      have region : 0 ≤ off ∧ 0 ≤ r.result ∧ off + r.result ≤ st.length := by omega
      simp only [SetByteArrayRegion, Method.mwp_bind, Method.mwp_locals,
        Method.rest_ok, if_pos region, Method.mwp_assign, Method.mwp_pure, List.append_nil]
      refine mwp_give (fun _ _ => onReturn_error) fun none n returned => ?_
      cases returned
      refine ⟨number, by omega, ?_⟩
      have slice : r.buff.take r.result.toNat = handed h := by
        rw [number, Int.toNat_natCast, delivered.filled.buff, List.take_left]
      rw [slice]
      exact overwrite_placed (by omega)
  · next none =>
      simp only [Method.mwp_pure, Method.rest_ok, List.append_nil]
      refine mwp_give (fun _ _ => onReturn_error) fun quiet n returned => ?_
      cases returned
      have number := Delivered.quiet delivered quiet
      have empty : handed h = [] := List.length_eq_zero_iff.mp (by omega)
      refine ⟨number, by omega, ?_⟩
      rw [empty]
      exact ⟨rfl, by simp, fun _ _ => rfl⟩

theorem read_ArgsOK_brings (found : Found) (s : Settings) (dst : ByteBuffer) :
    mwp (fun _ => True) [] dst (read_ArgsOK found s dst.position dst.remaining)
      (OnReturn fun h dst' n => Brought h dst.position dst.remaining dst.bytes n dst'.bytes ∧
        dst'.position = dst.position ∧ dst'.limit = dst.limit) := by
  simp only [read_ArgsOK, Method.mwp_bind, Method.mwp_locals, Method.rest_ok]
  apply mwp_mono mwp_callReadBuffer
  rintro h st x ⟨rfl, r, rfl, delivered⟩
  simp only [Method.rest_ok, Method.mwp_bind, Method.mwp_assign]
  refine mwp_give (fun _ _ => onReturn_error) fun none n returned => ?_
  cases returned
  have count := Delivered.quiet delivered none
  refine ⟨⟨count, count.trans_le (Int.ofNat_le.mpr delivered.filled.fits), ?_⟩, rfl, rfl⟩
  have within : st.position + (handed h).length ≤ st.bytes.length := by
    have := delivered.filled.fits
    have := st.limit_le
    have := st.position_le
    simp only [ByteBuffer.remaining] at *
    omega
  simp only [store, delivered.filled.buff]
  rw [overwrite_same within]
  exact overwrite_placed within

/-- What an interruptible call owes when it returns, it owes of its native method. -/
theorem mwp_interruptible {call : JavaCall σ ℤ} {ending : Ending}
    {post : History termios → σ → ℤ → Prop} (w : mwp (fun _ => True) [] st call (OnReturn post)) :
    mwp (fun _ => True) [] st (interruptible ending call) (OnReturn post) := by
  apply wp_bind.mpr
  apply wp_mono w
  intro h x owed
  refine wp_pure.mpr fun n settled => ?_
  obtain ⟨outcome, st'⟩ := x
  unfold Ending.settle at settled
  split at settled
  · cases settled
  · cases outcome with
    | ok _ =>
        cases settled
        exact owed n rfl
    | error e =>
        dsimp only at settled
        split at settled <;> cases settled

theorem read_brings (found : Found) (s : Settings) (ending : Ending)
    (readOnly : Bool) (dst : ByteBuffer) :
    mwp (fun _ => True) [] dst (AbstractSerialPortSocket.read found s ending readOnly)
      (OnReturn fun h dst' n => Brought h dst.position dst.remaining dst.bytes n dst'.bytes ∧
        (dst'.position : ℤ) = dst.position + n ∧ dst'.limit = dst.limit) := by
  unfold AbstractSerialPortSocket.read
  split
  · exact Method.mwp_raise.mpr onReturn_error
  simp only [Method.mwp_bind, Method.mwp_locals, Method.rest_ok]
  split
  · rw [Method.mwp_bind]
    apply mwp_mono (mwp_interruptible (read_ArgsOK_brings found s dst))
    intro h st x brought
    cases x with
    | error e => exact Method.rest_error.mpr onReturn_error
    | ok n =>
        obtain ⟨brought, position, limit⟩ := brought n rfl
        have number := brought.count
        have fits := brought.within
        simp only [Method.rest_ok]
        split
        · have within : 0 ≤ st.position + n ∧ st.position + n ≤ st.limit := by
            have := dst.position_le
            simp only [ByteBuffer.remaining] at fits
            omega
          simp only [AbstractSerialPortSocket.movePosition, ByteBuffer.setPosition,
            dif_pos within, Method.mwp_bind, Method.mwp_locals, Method.rest_ok,
            Method.mwp_assign, Method.mwp_pure]
          intro n' returned
          cases returned
          refine ⟨brought, ?_, limit⟩
          rw [← position]
          exact Int.toNat_of_nonneg within.1
        · refine Method.mwp_pure.mpr fun n' returned => ?_
          cases returned
          exact ⟨brought, by omega, limit⟩
  · refine Method.mwp_pure.mpr fun n' returned => ?_
    cases returned
    exact ⟨⟨rfl, Int.natCast_nonneg _, rfl,
      by simp [handed], fun _ _ => rfl⟩, (Int.add_zero _).symm, rfl⟩

end Natives

/-- The bytes that a read takes from the descriptor reach the caller, whichever way it reads. -/
theorem read_delivers (m : Machine) (found : Found) (s : Settings) (ending : Ending) :
    (∀ len errno buff₀ h x env, Program.Returns (readBuffer s len ⟨[], errno, buff₀⟩) h (x, env) →
      Delivered buff₀ len h ⟨returned x, env.raised, env.buff⟩) ∧
    (∀ bytes h n bytes', Program.Returns (readBytes found s bytes) h (.ok n, bytes') →
      Brought h 0 bytes.length bytes n bytes') ∧
    (∀ bytes (off len : ℤ) h n bytes', 0 ≤ off ∧ 0 ≤ len ∧ off + len ≤ bytes.length →
      Program.Returns (readBytes_ArgsOK m found s off len bytes) h (.ok n, bytes') →
      Brought h off.toNat len bytes n bytes') ∧
    ∀ readOnly dst h n dst',
      Program.Returns (AbstractSerialPortSocket.read found s ending readOnly dst) h (.ok n, dst') →
      Brought h dst.position dst.remaining dst.bytes n dst'.bytes ∧
        (dst'.position : ℤ) = dst.position + n ∧
        dst'.limit = dst.limit := by
  refine ⟨?_, ?_, ?_, ?_⟩
  · intro len errno buff₀ h x env run
    exact wp_returns (readBuffer_delivered s len errno buff₀) run
  · intro bytes h n bytes' run
    exact wp_returns (readBytes_brings found s bytes) run n rfl
  · intro bytes off len h n bytes' inside run
    exact wp_returns (readBytes_ArgsOK_brings m found s bytes inside) run n rfl
  · intro readOnly dst h n dst' run
    exact wp_returns (read_brings found s ending readOnly dst) run n rfl

/-- One of two bytes, and then the time between two bytes is over. -/
def oneByte : History termios :=
  [⟨.getFd, (5 : ℤ)⟩, ⟨.getCloseEventReadFd, (6 : ℤ)⟩, ⟨.read 5 2, .ok ⟨[7], by decide⟩⟩,
    ⟨.poll .read 5 6 100, some (.ok .timeout)⟩]

theorem read_delivers_one : Delivered [0, 0] 2 oneByte ⟨1, [], [7, 0]⟩ ∧
    Brought oneByte 0 2 [0, 0] 1 [7, 0] ∧
    Brought oneByte 1 2 [9, 0, 0, 9] 1 [9, 7, 0, 9] ∧
    ∃ dst' : ByteBuffer, Brought oneByte 0 2 [0, 0] 1 dst'.bytes ∧
      (dst'.position : ℤ) = 0 + 1 ∧ dst'.limit = 2 := by
  obtain ⟨plain, array, region, buffer⟩ :=
    read_delivers ⟨.little, fun _ => true⟩ ⟨.EAGAIN, [0, 0]⟩ Settings.new ⟨false, false⟩
  refine ⟨?_, ?_, ?_, ?_⟩
  · exact plain 2 .EAGAIN [0, 0] oneByte (.error 1) ⟨[], .EAGAIN,
      [7, 0]⟩ (Program.replay_sound 20 rfl)
  · exact array [0, 0] oneByte 1 [7, 0] (Program.replay_sound 20 rfl)
  · exact region [9, 0, 0, 9] 1 2 oneByte 1 [9, 7, 0, 9] (by decide) (Program.replay_sound 20 rfl)
  · exact ⟨_, buffer false (ByteBuffer.allocateDirect 2) oneByte 1 _ (Program.replay_sound 20 rfl)⟩

end Spsw.Jni

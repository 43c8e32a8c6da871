import Spsw.Jnhw.System
import Mathlib.Algebra.Group.Int.Defs
import Mathlib.Algebra.Group.Nat.Defs

/-!
# What the socket methods share

The local state of a call, its wrappers around the system calls, and the
protocol of `AbstractInterruptibleChannel` around its blocking part.
-/
namespace Spsw.Jnhw
open Interaction
open Interaction.Method (locals assign raise tryFinally settle mwp mwp_tryFinally mwp_mono)

/-- The settings a read or write consults. -/
structure Socket where
  portName : String
  interByteReadTimeout : ℤ
  pollReadTimeout : ℤ
  pollWriteTimeout : ℤ
  deriving DecidableEq, Repr

def POLL_INFINITE_TIMEOUT : ℤ := -1

/-- A socket with the timeouts its fields are initialised with. -/
def Socket.new (portName : String) : Socket :=
  ⟨portName, 100, POLL_INFINITE_TIMEOUT, POLL_INFINITE_TIMEOUT⟩

/-- What a call works on: its buffer, and the local `completed`. -/
structure Frame where
  buffer : ByteBuffer
  completed : Bool
  deriving DecidableEq

abbrev Call (α : Type) := Method posix Frame JavaException α

def ask {α : Type} (e : Request) (out : Answer e → α) : Call α :=
  (Method.request e out : Method posix Frame JavaException α)

def fdIsInvalid : Call Bool := ask .fdIsInvalid (fun r => r)

def isFdValid : Call Bool := ask .isFdValid (fun r => r)

def pollFdsToString (d : Direction) : Call String := ask (.pollFdsToString d) (fun r => r)

def clock_gettime : Call (Except Errno Timespec) := ask .clockGettime (fun r => r)

def poll (d : Direction) (timeout : ℤ) : Call (Except Errno PollResult) :=
  ask (.poll d timeout) (fun r => r)

def offer (bytes : List UInt8) : Call (Except Errno (Fin (bytes.length + 1))) :=
  ask (.write bytes) (fun r => r)

def fetch (room : ℕ) : Call (Except Errno { bytes : List UInt8 // bytes.length ≤ room }) :=
  ask (.read room) (fun r => r)

def begin : Call Unit := ask .begin (fun r => r)

def isInterrupted : Call Bool := ask .interrupted (fun r => r)

def isClosed : Call Bool := ask .channelClosed (fun r => r)

def complete : Call Unit := assign (fun f => { f with completed := true })

namespace Unistd

/-- `Unistd.write(fd, src)`: the position follows the bytes accepted. -/
def write : Call (Except Errno ℕ) := do
  let frame ← locals
  let result ← offer frame.buffer.pending
  match result with
  | .ok k => do
      assign (fun f => { f with buffer := f.buffer.advance k.val })
      pure (.ok k.val)
  | .error nee => pure (.error nee)

/-- `Unistd.read(fd, dst)`: the bytes obtained are placed at the position. -/
def read : Call (Except Errno ℕ) := do
  let frame ← locals
  let result ← fetch frame.buffer.remaining
  match result with
  | .ok bytes => do
      assign (fun f => { f with buffer := frame.buffer.place bytes.val bytes.property })
      pure (.ok bytes.val.length)
  | .error nee => pure (.error nee)

end Unistd

/-- `if (fd == INVALID_FD) throw AsynchronousCloseException else AsynchronousCancelException`. -/
def closedOrCancelled {α : Type} : Call α := do
  let invalid ← fdIsInvalid
  if invalid = true then raise .asynchronousCloseException
  else raise .asynchronousCancelException

def formatMsg (s : Socket) (nee : Errno) (formatString : String) : Call String := do
  let invalid ← fdIsInvalid
  if invalid = true then pure PORT_IS_CLOSED
  else do
    let valid ← isFdValid
    if valid = true then
      pure ("Native port error on " ++ s.portName ++ ", \"" ++ nee.getErrnoSymbol ++ "\" " ++
        formatString)
    else pure PORT_FD_INVALID

/-- The cast `(int)`. -/
def toInt (x : ℤ) : ℤ := Int.bmod x (2 ^ 32)

/-- The end time `timeout` milliseconds from now. The carry is taken only above
1000000000, so `tv_nsec` may be exactly that. -/
def Timespec.plusMillis (now : Timespec) (timeout : ℤ) : Timespec :=
  let tv_sec := now.tv_sec + timeout.tdiv 1000
  let tv_nsec := now.tv_nsec + timeout.tmod 1000 * 1000000
  if tv_nsec > 1000000000 then ⟨tv_sec + 1, tv_nsec - 1000000000⟩ else ⟨tv_sec, tv_nsec⟩

def remainingTimeOut (endTime now : Timespec) : ℤ :=
  toInt (toInt (toInt (endTime.tv_sec - now.tv_sec) * 1000) +
    toInt ((endTime.tv_nsec - now.tv_nsec).tdiv 1000000))

/-- The `endTime` of a call, or `none` without an overall timeout. -/
def deadline (timeout : ℤ) : Call (Option Timespec) :=
  if timeout = POLL_INFINITE_TIMEOUT then pure none
  else do
    let now ← clock_gettime
    match now with
    | .ok now => pure (some (now.plusMillis timeout))
    | .error nee => raise (.runtimeException nee.getErrnoSymbol)

/-- `end(completed)`. -/
def endBlocking : Call Unit := do
  let frame ← locals
  let interrupted ← isInterrupted
  if interrupted = true then raise .closedByInterruptException
  else if frame.completed = true then pure ()
  else do
    let closed ← isClosed
    if closed = true then raise .asynchronousCloseException else pure ()

/-- `boolean completed = false; try { begin(); body } finally { end(completed); }`. -/
def blocking {α : Type} (body : Call α) : Call α := do
  assign (fun f => { f with completed := false })
  tryFinally (do begin; body) endBlocking

section Rules
variable {I : History posix → Prop} {h : History posix} {f : Frame}

@[simp] theorem mwp_ask {α : Type} {e : Request} {out : Answer e → α}
    {post : History posix → Frame → Except JavaException α → Prop} :
    mwp I h f (ask e out) post ↔
      ∀ r : Answer e, I (h ++ [⟨e, r⟩]) ∧ post (h ++ [⟨e, r⟩]) f (.ok (out r)) :=
  Method.mwp_request

@[simp] theorem mwp_complete {post : History posix → Frame → Except JavaException Unit → Prop} :
    mwp I h f complete post ↔ post h { f with completed := true } (.ok ()) :=
  Method.mwp_assign

@[simp] theorem mwp_offer {bytes : List UInt8}
    {post : History posix → Frame →
    Except JavaException (Except Errno (Fin (bytes.length + 1))) → Prop} :
    mwp I h f (offer bytes) post ↔
      (∀ k, I (h ++ [⟨.write bytes, .ok k⟩]) ∧
        post (h ++ [⟨.write bytes, .ok k⟩]) f (.ok (.ok k))) ∧
      ∀ nee, I (h ++ [⟨.write bytes, .error nee⟩]) ∧
        post (h ++ [⟨.write bytes, .error nee⟩]) f (.ok (.error nee)) := by
  apply Iff.trans mwp_ask
  constructor
  · exact fun w => ⟨fun k => w (.ok k), fun nee => w (.error nee)⟩
  · rintro ⟨accepts, refuses⟩ r
    cases r with
    | ok k => exact accepts k
    | error nee => exact refuses nee

@[simp] theorem mwp_fetch {room : ℕ} {post : History posix → Frame →
      Except JavaException (Except Errno { bytes : List UInt8 // bytes.length ≤ room }) → Prop} :
    mwp I h f (fetch room) post ↔
      (∀ bytes, I (h ++ [⟨.read room, .ok bytes⟩]) ∧
        post (h ++ [⟨.read room, .ok bytes⟩]) f (.ok (.ok bytes))) ∧
      ∀ nee, I (h ++ [⟨.read room, .error nee⟩]) ∧
        post (h ++ [⟨.read room, .error nee⟩]) f (.ok (.error nee)) := by
  apply Iff.trans mwp_ask
  constructor
  · exact fun w => ⟨fun bytes => w (.ok bytes), fun nee => w (.error nee)⟩
  · rintro ⟨obtains, refuses⟩ r
    cases r with
    | ok bytes => exact obtains bytes
    | error nee => exact refuses nee

/-- A write moves the position by what was accepted and leaves it on an error. -/
@[simp] theorem mwp_write
    {post : History posix → Frame → Except JavaException (Except Errno ℕ) → Prop} :
    mwp I h f Unistd.write post ↔
      (∀ k : Fin (f.buffer.pending.length + 1),
        I (h ++ [⟨.write f.buffer.pending, .ok k⟩]) ∧
        post (h ++ [⟨.write f.buffer.pending, .ok k⟩]) { f with buffer := f.buffer.advance k.val }
          (.ok (.ok k.val))) ∧
      ∀ nee, I (h ++ [⟨.write f.buffer.pending, .error nee⟩]) ∧
        post (h ++ [⟨.write f.buffer.pending, .error nee⟩]) f (.ok (.error nee)) := by
  simp [Unistd.write]

@[simp] theorem mwp_read
    {post : History posix → Frame → Except JavaException (Except Errno ℕ) → Prop} :
    mwp I h f Unistd.read post ↔
      (∀ bytes : { bytes : List UInt8 // bytes.length ≤ f.buffer.remaining },
        I (h ++ [⟨.read f.buffer.remaining, .ok bytes⟩]) ∧
        post (h ++ [⟨.read f.buffer.remaining, .ok bytes⟩])
          { f with buffer := f.buffer.place bytes.val bytes.property }
            (.ok (.ok bytes.val.length))) ∧
      ∀ nee, I (h ++ [⟨.read f.buffer.remaining, .error nee⟩]) ∧
        post (h ++ [⟨.read f.buffer.remaining, .error nee⟩]) f (.ok (.error nee)) := by
  simp [Unistd.read]

theorem mwp_blocking {α : Type} {body : Call α}
    {post : History posix → Frame → Except JavaException α → Prop}
    (opened : I (h ++ [⟨.begin, ()⟩]))
    (w : mwp I (h ++ [⟨.begin, ()⟩]) { f with completed := false } body (fun h' f' x =>
      mwp I h' f' endBlocking (settle post x))) :
    mwp I h f (blocking body) post := by
  simp only [blocking, Method.mwp_bind, Method.mwp_assign, Method.rest_ok]
  apply mwp_tryFinally
  simp only [begin, Method.mwp_bind, mwp_ask, Method.rest_ok]
  exact fun _ => ⟨opened, w⟩

end Rules

section Quiet
variable {α β : Type}

/-- The request is no transfer. -/
def still : Request → Bool
  | .write _ | .read _ => false
  | _ => true

/-- Nothing has been transferred, and the buffer is as it was. -/
structure Idle (h : History posix) (f : Frame) (h' : History posix) (f' : Frame) : Prop where
  events : ∃ t, h' = h ++ t ∧ ∀ ev ∈ t, still ev.1 = true
  buffer : f'.buffer = f.buffer

theorem sent_still {t : History posix} (quiet : ∀ ev ∈ t, still ev.1 = true) : sent t = [] := by
  induction t with
  | nil => rfl
  | cons ev t ih =>
      obtain ⟨e, r⟩ := ev
      have first := quiet ⟨e, r⟩ List.mem_cons_self
      rw [sent_cons, ih (fun ev member => quiet ev (List.mem_cons_of_mem _ member)),
        List.append_nil]
      cases e with
      | write bytes => cases first
      | _ => rfl

theorem received_still {t : History posix} (quiet : ∀ ev ∈ t, still ev.1 = true) :
    received t = [] := by
  induction t with
  | nil => rfl
  | cons ev t ih =>
      obtain ⟨e, r⟩ := ev
      have first := quiet ⟨e, r⟩ List.mem_cons_self
      rw [received_cons, ih (fun ev member => quiet ev (List.mem_cons_of_mem _ member)),
        List.append_nil]
      cases e with
      | read room => cases first
      | _ => rfl

theorem Idle.sent {h h' : History posix} {f f' : Frame} (idle : Idle h f h' f') :
    sent h' = sent h := by
  obtain ⟨t, rfl, quiet⟩ := idle.events
  rw [sent_append, sent_still quiet, List.append_nil]

theorem Idle.received {h h' : History posix} {f f' : Frame} (idle : Idle h f h' f') :
    received h' = received h := by
  obtain ⟨t, rfl, quiet⟩ := idle.events
  rw [received_append, received_still quiet, List.append_nil]

/-- An invariant that only looks at the bytes transferred. -/
def OfTransfers (I : History posix → Prop) : Prop :=
  ∀ h h', sent h' = sent h → received h' = received h → I h → I h'

theorem always_transfers : OfTransfers (fun _ => True) := fun _ _ _ _ _ => trivial

/-- The method transfers nothing and ends as `R` says. -/
def Quiet (m : Call α) (R : Except JavaException α → Prop) : Prop :=
  ∀ I, OfTransfers I → ∀ h f, I h → mwp I h f m (fun h' f' x => Idle h f h' f' ∧ R x)

def Returning (x : Except JavaException α) : Prop := ∃ a, x = .ok a

def Throwing (x : Except JavaException α) : Prop := ∃ e, x = .error e

theorem Idle.refl (h : History posix) (f : Frame) : Idle h f h f :=
  ⟨⟨[], (List.append_nil h).symm, by simp⟩, rfl⟩

theorem Idle.trans {h h' h'' : History posix} {f f' f'' : Frame} (first : Idle h f h' f')
    (next : Idle h' f' h'' f'') : Idle h f h'' f'' := by
  obtain ⟨t, rfl, quiet⟩ := first.events
  obtain ⟨t', rfl, quiet'⟩ := next.events
  refine ⟨⟨t ++ t', List.append_assoc h t t', ?_⟩, next.buffer.trans first.buffer⟩
  intro ev member
  rcases List.mem_append.mp member with old | new
  · exact quiet ev old
  · exact quiet' ev new

namespace Quiet
variable {R : Except JavaException α → Prop}

theorem pure {a : α} (r : R (.ok a)) : Quiet (Pure.pure a) R :=
  fun _ _ h f _ => Method.mwp_pure.mpr ⟨.refl h f, r⟩

theorem raise {e : JavaException} (r : R (.error e)) : Quiet (Method.raise e) R :=
  fun _ _ h f _ => Method.mwp_raise.mpr ⟨.refl h f, r⟩

theorem complete : Quiet complete Returning :=
  fun _ _ h _ _ => mwp_complete.mpr ⟨⟨⟨[], (List.append_nil h).symm, by simp⟩, rfl⟩, (), rfl⟩

theorem ask {e : Request} {out : Answer e → α} (idle : still e = true) :
    Quiet (Jnhw.ask e out) Returning := by
  intro I stable h f now
  refine mwp_ask.mpr (fun r => ?_)
  have here : Idle h f (h ++ [⟨e, r⟩]) f := ⟨⟨[⟨e, r⟩], rfl, by simpa using idle⟩, rfl⟩
  exact ⟨stable h _ here.sent here.received now, here, _, rfl⟩

theorem weaken {m : Call α} {R' : Except JavaException α → Prop} (q : Quiet m R)
    (weaker : ∀ x, R x → R' x) : Quiet m R' :=
  fun I stable h f now =>
    mwp_mono (q I stable h f now) (fun _ _ x done => ⟨done.1, weaker x done.2⟩)

theorem bind {m : Call β} {next : β → Call α} (first : Quiet m Returning)
    (rest : ∀ b, Quiet (next b) R) : Quiet (m >>= next) R := by
  intro I stable h f now
  rw [Method.mwp_bind]
  apply mwp_mono (first I stable h f now)
  rintro h' f' x ⟨idle, b, rfl⟩
  apply Method.rest_ok.mpr
  apply mwp_mono (rest b I stable h' f' (stable h h' idle.sent idle.received now))
  exact fun h'' f'' x done => ⟨idle.trans done.1, done.2⟩

theorem ite {c : Prop} [Decidable c] {m m' : Call α} (yes : c → Quiet m R) (no : ¬c → Quiet m' R) :
    Quiet (if c then m else m') R := by
  split
  · next holds => exact yes holds
  · next fails => exact no fails

end Quiet

theorem fdIsInvalid_quiet : Quiet fdIsInvalid Returning := .ask rfl

theorem isFdValid_quiet : Quiet isFdValid Returning := .ask rfl

theorem clock_gettime_quiet : Quiet clock_gettime Returning := .ask rfl

theorem poll_quiet (d : Direction) (timeout : ℤ) : Quiet (poll d timeout) Returning :=
  .ask rfl

theorem closedOrCancelled_quiet : Quiet (closedOrCancelled : Call α) Throwing :=
  .bind fdIsInvalid_quiet (fun _ => .ite (fun _ => .raise ⟨_, rfl⟩) (fun _ => .raise ⟨_, rfl⟩))

theorem formatMsg_quiet (s : Socket) (nee : Errno) (m : String) :
    Quiet (formatMsg s nee m) Returning := by
  refine .bind fdIsInvalid_quiet (fun _ => .ite (fun _ => .pure ⟨_, rfl⟩) (fun _ => ?_))
  exact .bind isFdValid_quiet (fun _ => .ite (fun _ => .pure ⟨_, rfl⟩) (fun _ => .pure ⟨_, rfl⟩))

theorem deadline_quiet (timeout : ℤ) : Quiet (deadline timeout) (fun _ => True) := by
  refine .ite (fun _ => .pure trivial) (fun _ => .bind clock_gettime_quiet (fun now => ?_))
  cases now with
  | ok now => exact .pure trivial
  | error nee => exact .raise trivial

/-- `end` changes the outcome of a call only by throwing. -/
theorem endBlocking_quiet : Quiet endBlocking (fun _ => True) := by
  intro I stable h f now
  simp only [endBlocking, Method.mwp_bind, Method.mwp_locals, Method.rest_ok]
  have rest : Quiet (do
      let interrupted ← isInterrupted
      if interrupted = true then Method.raise .closedByInterruptException
      else if f.completed = true then Pure.pure ()
      else do
        let closed ← isClosed
        if closed = true then
          Method.raise .asynchronousCloseException else Pure.pure () : Call Unit)
      (fun _ => True) := by
    refine .bind (.ask rfl) (fun _ => .ite (fun _ => .raise trivial) (fun _ => ?_))
    refine .ite (fun _ => .pure trivial) (fun _ => .bind (.ask rfl) (fun _ => ?_))
    exact .ite (fun _ => .raise trivial) (fun _ => .pure trivial)
  simpa only [Method.mwp_bind] using rest I stable h f now

end Quiet
end Spsw.Jnhw

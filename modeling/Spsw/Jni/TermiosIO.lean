import Spsw.Jnhw.Termios
import Spsw.Jni.Write

/-!
# The native reads and writes, with their descriptors

`TermiosIO.c` and `close0` as they use the fields of the socket. A field is read by a
request of its own, and each system call names the descriptor it is made on, so the two
can be apart by what another thread does in between. A C function that throws goes on
until it returns; what it has thrown is in its environment.
-/
namespace Spsw.Jni.TermiosIO
open Interaction
open Interaction.Method (assign raise locals iterate mwp)
open Jnhw (Direction Errno PollResult Timespec POLLIN POLLOUT POLLHUP POLLNVAL
  INVALID_FD remainingTimeOut)

inductive Request where
  | getFd
  | getCloseEventReadFd
  | getCloseEventWriteFd
  | setFd (value : ℤ)
  | setCloseEventReadFd (value : ℤ)
  | setCloseEventWriteFd (value : ℤ)
  | read (fd : ℤ) (room : ℕ)
  | write (fd : ℤ) (bytes : List UInt8)
  | poll (direction : Direction) (port close timeout : ℤ)
  | sleep (direction : Direction) (port close timeout : ℤ)
  | clockGettime
  | writeEvent (fd : ℤ)
  | tcflush (fd : ℤ)
  | close (fd : ℤ)
  deriving DecidableEq, Repr

/-- A `poll` that finds nothing to report has no answer yet, and sleeps. -/
@[reducible] def Answer : Request → Type
  | .getFd | .getCloseEventReadFd | .getCloseEventWriteFd => ℤ
  | .setFd _ | .setCloseEventReadFd _ | .setCloseEventWriteFd _ => Unit
  | .read _ room => Except Errno { bytes : List UInt8 // bytes.length ≤ room }
  | .write _ bytes => Except Errno (Fin (bytes.length + 1))
  | .poll _ _ _ _ => Option (Except Errno PollResult)
  | .sleep _ _ _ _ => Except Errno PollResult
  | .clockGettime => Except Errno Timespec
  | .writeEvent _ | .tcflush _ | .close _ => Except Errno Unit

@[reducible] def termios : Signature := ⟨Request, Answer⟩

instance : DecidableEq termios.Request := inferInstanceAs (DecidableEq Request)

/-- The timeouts a call consults, and the rest of what it finds. -/
structure Settings extends NativeSocket where
  pollReadTimeout : ℤ
  interByteReadTimeout : ℤ

/-- A socket without timeouts, but for the one between two bytes. -/
def Settings.new : Settings :=
  { NativeSocket.new with pollReadTimeout := -1, interByteReadTimeout := 100 }

/-- What the C function has thrown, `errno`, and the memory it reads into. -/
structure Env where
  raised : List JavaException
  errno : Errno
  buff : List UInt8

/-- Its early `return` is what ends a C function. -/
abbrev Code (S : Signature) (α : Type) := Method S Env ℤ α

/-- What it means for the code to ask, and to throw. -/
class Meaning (S : Signature) where
  ask {α : Type} (e : Request) (out : Answer e → α) : Code S α
  throwing (e : JavaException) : Code S Unit

export Meaning (ask throwing)

/-- Unless a history is to say more, what is thrown goes into the environment only. -/
@[default_instance] instance : Meaning termios where
  ask e out := (Method.request e out : Method termios Env ℤ _)
  throwing e := assign (fun env => { env with raised := env.raised ++ [e] })

abbrev Native (α : Type) := Code termios α

section Code
variable {S : Signature} [Meaning S]

def leave {α : Type} (result : ℤ) : Code S α := raise result

def setErrno (errno : Errno) : Code S Unit := assign (fun env => { env with errno := errno })

section Calls
variable (s : Settings)

def throw_InterruptedIOExceptionWithError (bytesTransferred : ℤ) (msg : String) : Code S Unit := do
  let env ← locals
  throwing (.interruptedIOException
    (msg ++ ": Unknown port error " ++ s.errnoText env.errno) bytesTransferred)

def getFd : Code S ℤ := ask .getFd (fun r => r)

def getCloseEventReadFd : Code S ℤ := ask .getCloseEventReadFd (fun r => r)

/-- `read(fd, buff + offset, room)` -/
def read (fd : ℤ) (offset room : ℕ) : Code S (Except Errno ℕ) := do
  let result ← ask (.read fd room) (fun r => r)
  match result with
  | .ok bytes => do
      assign (fun env => { env with
        buff := env.buff.take offset ++ bytes.val ++ env.buff.drop (offset + bytes.val.length) })
      pure (.ok bytes.val.length)
  | .error errno => do
      setErrno errno
      pure (.error errno)

def write (fd : ℤ) (bytes : List UInt8) : Code S (Except Errno ℕ) := do
  let result ← ask (.write fd bytes) (fun r => r)
  match result with
  | .ok k => pure (.ok k.val)
  | .error errno => do
      setErrno errno
      pure (.error errno)

/-- What a `poll` reports at once, or when it wakes up. -/
def slept (direction : Direction) (port close timeout : ℤ) :
    Option (Except Errno PollResult) → Code S (Except Errno PollResult)
  | some result => pure result
  | none => ask (.sleep direction port close timeout) (fun r => r)

def noted : Except Errno PollResult → Code S (Except Errno PollResult)
  | .ok result => pure (.ok result)
  | .error errno => do
      setErrno errno
      pure (.error errno)

/-- `poll(fds, 2, timeout)` on the port and on the event that tells of closing. -/
def poll (direction : Direction) (port close timeout : ℤ) : Code S (Except Errno PollResult) := do
  let ready ← ask (.poll direction port close timeout) (fun r => r)
  let result ← slept direction port close timeout ready
  noted result

/-- `clock_gettime(CLOCK_MONOTONIC, &t)`, its result not looked at. -/
def clock_gettime (t : Timespec) : Code S Timespec := do
  let result ← ask .clockGettime (fun r => r)
  match result with
  | .ok now => pure now
  | .error errno => do
      setErrno errno
      pure t

/-- `endTime` is set only for a positive timeout. -/
def endTime (pollTimeout : ℤ) : Code S Timespec :=
  if 0 < pollTimeout then do
    let now ← clock_gettime s.endTime
    pure (now.plusMillis pollTimeout)
  else pure s.endTime

end Calls

section ReadBuffer
variable (s : Settings) (port close : ℤ) (len : ℕ)

/-- A failed `read`: the field tells whether the port was closed meanwhile. -/
def readFailed (msg : String) : Code S Unit := do
  let fd ← getFd
  if fd = INVALID_FD then throwing .asynchronousCloseException
  else throw_InterruptedIOExceptionWithError s 0 msg

/-- The first `read`; nothing available counts as zero bytes. -/
def firstRead : Code S ℕ := do
  let nread ← read port 0 len
  match nread with
  | .error errno => do
      let fd ← getFd
      if fd = INVALID_FD then do
        throwing .asynchronousCloseException
        leave (-1)
      else if errno = .EAGAIN then pure 0
      else do
        throw_InterruptedIOExceptionWithError s 0
          "readBytes: read error during first invocation of read()"
        leave (-1)
  | .ok nread => if nread = len then leave nread else pure nread

/-- Goes on when the port has something to read. -/
def checkReadable (portEvents closeEvents : BitVec 16) : Code S Unit :=
  if closeEvents = POLLIN then do
    throwing .asynchronousCloseException
    leave (-1)
  else if portEvents = POLLIN then pure ()
  else if portEvents &&& POLLHUP = POLLHUP then do
    throwing (.ioException PORT_FD_INVALID)
    leave (-1)
  else if portEvents &&& POLLNVAL = POLLNVAL then do
    throwing .asynchronousCloseException
    leave (-1)
  else do
    throw_InterruptedIOExceptionWithError s 0 "readBytes poll: received poll event"
    leave (-1)

/-- The wait for a first byte, when the first `read` has found none. -/
def awaitFirst : Code S ℕ := do
  let poll_result ← poll .read port close s.pollReadTimeout
  match poll_result with
  | .ok .timeout => do
      throwing (.timeoutIOException 0 (some "readBuffer poll timeout"))
      leave (-1)
  | .error _ => do
      throw_InterruptedIOExceptionWithError s 0 "readBytes poll: Error during poll"
      leave (-1)
  | .ok (.ready portEvents closeEvents) => do
      checkReadable s portEvents closeEvents
      let nread ← read port 0 len
      match nread with
      | .error _ => do
          readFailed s "readBytes read error: Should never happen"
          leave (-1)
      | .ok nread => if nread = len then leave nread else pure nread

/-- The timeout of a further wait, or the end of the call when its time is over. -/
def remaining (endTime : Timespec) (overallRead : ℕ) : Code S ℤ :=
  if s.pollReadTimeout = -1 then pure s.interByteReadTimeout
  else do
    let currentTime ← clock_gettime s.currentTime
    if remainingTimeOut endTime currentTime < 0 then leave overallRead
    else if s.interByteReadTimeout < remainingTimeOut endTime currentTime then pure s.interByteReadTimeout
    else pure (remainingTimeOut endTime currentTime)

/-- A further `poll` that ends without an event ends the call. -/
def checkNext (overallRead : ℕ) : Except Errno PollResult → Code S Unit
  | .ok .timeout => leave overallRead
  | .error _ => do
      throw_InterruptedIOExceptionWithError s 0 "readBytes poll: Error during poll"
      leave (-1)
  | .ok (.ready portEvents closeEvents) => checkReadable s portEvents closeEvents

/-- `overallRead` after a further `read`. -/
def countRead (overallRead : ℕ) : Except Errno ℕ → Code S ℕ
  | .ok (nread + 1) => pure (overallRead + (nread + 1))
  | .ok 0 => do
      let fd ← getFd
      if fd = INVALID_FD then do
        throwing .asynchronousCloseException
        leave (-1)
      else do
        -- There is no `return` here: the loop goes on.
        throw_InterruptedIOExceptionWithError s 0
          "readBytes: nothing to read after successful polling: Should never happen"
        pure overallRead
  | .error _ => do
      readFailed s "readBytes read error: Should never happen"
      leave (-1)

/-- One pass of the do-while loop over `overallRead`. -/
def readRound (endTime : Timespec) (overallRead : ℕ) : Code S (ℕ ⊕ ℤ) := do
  let timeout ← remaining s endTime overallRead
  let poll_result ← poll .read port close timeout
  checkNext s overallRead poll_result
  let nread ← read port overallRead (len - overallRead)
  let overallRead ← countRead s overallRead nread
  if overallRead < len then pure (.inl overallRead) else pure (.inr overallRead)

end ReadBuffer

def readBuffer (s : Settings) (len : ℕ) : Code S ℤ := do
  let port ← getFd
  let close ← getCloseEventReadFd
  let nread ← firstRead s port len
  let endTime ← endTime s s.pollReadTimeout
  let nread ← (if nread = 0 then awaitFirst s port close len else pure nread)
  iterate (readRound s port close len endTime) nread

section WriteBuffer
variable (s : Settings) (fd close : ℤ) (buff : List UInt8)

/-- A failed `write`: here the copy of the field is looked at that the call took first. -/
def writeFailed (msg : String) : Code S Unit :=
  if fd = INVALID_FD then throwing .asynchronousCloseException
  else throw_InterruptedIOExceptionWithError s 0 msg

/-- The first `write`; a full buffer of the system counts as zero bytes. -/
def firstWrite : Code S ℕ := do
  let written ← write fd buff
  match written with
  | .ok written => if written = buff.length then leave written else pure written
  | .error errno =>
      if errno = .EAGAIN then pure 0
      else do
        writeFailed s fd "unknown port error 1 writeBytes"
        leave (-1)

/-- The timeout of a wait; `endTime` is used for the timeout 0 as well. -/
def remainingWrite (endTime : Timespec) (written : ℕ) : Code S ℤ :=
  if 0 ≤ s.pollWriteTimeout then do
    let currentTime ← clock_gettime s.currentTime
    if remainingTimeOut endTime currentTime < 0 then do
      throwing (.timeoutIOException written (some "writeBuffer overallWriteTimeout"))
      leave written
    else pure (remainingTimeOut endTime currentTime)
  else pure (-1)

/-- Goes on when the port takes more. -/
def checkWritable (written offset : ℕ) : Except Errno PollResult → Code S Unit
  | .ok .timeout => do
      throwing (.timeoutIOException offset (some "writeBuffer poll timeout"))
      leave written
  | .error _ => do
      throw_InterruptedIOExceptionWithError s offset "poll timeout with error writeBytes"
      leave written
  | .ok (.ready portEvents closeEvents) =>
      if closeEvents = POLLIN then do
        throwing .asynchronousCloseException
        leave written
      else if portEvents = POLLOUT then pure ()
      else if portEvents &&& POLLHUP = POLLHUP then do
        throwing (.ioException PORT_FD_INVALID)
        leave (-1)
      else if portEvents &&& POLLNVAL = POLLNVAL then do
        throwing .asynchronousCloseException
        leave (-1)
      else do
        throw_InterruptedIOExceptionWithError s offset "poll returned with poll event writeBytes"
        leave written

/-- One pass of the do-while loop over `written` and `offset`. -/
def writeRound (endTime : Timespec) (x : ℕ × ℕ) : Code S ((ℕ × ℕ) ⊕ ℤ) := do
  let remainingTimeOut ← remainingWrite s endTime x.1
  let poll_result ← poll .write fd close remainingTimeOut
  checkWritable s x.1 x.2 poll_result
  let written ← write fd (buff.drop x.2)
  match written with
  | .error _ => do
      writeFailed s fd "unknown port error 2 writeBytes"
      leave (-1)
  | .ok written =>
      if x.2 + written < buff.length then
        pure (.inl (written, x.2 + written)) else pure (.inr written)

end WriteBuffer

def writeBuffer (s : Settings) (buff : List UInt8) : Code S ℤ := do
  let fd ← getFd
  let written ← firstWrite s fd buff
  let endTime ← endTime s s.pollWriteTimeout
  let close ← getCloseEventReadFd
  iterate (writeRound s fd close buff endTime) (written, written)

end Code

/-- `close0` -/
def close0 (s : Settings) : Native Unit := do
  let fd ← getFd
  ask (.setFd INVALID_FD) (fun r => r)
  let close_event_write_fd ← ask .getCloseEventWriteFd (fun r => r)
  let _ ← ask (.writeEvent close_event_write_fd) (fun r => r)
  let _ ← ask (.tcflush fd) (fun r => r)
  ask (.setCloseEventWriteFd INVALID_FD) (fun r => r)
  ask (.setCloseEventReadFd INVALID_FD) (fun r => r)
  let result ← ask (.close fd) (fun r => r)
  match result with
  | .ok () => pure ()
  | .error errno =>
      throwing (.ioException ("close0 closing port: Unknown port error " ++ s.errnoText errno))

section Rules
variable {I : History termios → Prop} {h : History termios} {env : Env}

@[simp] theorem mwp_ask {α : Type} {e : Request} {out : Answer e → α}
    {post : History termios → Env → Except ℤ α → Prop} :
    mwp I h env (ask e out : Native α) post ↔
      ∀ r : Answer e, I (h ++ [⟨e, r⟩]) ∧ post (h ++ [⟨e, r⟩]) env (.ok (out r)) :=
  Method.mwp_request

@[simp] theorem mwp_leave {α : Type} {result : ℤ}
    {post : History termios → Env → Except ℤ α → Prop} :
    mwp I h env (leave result : Native α) post ↔ post h env (.error result) :=
  Method.mwp_raise

@[simp] theorem mwp_throwing {e : JavaException}
    {post : History termios → Env → Except ℤ Unit → Prop} :
    mwp I h env (throwing e) post ↔ post h { env with raised := env.raised ++ [e] } (.ok ()) :=
  Method.mwp_assign

@[simp] theorem mwp_setErrno {errno : Errno} {post : History termios → Env → Except ℤ Unit → Prop} :
    mwp I h env (setErrno errno) post ↔ post h { env with errno := errno } (.ok ()) :=
  Method.mwp_assign

@[simp] theorem mwp_throw_InterruptedIOExceptionWithError {s : Settings} {bytesTransferred : ℤ}
    {msg : String} {post : History termios → Env → Except ℤ Unit → Prop} :
    mwp I h env (throw_InterruptedIOExceptionWithError s bytesTransferred msg) post ↔
      post h { env with raised := env.raised ++ [.interruptedIOException
        (msg ++ ": Unknown port error " ++ s.errnoText env.errno) bytesTransferred] } (.ok ()) := by
  simp [throw_InterruptedIOExceptionWithError]

@[simp] theorem mwp_write {fd : ℤ} {bytes : List UInt8}
    {post : History termios → Env → Except ℤ (Except Errno ℕ) → Prop} :
    mwp I h env (write fd bytes) post ↔
      (∀ k : Fin (bytes.length + 1), I (h ++ [⟨.write fd bytes, .ok k⟩]) ∧
        post (h ++ [⟨.write fd bytes, .ok k⟩]) env (.ok (.ok k.val))) ∧
      ∀ errno, I (h ++ [⟨.write fd bytes, .error errno⟩]) ∧
        post (h ++ [⟨.write fd bytes, .error errno⟩]) { env with errno := errno }
          (.ok (.error errno)) := by
  simp only [write, Method.mwp_bind, mwp_ask, Method.rest_ok]
  constructor
  · intro w
    exact ⟨fun k => by simpa using w (.ok k), fun errno => by simpa using w (.error errno)⟩
  · rintro ⟨accepts, refuses⟩ r
    cases r with
    | ok k => simpa using accepts k
    | error errno => simpa using refuses errno

end Rules
end Spsw.Jni.TermiosIO

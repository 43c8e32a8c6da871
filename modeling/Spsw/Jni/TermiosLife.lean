import Spsw.Interaction.Embedding
import Spsw.Jni.TermiosCommon
import Spsw.Jni.TermiosIO

/-!
# The life of a native POSIX socket

`open0` and `closeFds` of `TermiosCommon.c`, with what the Java around them does with the
descriptors. What `close0` asks for is part of the larger signature, and is asked in the
same way.
-/
namespace Spsw.Jni.TermiosLife
open Interaction
open Interaction.Method (assign locals)
open Jnhw
open JavaException (ioException)
open TermiosIO (Env close0)

/-- The descriptors of a socket. -/
inductive Part where
  | port
  | eventRead
  | eventWrite
  deriving DecidableEq, Repr

inductive Request where
  | io (e : TermiosIO.Request)
  | getCleaner (part : Part)
  | setCleaner (part : Part) (fd : ℤ)
  | «open» (portName : String)
  | tcgetattr (fd : ℤ)
  | TIOCEXCL (fd : ℤ)
  | tcsetattr (fd : ℤ) (settings : StructTermios)
  | eventfd
  | pipe
  | register
  | usleep (microseconds : ℕ)

@[reducible] def Answer : Request → Type
  | .io e => TermiosIO.Answer e
  | .getCleaner _ => ℤ
  | .«open» _ | .eventfd => Except Errno ℤ
  | .tcgetattr _ => Except Errno StructTermios
  | .TIOCEXCL _ | .tcsetattr _ _ => Except Errno Unit
  | .pipe => Except Errno (ℤ × ℤ)
  | .setCleaner _ _ | .register | .usleep _ => Unit

@[reducible] def life : Signature := ⟨Request, Answer⟩

/-- Reads, writes and `close0` in the larger signature. -/
@[reducible] def io : Embedding TermiosIO.termios life := ⟨.io, fun _ r => r⟩

abbrev Native (α : Type) := Method life Env ℤ α

def ask (e : Request) : Native (Answer e) :=
  (Method.request e (fun r => r) : Method life Env ℤ (Answer e))

def throwing (e : JavaException) : Native Unit :=
  assign (fun env => { env with raised := env.raised ++ [e] })

/-- `errno` is set by a call that fails. -/
def noted {α : Type} : Except Errno α → Native (Except Errno α)
  | .ok a => pure (.ok a)
  | .error errno => do
      assign (fun env => { env with errno := errno })
      pure (.error errno)

/-- `close`, its result not looked at. -/
def release (fd : ℤ) : Native Unit := do
  let result ← ask (.io (.close fd))
  let _ ← noted result
  pure ()

/-- What the library is built for, and the text of an error. -/
structure Build where
  p : Platform
  raw : RawFlags
  HAVE_SYS_EVENTFD_H : Bool
  errnoText : Errno → String

section Open
variable (b : Build) (portName : String)

/-- The socket as the functions of `TermiosSettings.c` find it. -/
def Build.socket (fd : ℤ) (env : Env) : TermiosSocket := ⟨portName, fd, env.errno, b.errnoText⟩

def throw_IOException_NativeError (msg : String) : Native Unit := do
  let env ← locals
  throwing (ioException (msg ++ ": Unknown port error " ++ b.errnoText env.errno))

/-- The port is closed again, and the constructor gives up. -/
def giveUp (fd : ℤ) : Native Unit := do
  release fd
  ask (.io (.setFd INVALID_FD))

/-- What `open` fails with. -/
def openException (errno : Errno) : JavaException :=
  if errno = .other "EBUSY" then ioException ("Port is busy: \"" ++ portName ++ "\"")
  else if errno = .other "ENOENT" then ioException ("Port not found: \"" ++ portName ++ "\"")
  else if errno = .other "EACCES" then ioException ("Permission denied: \"" ++ portName ++ "\"")
  else if errno = .other "EIO" then ioException ("Not a serial port: \"" ++ portName ++ "\"")
  else ioException ("open: Unknown port error " ++ b.errnoText errno)

/-- `setParams` on a structure already read. Nobody else knows of the socket yet, so its
field is read once. -/
def setParams (settings : StructTermios) (paramBitSet : BitVec 32) :
    Native (Except JavaException Unit) := do
  let fd ← ask (.io .getFd)
  let env ← locals
  match alter b.p (b.socket portName fd env) settings paramBitSet with
  | .error e => pure (.error e)
  | .ok settings => do
      let stored ← ask (.tcsetattr fd settings)
      let stored ← noted stored
      match stored with
      | .error errno =>
          pure (.error (tcsetattrException (b.socket portName fd env) "setParams" errno))
      | .ok () => do
          let read ← ask (.tcgetattr fd)
          let read ← noted read
          match read with
          | .error errno =>
              pure (.error ((b.socket portName fd env).closedOrNative errno "setParams tcsetattr"))
          | .ok settings => pure (verify b.p (b.socket portName fd env) settings paramBitSet)

/-- The descriptors of the event that tells of closing. If there is none the field of the
socket is left as it is. -/
def openEvent (fd : ℤ) : Native Unit :=
  if b.HAVE_SYS_EVENTFD_H then do
    let created ← ask .eventfd
    let created ← noted created
    match created with
    | .error _ => do
        release fd
        throw_IOException_NativeError b "Can't create close_event_fd"
    | .ok close_event_fd => do
        ask (.io (.setCloseEventReadFd close_event_fd))
        ask (.io (.setCloseEventWriteFd close_event_fd))
  else do
    let created ← ask .pipe
    let created ← noted created
    match created with
    | .error _ => do
        release fd
        throw_IOException_NativeError b "Can't create close_pipe_fd"
    | .ok pipedes => do
        ask (.io (.setCloseEventReadFd pipedes.1))
        ask (.io (.setCloseEventWriteFd pipedes.2))

def flush (fd : ℤ) : Native Unit := do
  let flushed ← ask (.io (.tcflush fd))
  let flushed ← noted flushed
  match flushed with
  | .error _ => do
      giveUp fd
      throw_IOException_NativeError b "Can't flush device"
  | .ok () => openEvent b fd

/-- `open0`, once the device is the socket's alone. -/
def configure (fd : ℤ) (settings : StructTermios) (paramBitSet : BitVec 32) : Native Unit :=
  if paramBitSet ≠ NO_PARAMS_TO_SET then do
    let result ← setParams b portName (rawMode b.p b.raw settings) paramBitSet
    match result with
    | .error e => do
        throwing e
        giveUp fd
    | .ok () => flush b fd
  else do
    let stored ← ask (.tcsetattr fd (rawMode b.p b.raw settings))
    let stored ← noted stored
    match stored with
    | .error _ => do
        giveUp fd
        throw_IOException_NativeError b "Can't call tcsetattr TCSANOW"
    | .ok () => flush b fd

/-- `open0`, once the port has its descriptor. The error that is told is the last one, were
it that of `close`. -/
def occupy (fd : ℤ) (paramBitSet : BitVec 32) : Native Unit := do
  let found ← ask (.tcgetattr fd)
  let found ← noted found
  match found with
  | .error _ => do
      giveUp fd
      let env ← locals
      if env.errno = ENOTTY then
        throwing (ioException ("Not a serial port: \"" ++ portName ++ "\""))
      else throw_IOException_NativeError b "open tcgetattr"
  | .ok settings => do
      let exclusive ← ask (.TIOCEXCL fd)
      let exclusive ← noted exclusive
      match exclusive with
      | .error _ => do
          giveUp fd
          throw_IOException_NativeError b "Can't set exclusive access"
      | .ok () => configure b portName fd settings paramBitSet

def open0 (paramBitSet : BitVec 32) : Native Unit := do
  let fd ← ask (.io .getFd)
  if fd ≠ INVALID_FD then throwing (ioException PORT_IS_OPEN)
  else do
    let opened ← ask (.«open» portName)
    let opened ← noted opened
    match opened with
    | .error errno => do
        ask (.io (.setFd INVALID_FD))
        throwing (openException b portName errno)
    | .ok fd => do
        ask (.io (.setFd fd))
        occupy b portName fd paramBitSet

/-- What follows a native method in Java, unless that has thrown. -/
def whenReturned (next : Native Unit) : Native Unit := do
  let env ← locals
  if env.raised = [] then next else pure ()

/-- The cleaner gets the descriptors once it is registered. -/
def register : Native Unit := do
  ask .register
  let fd ← ask (.io .getFd)
  ask (.setCleaner .port fd)
  let closeEventReadFd ← ask (.io .getCloseEventReadFd)
  ask (.setCleaner .eventRead closeEventReadFd)
  let closeEventWriteFd ← ask (.io .getCloseEventWriteFd)
  ask (.setCleaner .eventWrite closeEventWriteFd)

def «open» (paramBitSet : BitVec 32) : Native Unit := do
  open0 b portName paramBitSet
  whenReturned register

end Open

section Close

/-- `implCloseChannel`: the descriptors of the event are left to the cleaner. -/
def implCloseChannel (s : TermiosIO.Settings) : Native Unit := do
  Method.embed io (close0 s)
  whenReturned (ask (.setCleaner .port INVALID_FD))

def releaseValid (fd : ℤ) : Native Unit := if fd ≠ INVALID_FD then release fd else pure ()

/-- Those who wait for the event get the time to see it. -/
def signal (close_event_write_fd : ℤ) : Native Unit :=
  if close_event_write_fd ≠ INVALID_FD then do
    let _ ← ask (.io (.writeEvent close_event_write_fd))
    ask (.usleep 1000)
  else pure ()

/-- `FdCleaner.closeFds` -/
def closeFds (fd close_event_read_fd close_event_write_fd : ℤ) : Native Unit := do
  signal close_event_write_fd
  releaseValid fd
  releaseValid close_event_write_fd
  if close_event_read_fd ≠ INVALID_FD ∧ close_event_read_fd ≠ close_event_write_fd then
    release close_event_read_fd
  else pure ()

/-- `FdCleaner.run`. Java names the descriptors of the event the other way round. -/
def runCleaner : Native Unit := do
  let fd ← ask (.getCleaner .port)
  let close_event_write_fd ← ask (.getCleaner .eventWrite)
  let close_event_read_fd ← ask (.getCleaner .eventRead)
  closeFds fd close_event_write_fd close_event_read_fd

end Close
end Spsw.Jni.TermiosLife

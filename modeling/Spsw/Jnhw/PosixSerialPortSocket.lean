import Spsw.Interaction.Answered
import Spsw.Jnhw.RawMode

/-!
# The descriptors of a `PosixSerialPortSocket`

The constructor obtains the descriptor of the port and those of two cancel events and
copies them into the fields of the socket, its configuration, its cleaner and its poll
sets; `implCloseChannel` and the cleaner give them back. A field is read and written by a
request, and each system call names its descriptor.
-/
namespace Spsw.Jnhw.PosixSerialPortSocket
open Interaction
open Interaction.Method (raise)

/-- `cancelEventFd event side` is `cancel_<event>_event__<side>_fd`, and `cleanerEventFd` the
field of that name in the cleaner. -/
inductive Field where
  | fd
  | configurationFd
  | cancelEventFd (event side : Direction)
  | cleanerFd
  | cleanerEventFd (event side : Direction)
  | pollPortFd (direction : Direction)
  | pollCancelFd (direction : Direction)
  deriving DecidableEq, Repr

inductive Ioctl where
  | TIOCEXCL
  | TIOCSBRK
  | TIOCCBRK
  deriving DecidableEq, Repr

inductive Fcntl where
  | F_GETFL
  | F_SETFL
  deriving DecidableEq, Repr

/-- `setParams` stands for all the system calls it makes on the descriptor. -/
inductive Request where
  | get (field : Field)
  | set (field : Field) (value : ℤ)
  | open (portName : String)
  | eventfd
  | pipe
  | tcgetattr (fd : ℤ)
  | setParams (fd : ℤ) (termios : StructTermios) (r : Params)
  | tcflush (fd : ℤ)
  | tcdrain (fd : ℤ)
  | ioctl (fd : ℤ) (request : Ioctl)
  | fcntl (fd : ℤ) (command : Fcntl)
  | write (fd : ℤ)
  | poll (port cancel timeout : ℤ)
  | close (fd : ℤ)
  | sleep (millis : ℤ)
  | usleep (usec : ℤ)
  | begin
  | interrupted
  | channelClosed

@[reducible] def Answer : Request → Type
  | .get _ => ℤ
  | .open _ | .eventfd => Except Errno ℤ
  | .pipe => Except Errno (ℤ × ℤ)
  | .tcgetattr _ => Except Errno StructTermios
  | .setParams _ _ _ => Except JavaException Unit
  | .tcflush _ | .tcdrain _ | .ioctl _ _ | .fcntl _ _ | .write _ | .close _ | .usleep _ =>
      Except Errno Unit
  | .poll _ _ _ => Except Errno PollResult
  | .set _ _ | .begin => Unit
  | .sleep _ | .interrupted | .channelClosed => Bool

@[reducible] def kernel : Signature := ⟨Request, Answer⟩

/-- The local variable is `completed`. -/
abbrev Action (α : Type) := Method kernel Bool JavaException α

/-- What throws a `NativeErrorException`. -/
abbrev Native (α : Type) := Method kernel Bool Errno α

section Calls
variable {ε α : Type}

def ask (e : Request) : Method kernel Bool ε (Answer e) :=
  (Method.request e fun r => r : Method kernel Bool ε (Answer e))

def get (field : Field) : Method kernel Bool ε ℤ := ask (.get field)

def set (field : Field) (value : ℤ) : Method kernel Bool ε Unit := ask (.set field value)

def copy (source target : Field) : Method kernel Bool ε Unit := do
  let value ← get source
  set target value

/-- A call whose error is thrown. -/
def checked (call : Native (Except Errno α)) : Native α := do
  let result ← call
  match result with
  | .ok a => pure a
  | .error nee => raise nee

/-- `try { … } catch (NativeErrorException nee)` -/
def attempt (body : Native α) : Action (Except Errno α) :=
  fun completed => Program.bind (body completed) fun x => .pure (.ok x.1, x.2)

end Calls

namespace PosixConfiguration

/-- What is thrown for an error of `Fcntl.open`. -/
def openException (portName : String) (nee : Errno) : JavaException :=
  if nee = .other "EBUSY" then .ioException ("Port is busy: \"" ++ portName ++ "\"")
  else if nee = .other "ENOENT" then .ioException ("Port not found: \"" ++ portName ++ "\"")
  else if nee = .other "EACCES" then .ioException ("Permission denied: \"" ++ portName ++ "\"")
  else if nee = .other "EIO" then .ioException ("Not a serial port: \"" ++ portName ++ "\"")
  else .ioException ("Native port error \"" ++ nee.getErrnoSymbol ++
    ":\" open \"" ++ portName ++ "\"")

def tcgetattrException (portName : String) (nee : Errno) : JavaException :=
  if nee = ENOTTY then .ioException ("Not a serial port: \"" ++ portName ++ "\"")
  else .ioException ("open tcgetattr " ++ nee.getErrnoSymbol)

/-- `try { Unistd.close(fd); fd = INVALID_FD; } catch (NativeErrorException nee) { }` -/
def release : Action Unit := do
  let fd ← get .configurationFd
  let closed ← ask (.close fd)
  match closed with
  | .ok () => set .configurationFd INVALID_FD
  | .error _ => pure ()

/-- `PosixConfiguration.open`. A failed `tcgetattr` clears the field even where `close` fails. -/
def «open» (p : Platform) (raw : RawFlags) (portName : String) (r : Params) : Action ℤ := do
  let opened ← ask (.open portName)
  match opened with
  | .error nee => raise (openException portName nee)
  | .ok number => do
      set .configurationFd number
      let fd ← get .configurationFd
      let result ← ask (.tcgetattr fd)
      match result with
      | .error nee => do
          let fd ← get .configurationFd
          let _ ← ask (.close fd)
          set .configurationFd INVALID_FD
          raise (tcgetattrException portName nee)
      | .ok termios => do
          let fd ← get .configurationFd
          let exclusive ← ask (.ioctl fd .TIOCEXCL)
          match exclusive with
          | .error nee => do
              release
              raise (.ioException ("Can't set exclusive access errno: " ++ nee.getErrnoSymbol))
          | .ok () => do
              let fd ← get .configurationFd
              let configured ← ask (.setParams fd (p.rawMode raw termios) r)
              match configured with
              | .error t => do
                  release
                  raise t
              | .ok () => do
                  let fd ← get .configurationFd
                  let flushed ← ask (.tcflush fd)
                  match flushed with
                  | .error nee => do
                      release
                      raise (.ioException ("Can't flush device errno: " ++ nee.getErrnoSymbol))
                  | .ok () => get .configurationFd

end PosixConfiguration

/-- One of the two cancel events. -/
def createEvent (HAVE_SYS_EVENTFD_H : Bool) (event : Direction) : Native Unit :=
  if HAVE_SYS_EVENTFD_H = true then do
    let fd ← checked (ask .eventfd)
    set (.cancelEventFd event .read) fd
    copy (.cancelEventFd event .read) (.cancelEventFd event .write)
  else do
    let fds ← checked (ask .pipe)
    set (.cancelEventFd event .read) fds.1
    set (.cancelEventFd event .write) fds.2
    let read_fd ← get (.cancelEventFd event .read)
    checked (ask (.fcntl read_fd .F_SETFL))
    let write_fd ← get (.cancelEventFd event .write)
    checked (ask (.fcntl write_fd .F_SETFL))

def createEvents (HAVE_SYS_EVENTFD_H : Bool) : Native Unit := do
  createEvent HAVE_SYS_EVENTFD_H .read
  createEvent HAVE_SYS_EVENTFD_H .write

/-- The copies of the descriptors in the cleaner and in the poll sets. -/
def register : Action Unit := do
  copy .fd .cleanerFd
  copy (.cancelEventFd .read .read) (.cleanerEventFd .read .read)
  copy (.cancelEventFd .read .write) (.cleanerEventFd .read .write)
  copy (.cancelEventFd .write .read) (.cleanerEventFd .write .read)
  copy (.cancelEventFd .write .write) (.cleanerEventFd .write .write)
  copy .fd (.pollPortFd .write)
  copy (.cancelEventFd .write .read) (.pollCancelFd .write)
  copy .fd (.pollPortFd .read)
  copy (.cancelEventFd .read .read) (.pollCancelFd .read)

/-- `PosixSerialPortSocket.open`, all that the constructor does with descriptors. -/
def «open» (HAVE_SYS_EVENTFD_H : Bool) (p : Platform) (raw : RawFlags)
    (portName : String) (r : Params) :
    Action Unit := do
  let fd ← PosixConfiguration.open p raw portName r
  set .fd fd
  let created ← attempt (createEvents HAVE_SYS_EVENTFD_H)
  match created with
  | .error _ => do
      let fd ← get .fd
      let closed ← ask (.close fd)
      match closed with
      | .ok () => do
          set .fd INVALID_FD
          copy .fd .configurationFd
      | .error _ => pure ()
      raise (.ioException "Can't create close_event_fd")
  | .ok () => register

/-- The cancel events stay open, for `poll` and for the cleaner. -/
def implCloseChannel : Action Unit := do
  let fd ← get .fd
  if fd ≠ INVALID_FD then do
    let tempFd ← get .fd
    set .fd INVALID_FD
    copy .fd .configurationFd
    let event ← get (.cancelEventFd .write .write)
    let _ ← ask (.write event)
    let event ← get (.cancelEventFd .read .write)
    let _ ← ask (.write event)
    let _ ← ask (.tcflush tempFd)
    let closed ← ask (.close tempFd)
    match closed with
    | .ok () => do
        set .cleanerFd INVALID_FD
        set (.cancelEventFd .read .read) INVALID_FD
        set (.cancelEventFd .read .write) INVALID_FD
        set (.cancelEventFd .write .read) INVALID_FD
        set (.cancelEventFd .write .write) INVALID_FD
    | .error _ => pure ()
  else pure ()

namespace FdCleaner

/-- An error of the write skips the pause. -/
def signal (event : Direction) : Action Unit := do
  let fd ← get (.cleanerEventFd event .write)
  if fd ≠ INVALID_FD then do
    let fd ← get (.cleanerEventFd event .write)
    let written ← ask (.write fd)
    match written with
    | .ok () => do
        let _ ← ask (.usleep 1000)
        pure ()
    | .error _ => pure ()
  else pure ()

def closePort : Action Unit := do
  let fd ← get .cleanerFd
  if fd ≠ INVALID_FD then do
    let fd ← get .cleanerFd
    let closed ← ask (.close fd)
    match closed with
    | .ok () => set .cleanerFd INVALID_FD
    | .error _ => pure ()
  else pure ()

/-- The two ends of an event are closed once where they are one descriptor. -/
def closeEvent (event : Direction) : Action Unit := do
  let write_fd ← get (.cleanerEventFd event .write)
  if write_fd ≠ INVALID_FD then do
    let write_fd ← get (.cleanerEventFd event .write)
    let _ ← ask (.close write_fd)
    pure ()
  else pure ()
  let read_fd ← get (.cleanerEventFd event .read)
  let write_fd ← get (.cleanerEventFd event .write)
  if read_fd ≠ INVALID_FD ∧ read_fd ≠ write_fd then do
    let read_fd ← get (.cleanerEventFd event .read)
    let _ ← ask (.close read_fd)
    pure ()
  else pure ()
  set (.cleanerEventFd event .read) INVALID_FD
  set (.cleanerEventFd event .write) INVALID_FD

/-- `FdCleaner.run` -/
def run : Action Unit := do
  signal .read
  signal .write
  closePort
  closeEvent .read
  closeEvent .write

end FdCleaner
end Spsw.Jnhw.PosixSerialPortSocket

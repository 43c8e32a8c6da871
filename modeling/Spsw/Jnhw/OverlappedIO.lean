import Spsw.Api.ByteBuffer
import Spsw.Interaction.Method
import Spsw.Jni.WinApiIO

/-!
# The Windows socket of jnhw and its handles

One event for reads and one for writes live as long as the port. The socket and its cleaner
have a field for each of the three handles, and each `OVERLAPPED` one for its event; a field
is read and written by a request of its own, and each call to the system names its handles.
That two reads, or two writes, do not run at once is left out.
-/
namespace Spsw.Jnhw.OverlappedIO
open Interaction
open Interaction.Method (assign locals raise request)
open Jni.WinApiIO (ERROR_ACCESS_DENIED ERROR_FILE_NOT_FOUND ERROR_IO_PENDING
  ERROR_NOT_FOUND WAIT_OBJECT_0)
open JavaException (asynchronousCloseException interruptedIOException ioException
  runtimeException timeoutIOException)

inductive Part where
  | hFile
  | readEvent
  | writeEvent
  deriving DecidableEq

/-- A field of the socket, the one of the cleaner of the same name, and the `hEvent` of an
`OVERLAPPED`. -/
inductive Field where
  | socket (part : Part)
  | readOverlapped
  | writeOverlapped
  | cleaner (part : Part)
  deriving DecidableEq

inductive Request where
  | get (f : Field)
  | set (f : Field) (handle : ℤ)
  | CreateFileW (name : String)
  | CreateEventW
  | GetCommState (hFile : ℤ)
  | SetCommState (hFile : ℤ) (dcb : DCB)
  | GetCommTimeouts (hFile : ℤ)
  | SetCommTimeouts (hFile : ℤ) (timeouts : COMMTIMEOUTS)
  | ResetEvent (hEvent : ℤ)
  | ReadFile (hFile hEvent : ℤ) (room : ℕ)
  | WriteFile (hFile hEvent : ℤ) (bytes : List UInt8)
  | WaitForSingleObject (hEvent : ℤ)
  | overlappedRead (hFile hEvent : ℤ) (room : ℕ)
  | overlappedWrite (hFile hEvent : ℤ) (len : ℕ)
  | CancelIo (hFile : ℤ)
  | CloseHandle (handle : ℤ)
  | begin
  | «end» (completed : Bool)
  | register
  deriving DecidableEq

/-- `GetOverlappedResult` tells how many bytes have moved, which were at most those that
could; `end` may throw. -/
@[reducible] def Answer : Request → Type
  | .get _ => ℤ
  | .set _ _ | .begin | .register => Unit
  | .CreateFileW _ | .CreateEventW => Except ℕ ℤ
  | .GetCommState _ => Except ℕ DCB
  | .GetCommTimeouts _ => Except ℕ COMMTIMEOUTS
  | .WaitForSingleObject _ => Except ℕ UInt32
  | .overlappedRead _ _ room => Except ℕ { bytes : List UInt8 // bytes.length ≤ room }
  | .overlappedWrite _ _ len => Except ℕ (Fin (len + 1))
  | .end _ => Option JavaException
  | .SetCommState _ _ | .SetCommTimeouts _ _ | .ResetEvent _ | .ReadFile _ _
      _ | .WriteFile _ _ _ | .CancelIo _
  | .CloseHandle _ => Except ℕ Unit

@[reducible] def overlapped : Signature := ⟨Request, Answer⟩

/-- A method of the socket that works on a `τ`: a transfer on its buffer. -/
abbrev Action (τ α : Type) := Method overlapped τ JavaException α

def ask {τ : Type} (e : Request) : Action τ (Answer e) :=
  (request e (fun r => r) : Method overlapped τ JavaException (Answer e))

def hFile : Field := .socket .hFile

def readEvent : Field := .socket .readEvent

def writeEvent : Field := .socket .writeEvent

/-- `hFile.isNot_INVALID_HANDLE_VALUE()` tells an error from a close. -/
def failing {τ α : Type} (e : JavaException) : Action τ α := do
  let handle ← ask (.get hFile)
  if handle ≠ INVALID_HANDLE_VALUE then raise e else raise asynchronousCloseException

/-- The end of the `finally` block. -/
def ended {τ : Type} : Action τ Unit := do
  let thrown ← ask (.end true)
  match thrown with
  | some e => raise e
  | none => pure ()

section Transfers

/-- What has come goes into the buffer. -/
def stored (bytes : List UInt8) : Action ByteBuffer Unit :=
  assign fun dst => (dst.put bytes).getD dst

/-- The wait for the end of a transfer. -/
def waiting {τ : Type} (hEvent : ℤ) (name : String) : Action τ Unit := do
  let waited ← ask (.WaitForSingleObject hEvent)
  match waited with
  | .ok waitResult =>
      if waitResult ≠ WAIT_OBJECT_0 then
        failing (interruptedIOException
          ("Error " ++ name ++ " (WaitForSingleObject): " ++ toString waitResult.toNat) 0)
      else pure ()
  | .error _ => raise (runtimeException ("NativeError " ++ name ++ " (WaitForSingleObject)"))

/-- The part of a read between `begin` and `end`. -/
def awaitRead (room : ℕ) : Action ByteBuffer ℤ := do
  ask .begin
  let event ← ask (.get readEvent)
  waiting event "readBytes"
  let handle ← ask (.get hFile)
  let hEvent ← ask (.get .readOverlapped)
  let result ← ask (.overlappedRead handle hEvent room)
  match result with
  | .error _ => failing (interruptedIOException "Error readBytes (GetOverlappedResult)" 0)
  | .ok bytes => do
      stored bytes.val
      if 0 < bytes.val.length then pure bytes.val.length
      else failing (timeoutIOException 0 (some "read dwBytesRead == 0"))

def read : Action ByteBuffer ℤ := do
  let dst ← locals
  if dst.hasRemaining = false then pure 0
  else do
    let event ← ask (.get readEvent)
    let reset ← ask (.ResetEvent event)
    match reset with
    | .error errno => raise (ioException ("Error read => ResetEvent: " ++ toString errno))
    | .ok () => do
        let handle ← ask (.get hFile)
        let hEvent ← ask (.get .readOverlapped)
        let started ← ask (.ReadFile handle hEvent dst.remaining)
        match started with
        | .error errno =>
            if errno ≠ ERROR_IO_PENDING then
              failing (interruptedIOException
                ("Error readBytes(GetLastError):" ++ toString errno) 0)
            else Method.tryFinally (awaitRead dst.remaining) ended
        | .ok () => Method.tryFinally (awaitRead dst.remaining) ended

/-- The part of a write between `begin` and `end`. A write that moves too few bytes is not
told from a timeout. -/
def awaitWrite (len : ℕ) : Action ByteBuffer ℤ := do
  ask .begin
  let event ← ask (.get writeEvent)
  waiting event "writeBytes"
  let handle ← ask (.get hFile)
  let hEvent ← ask (.get .writeOverlapped)
  let result ← ask (.overlappedWrite handle hEvent len)
  match result with
  | .error errno =>
      failing (interruptedIOException
        ("Error writeBytes (GetOverlappedResult) errno: " ++ toString errno) 0)
  | .ok dwBytesWritten => do
      assign fun src => src.advance dwBytesWritten.val
      let src ← locals
      if src.hasRemaining = true then
        failing (interruptedIOException "Error writeBytes too view written" dwBytesWritten.val)
      else pure dwBytesWritten.val

def write : Action ByteBuffer ℤ := do
  let src ← locals
  if src.hasRemaining = false then pure 0
  else do
    let event ← ask (.get writeEvent)
    let reset ← ask (.ResetEvent event)
    match reset with
    | .error errno => raise (ioException ("Error write => ResetEvent: " ++ toString errno))
    | .ok () => do
        let handle ← ask (.get hFile)
        let hEvent ← ask (.get .writeOverlapped)
        let started ← ask (.WriteFile handle hEvent src.pending)
        match started with
        | .error errno =>
            if errno ≠ ERROR_IO_PENDING then
              failing (interruptedIOException
                ("Error writeBytes (GetLastError): " ++ toString errno) 0)
            else Method.tryFinally (awaitWrite src.remaining) ended
        | .ok () => Method.tryFinally (awaitWrite src.remaining) ended

end Transfers

section Opening
variable (portName : String)

/-- A new socket that cannot be used gives the port back, whether that works or not. -/
def giveUp {α : Type} (e : JavaException) : Action Unit α := do
  let handle ← ask (.get hFile)
  let _ ← ask (.CloseHandle handle)
  ask (.set hFile INVALID_HANDLE_VALUE)
  raise e

/-- `createClosedOrNativeException` -/
def closedOrNative {α : Type} (errno : ℕ) (text : String) : Action Unit α := do
  let handle ← ask (.get hFile)
  raise (GenericWinSerialPortSocket.createClosedOrNativeException ⟨portName, handle⟩ errno text)

/-- What `SetCommState` refuses. -/
def refused {α : Type} (errno : ℕ) : Action Unit α :=
  if errno = ERROR_INVALID_PARAMETER ∨ errno = ERROR_GEN_FAILURE then
    raise (GenericWinSerialPortSocket.setCommStateException ⟨portName, INVALID_HANDLE_VALUE⟩ errno)
  else closedOrNative portName errno "setParams SetCommState"

/-- An outcome that no call to the system is needed for. -/
def settled {α : Type} : Except JavaException α → Action Unit α
  | .ok a => pure a
  | .error e => raise e

def setParams (dcb : DCB) (r : Params) : Action Unit Unit := do
  let dcb ← settled (dcb.alter r)
  let handle ← ask (.get hFile)
  let stored ← ask (.SetCommState handle dcb)
  match stored with
  | .error errno => refused portName errno
  | .ok () => do
      let handle ← ask (.get hFile)
      let readed ← ask (.GetCommState handle)
      match readed with
      | .error errno => closedOrNative portName errno ("GetCommState (" ++ portName ++ ")")
      | .ok _ => settled (dcb.verify r)

def openTimeouts : Action Unit Unit := do
  let handle ← ask (.get hFile)
  let found ← ask (.GetCommTimeouts handle)
  match found with
  | .error _ => giveUp (ioException "Open GetCommTimeouts")
  | .ok _ => do
      let handle ← ask (.get hFile)
      let stored ← ask (.SetCommTimeouts handle ⟨100, 0, 0, 0, 0⟩)
      match stored with
      | .error _ => giveUp (ioException "Open SetCommTimeouts")
      | .ok () => pure ()

/-- `setReadEvent` and `setWriteEvent` -/
def setEvent {τ : Type} (event hEvent : Field) (handle : ℤ) : Action τ Unit := do
  ask (.set event handle)
  ask (.set hEvent handle)

/-- An event of the socket's, which its cleaner learns of. -/
def openEvent (part : Part) (hEvent : Field) (name : String) : Action Unit Unit := do
  let created ← ask .CreateEventW
  match created with
  | .error errno =>
      raise (runtimeException ("Can't create " ++ name ++ " error: " ++ toString errno))
  | .ok handle => do
      setEvent (.socket part) hEvent handle
      let event ← ask (.get (.socket part))
      ask (.set (.cleaner part) event)

def openReadEvent : Action Unit Unit := openEvent .readEvent .readOverlapped "readEvent"

def openWriteEvent : Action Unit Unit := openEvent .writeEvent .writeOverlapped "writeEvent"

/-- The parts of `open` once `CreateFileW` has returned. -/
def configure (r : Params) : Action Unit Unit := do
  let handle ← ask (.get hFile)
  let found ← ask (.GetCommState handle)
  match found with
  | .error _ => giveUp (ioException ("Not a serial port: \"" ++ portName ++ "\""))
  | .ok dcb => do
      Method.tryCatch (setParams portName dcb r) giveUp
      openTimeouts
      ask .register
      let handle ← ask (.get hFile)
      ask (.set (.cleaner .hFile) handle)
      openReadEvent
      openWriteEvent

def «open» (r : Params) : Action Unit Unit := do
  let handle ← ask (.get hFile)
  if handle ≠ INVALID_HANDLE_VALUE then raise (ioException PORT_IS_OPEN)
  else do
    let created ← ask (.CreateFileW ("\\\\.\\" ++ portName))
    match created with
    | .error errno =>
        if errno = ERROR_ACCESS_DENIED then
          raise (ioException ("Port is busy: \"" ++ portName ++ "\""))
        else if errno = ERROR_FILE_NOT_FOUND then raise (ioException
          ("Port not found: \"" ++ portName ++ "\""))
        else raise (ioException ("Open: Unknown port error " ++ toString errno))
    | .ok handle => do
        ask (.set hFile handle)
        configure portName r

end Opening

section Closing

/-- The end of an event; where that fails it is left to the cleaner. -/
def closeEvent (part : Part) (hEvent : Field) : Action Unit Unit := do
  let handle ← ask (.get (.socket part))
  setEvent (.socket part) hEvent INVALID_HANDLE_VALUE
  let closed ← ask (.CloseHandle handle)
  match closed with
  | .ok () => ask (.set (.cleaner part) INVALID_HANDLE_VALUE)
  | .error _ => pure ()

def closeReadEvent : Action Unit Unit := closeEvent .readEvent .readOverlapped

def closeWriteEvent : Action Unit Unit := closeEvent .writeEvent .writeOverlapped

/-- The part of `implCloseChannel` after `CancelIo`. -/
def closePort (handle : ℤ) : Action Unit Unit := do
  let closed ← ask (.CloseHandle handle)
  match closed with
  | .error _ => raise (ioException "Can't close port")
  | .ok () => do
      ask (.set (.cleaner .hFile) INVALID_HANDLE_VALUE)
      closeReadEvent
      closeWriteEvent

def implCloseChannel : Action Unit Unit := do
  let handle ← ask (.get hFile)
  ask (.set hFile INVALID_HANDLE_VALUE)
  let cancelled ← ask (.CancelIo handle)
  match cancelled with
  | .error errno =>
      if errno ≠ ERROR_NOT_FOUND then do
        ask (.set hFile handle)
        raise (ioException "Can't cancel IO for closing")
      else closePort handle
  | .ok () => closePort handle

/-- What the cleaner does about one of its fields; errors are only logged. -/
def clean (part : Part) (cancel : Bool) : Action Unit Unit := do
  let handle ← ask (.get (.cleaner part))
  if handle ≠ INVALID_HANDLE_VALUE then do
    if cancel = true then do
      let _ ← ask (.CancelIo handle)
    let _ ← ask (.CloseHandle handle)
  else pure ()

/-- `HFileCleaner.run` -/
def runCleaner : Action Unit Unit := do
  clean .readEvent false
  clean .writeEvent false
  clean .hFile true

end Closing
end Spsw.Jnhw.OverlappedIO

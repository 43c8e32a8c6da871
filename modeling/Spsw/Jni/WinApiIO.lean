import Spsw.Interaction.Method
import Spsw.Jni.TermiosIO
import Spsw.Jni.WinTimeouts

/-!
# `WinApiIO.c` and `WinApiCommon.c`

The native library on Windows with the handles it works on. A field of the socket is read
and written by a request of its own, and each call to the system names its handles. A call
that fails has for an answer what `GetLastError` tells right after it.
-/
namespace Spsw.Jni.WinApiIO
open Interaction
open Interaction.Method (assign raise locals)
open TermiosIO (Env)
open Jnhw (DCB COMMTIMEOUTS Errno INVALID_HANDLE_VALUE)
open JavaException (ioException illegalArgumentException interruptedIOException timeoutIOException)

def ERROR_FILE_NOT_FOUND : ℕ := 2
def ERROR_ACCESS_DENIED : ℕ := 5
def ERROR_IO_PENDING : ℕ := 997
def ERROR_NOT_FOUND : ℕ := 1168

def WAIT_OBJECT_0 : UInt32 := 0

/-- What `CreateEventA` returns where it fails; nobody asks. -/
def NULL : ℤ := 0

inductive Request where
  | getFd
  | setFd (value : ℤ)
  | getCleanerFd
  | setCleanerFd (value : ℤ)
  | CreateFile (name : String)
  | GetCommState (hFile : ℤ)
  | SetCommState (hFile : ℤ) (dcb : DCB)
  | GetCommTimeouts (hFile : ℤ)
  | SetCommTimeouts (hFile : ℤ) (timeouts : COMMTIMEOUTS)
  | CreateEventA
  | ReadFile (hFile hEvent : ℤ) (len : ℕ)
  | WriteFile (hFile hEvent : ℤ) (buff : List UInt8)
  | WaitForSingleObject (handle : ℤ)
  | overlappedRead (hFile hEvent : ℤ) (len : ℕ)
  | overlappedWrite (hFile hEvent : ℤ) (len : ℕ)
  | SetCommBreak (hFile : ℤ)
  | Sleep (milliseconds : ℤ)
  | ClearCommBreak (hFile : ℤ)
  | CancelIo (hFile : ℤ)
  | CloseHandle (handle : ℤ)
  | GetLastError
  deriving DecidableEq

/-- `GetOverlappedResult` fills in a number of bytes, whatever it returns; of a read, the
bytes themselves are in the memory then. -/
@[reducible] def Answer : Request → Type
  | .getFd | .getCleanerFd | .CreateEventA => ℤ
  | .setFd _ | .setCleanerFd _ | .Sleep _ => Unit
  | .CreateFile _ => Except ℕ ℤ
  | .GetCommState _ => Except ℕ DCB
  | .GetCommTimeouts _ => Except ℕ COMMTIMEOUTS
  | .WaitForSingleObject _ => UInt32
  | .overlappedRead _ _ len => Bool × { bytes : List UInt8 // bytes.length ≤ len }
  | .overlappedWrite _ _ len => Bool × Fin (len + 1)
  | .GetLastError => ℕ
  | .SetCommState _ _ | .SetCommTimeouts _ _ | .ReadFile _ _ _ | .WriteFile _ _ _ | .SetCommBreak _
  | .ClearCommBreak _ | .CancelIo _ | .CloseHandle _ => Except ℕ Unit

@[reducible] def winApi : Signature := ⟨Request, Answer⟩

/-- Its early `return` is what ends a C function. -/
abbrev Native (α : Type) := Method winApi Env ℤ α

/-- How a transfer on what is not open fails: at once. -/
def Refused (r : Except ℕ Unit) : Prop := ∃ errno, r = .error errno ∧ errno ≠ ERROR_IO_PENDING

def ask (e : Request) : Native (Answer e) :=
  (Method.request e (fun r => r) : Method winApi Env ℤ (Answer e))

def leave {α : Type} (result : ℤ) : Native α := raise result

def throwing (e : JavaException) : Native Unit :=
  assign (fun env => { env with raised := env.raised ++ [e] })

/-- `errno`, not `GetLastError`, is what its text tells. -/
def throw_InterruptedIOExceptionWithError (errnoText : Errno → String)
    (bytesTransferred : ℤ) (msg : String) :
    Native Unit := do
  let env ← locals
  throwing (interruptedIOException
    (msg ++ ": Unknown port error " ++ errnoText env.errno) bytesTransferred)

/-- `throw_IOException_NativeError`, some calls after the one that failed. -/
def throw_IOException_NativeError (msg : String) : Native Unit := do
  let errno ← ask .GetLastError
  throwing (WinSocket.nativeError errno msg)

/-- A call that fails asks the field whether the port was closed meanwhile. -/
def closedOr (otherwise : Native Unit) : Native Unit := do
  let fd ← ask .getFd
  if fd = INVALID_HANDLE_VALUE then throwing .asynchronousCloseException else otherwise

/-- `CloseHandle`, its result not looked at. -/
def release (handle : ℤ) : Native Unit := do
  let _ ← ask (.CloseHandle handle)
  pure ()

section ReadBuffer
variable (errnoText : Errno → String)

/-- The way to the end of a read, from what `ReadFile` returns. -/
def awaitRead (hEvent : ℤ) : Except ℕ Unit → Native Unit
  | .ok () => pure ()
  | .error errno =>
      if errno ≠ ERROR_IO_PENDING then do
        closedOr (throwing (WinSocket.nativeError errno "Error readBytes(GetLastError)"))
        release hEvent
        leave 0
      else do
        let waited ← ask (.WaitForSingleObject hEvent)
        if waited ≠ WAIT_OBJECT_0 then do
          closedOr (throw_IOException_NativeError "Error readBytes (WaitForSingleObject)")
          release hEvent
          leave 0
        else pure ()

/-- What has come is in the memory; `dwBytesRead` tells how much it is. -/
def takeRead (bytes : List UInt8) : Native Unit :=
  assign (fun env => { env with buff := bytes ++ env.buff.drop bytes.length })

def readBuffer (len : ℕ) : Native ℤ := do
  let hFile ← ask .getFd
  let hEvent ← ask .CreateEventA
  let started ← ask (.ReadFile hFile hEvent len)
  awaitRead hEvent started
  let (finished, bytes) ← ask (.overlappedRead hFile hEvent len)
  takeRead bytes.val
  release hEvent
  if finished = false then do
    closedOr (throw_InterruptedIOExceptionWithError errnoText bytes.val.length
      "Error readBytes (GetOverlappedResult)")
    leave bytes.val.length
  else if 0 < bytes.val.length then pure bytes.val.length
  else do
    closedOr (throwing (timeoutIOException 0 (some "Timeout readBuffer overlapped")))
    leave (-1)

end ReadBuffer

section WriteBuffer
variable (errnoText : Errno → String)

/-- The way to the end of a write. Here the event is closed first. -/
def awaitWrite (hEvent : ℤ) : Except ℕ Unit → Native Unit
  | .ok () => pure ()
  | .error errno =>
      if errno ≠ ERROR_IO_PENDING then do
        release hEvent
        closedOr (throw_InterruptedIOExceptionWithError errnoText 0
          "unknown port error 1 writeBytes")
        leave 0
      else do
        let waited ← ask (.WaitForSingleObject hEvent)
        if waited ≠ WAIT_OBJECT_0 then do
          release hEvent
          closedOr (throw_InterruptedIOExceptionWithError errnoText 0
            "Error writeBytes (WaitForSingleObject)")
          leave 0
        else pure ()

/-- Too few bytes were written: the last error tells a timeout from the rest. -/
def writtenShort (dwBytesWritten : ℕ) : Native Unit := do
  let errno ← ask .GetLastError
  if errno = ERROR_IO_PENDING then
    throwing (timeoutIOException dwBytesWritten (some "Timeout writeBuffer overlapped"))
  else
    throw_InterruptedIOExceptionWithError errnoText dwBytesWritten
      "Error writeBytes too view written"

def writeBuffer (buff : List UInt8) : Native ℤ := do
  let hFile ← ask .getFd
  let hEvent ← ask .CreateEventA
  let started ← ask (.WriteFile hFile hEvent buff)
  awaitWrite errnoText hEvent started
  let (finished, dwBytesWritten) ← ask (.overlappedWrite hFile hEvent buff.length)
  release hEvent
  if finished = false then do
    closedOr (throw_InterruptedIOExceptionWithError errnoText 0
      "Error writeBytes (GetOverlappedResult)")
    leave dwBytesWritten.val
  else if dwBytesWritten.val ≠ buff.length then do
    closedOr (writtenShort errnoText dwBytesWritten.val)
    leave dwBytesWritten.val
  else pure dwBytesWritten.val

end WriteBuffer

/-- `throw_ClosedOrNativeException` -/
def throw_ClosedOrNativeException (portName : String) (errno : ℕ) (message : String) :
    Native Unit := do
  let fd ← ask .getFd
  throwing ((⟨portName, fd⟩ : WinSocket).closedOrNative errno message)

def sendBreak0 (portName : String) (duration : ℤ) : Native Unit :=
  if duration ≤ 0 then
    throwing (illegalArgumentException "sendBreak duration must be grater than 0")
  else do
    let hFile ← ask .getFd
    let started ← ask (.SetCommBreak hFile)
    match started with
    | .error errno => throw_ClosedOrNativeException portName errno "sendBreak SetCommBreak"
    | .ok () => do
        ask (.Sleep duration)
        let cleared ← ask (.ClearCommBreak hFile)
        match cleared with
        | .error errno => throw_ClosedOrNativeException portName errno "sendBreak ClearCommBreak"
        | .ok () => pure ()

section Close

/-- The end of `close0`. -/
def closePort (hFile : ℤ) : Native Unit := do
  let closed ← ask (.CloseHandle hFile)
  match closed with
  | .ok () => pure ()
  | .error errno => throwing (WinSocket.nativeError errno "Can't close port")

def close0 : Native Unit := do
  let hFile ← ask .getFd
  ask (.setFd INVALID_HANDLE_VALUE)
  let cancelled ← ask (.CancelIo hFile)
  match cancelled with
  | .error errno =>
      if errno ≠ ERROR_NOT_FOUND then do
        throwing (WinSocket.nativeError errno "Can't cancel io for closing")
        ask (.setFd hFile)
      else closePort hFile
  | .ok () => closePort hFile

/-- What follows a native method in Java, unless that has thrown. -/
def whenReturned (next : Native Unit) : Native Unit := do
  let env ← locals
  if env.raised = [] then next else pure ()

/-- `implCloseChannel` -/
def implCloseChannel : Native Unit := do
  close0
  whenReturned (ask (.setCleanerFd INVALID_HANDLE_VALUE))

/-- `FdCleaner.closeFd` -/
def closeFd (hFile : ℤ) : Native Unit := do
  let _ ← ask (.CancelIo hFile)
  release hFile

/-- `FdCleaner.run` -/
def runCleaner : Native Unit := do
  let fd ← ask .getCleanerFd
  closeFd fd

end Close

section Open
variable (portName : String)

/-- `setParams` on a `DCB` already read. -/
def setParams (dcb : DCB) (paramBitSet : BitVec 32) : Native (Except JavaException Unit) :=
  match WinApiSettings.alter dcb paramBitSet with
  | .error e => pure (.error e)
  | .ok dcb => do
      let hFile ← ask .getFd
      let stored ← ask (.SetCommState hFile dcb)
      match stored with
      | .error errno => do
          let fd ← ask .getFd
          pure (.error ((⟨portName, fd⟩ : WinSocket).setCommStateException errno))
      | .ok () => do
          let hFile ← ask .getFd
          let read ← ask (.GetCommState hFile)
          match read with
          | .error errno => do
              let fd ← ask .getFd
              pure (.error
                ((⟨portName, fd⟩ : WinSocket).closedOrNative errno "getParams GetCommState"))
          | .ok dcb => pure (WinApiSettings.verify dcb paramBitSet)

/-- What `CreateFile` fails with. -/
def createFileException (errno : ℕ) : JavaException :=
  if errno = ERROR_ACCESS_DENIED then ioException ("Port is busy: \"" ++ portName ++ "\"")
  else if errno = ERROR_FILE_NOT_FOUND then ioException ("Port not found: \"" ++ portName ++ "\"")
  else WinSocket.nativeError errno "Open"

/-- The port is closed again, and the constructor gives up. -/
def giveUp (hFile : ℤ) : Native Unit := do
  release hFile
  ask (.setFd INVALID_HANDLE_VALUE)

/-- The timeouts of a port that has just been opened. -/
def openTimeouts (hFile : ℤ) : Native Unit := do
  let found ← ask (.GetCommTimeouts hFile)
  match found with
  | .error _ => do
      giveUp hFile
      throw_IOException_NativeError "Open GetCommTimeouts"
  | .ok _ => do
      let stored ← ask (.SetCommTimeouts hFile ⟨100, 0, 0, 0, 0⟩)
      match stored with
      | .error _ => do
          giveUp hFile
          throw_IOException_NativeError "Open SetCommTimeouts"
      | .ok () => pure ()

/-- `open0`, once the port has its handle. -/
def configure (hFile : ℤ) (paramBitSet : BitVec 32) : Native Unit := do
  let found ← ask (.GetCommState hFile)
  match found with
  | .error _ => do
      giveUp hFile
      throwing (ioException ("Not a serial port: \"" ++ portName ++ "\""))
  | .ok dcb =>
      if paramBitSet ≠ NO_PARAMS_TO_SET then do
        let result ← setParams portName dcb paramBitSet
        match result with
        | .error e => do
            throwing e
            giveUp hFile
        | .ok () => openTimeouts hFile
      else openTimeouts hFile

def open0 (paramBitSet : BitVec 32) : Native Unit := do
  let fd ← ask .getFd
  if fd ≠ INVALID_HANDLE_VALUE then throwing (ioException "Port is open")
  else do
    let created ← ask (.CreateFile ("\\\\.\\" ++ portName))
    match created with
    | .error errno => do
        ask (.setFd INVALID_HANDLE_VALUE)
        throwing (createFileException portName errno)
    | .ok hFile => do
        ask (.setFd hFile)
        configure portName hFile paramBitSet

/-- `open`: the cleaner gets the handle once `open0` has returned. -/
def «open» (paramBitSet : BitVec 32) : Native Unit := do
  open0 portName paramBitSet
  whenReturned (do
    let fd ← ask .getFd
    ask (.setCleanerFd fd))

end Open
end Spsw.Jni.WinApiIO

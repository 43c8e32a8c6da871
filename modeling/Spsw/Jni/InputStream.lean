import Spsw.Api.ByteBuffer
import Spsw.Jni.OutputStream
import Spsw.Jni.TermiosIO
import Spsw.Slices.Overwrite

/-!
# The input stream over the native library

The native methods that read hand `readBuffer` memory of three kinds: the elements of the
array itself, a buffer of their own from which they copy, and the memory of a direct
buffer. Around them are `read(ByteBuffer)` and the `SerialInputStream`.
-/
namespace Spsw.Jni
open Interaction
open Interaction.Method (assign raise locals tryCatch)
open TermiosIO (termios Settings readBuffer)
open Jnhw (Errno)
open Slices (overwrite overwrite_length)

/-- Java code, and the native methods it calls, over the Java memory `σ` they work on. -/
abbrev JavaCall (σ α : Type) := Method termios σ JavaException α

/-- What a native method finds: `errno`, and what its own buffer held before. -/
structure Found where
  errno : Errno
  memory : List UInt8

/-- What native code writes into a direct buffer; its position stays. -/
def store (b : ByteBuffer) (start : ℕ) (src : List UInt8) : ByteBuffer :=
  ⟨overwrite b.bytes start src, b.position, b.limit, b.position_le,
    by rw [overwrite_length]; exact b.limit_le⟩

namespace AbstractSerialPortSocketIO
variable {σ : Type}

/-- What `readBuffer` leaves to the function that calls it. -/
structure Readout where
  result : ℤ
  raised : List JavaException
  buff : List UInt8

/-- Early or not, a C function returns a number. -/
def returned : Except ℤ ℤ → ℤ
  | .ok result => result
  | .error result => result

/-- `readBuffer(env, sps, buff, len)` -/
def callReadBuffer (s : Settings) (errno : Errno) (buff : List UInt8) (len : ℕ) :
    JavaCall σ Readout := fun st =>
  Program.bind (readBuffer s len ⟨[], errno, buff⟩) fun x =>
    .pure (.ok ⟨returned x.1, x.2.raised, x.2.buff⟩, st)

/-- The end of a native method: Java throws what it has thrown last, and else has the result. -/
def give (raised : List JavaException) (result : ℤ) : JavaCall σ ℤ :=
  match raised.getLast? with
  | some e => raise e
  | none => pure result

/-- Copies `len` bytes to the array; what it throws is pending. -/
def SetByteArrayRegion (off len : ℤ) (buf : List UInt8) :
    JavaCall (List UInt8) (List JavaException) := do
  let bytes ← locals
  if 0 ≤ off ∧ 0 ≤ len ∧ off + len ≤ bytes.length then do
    assign (fun bytes => overwrite bytes off.toNat (buf.take len.toNat))
    pure []
  else pure [.indexOutOfBoundsException]

variable (m : Machine) (found : Found) (s : Settings)

def readBytes_ArgsOK (off len : ℤ) : JavaCall (List UInt8) ℤ :=
  if MAX_STACK_BUF_SIZE < len ∧ m.malloc len.toNat = false then
    raise (.outOfMemoryError "Can`t aquire native memory")
  else do
    let r ← callReadBuffer s found.errno found.memory len.toNat
    let pending ← (if 0 < r.result then SetByteArrayRegion off r.result r.buff else pure [])
    give (r.raised ++ pending) r.result

/-- The elements that `readBuffer` was given are copied back. -/
def readBytes : JavaCall (List UInt8) ℤ := do
  let bytes ← locals
  let r ← callReadBuffer s found.errno bytes bytes.length
  assign (fun _ => r.buff)
  give r.raised r.result

def readSingle : JavaCall σ ℤ := do
  let r ← callReadBuffer s found.errno found.memory 1
  if r.result = -1 then give r.raised (-1)
  else if r.result = 0 then give r.raised (-1)
  else if r.result = 1 then give r.raised (r.buff.headD 0).toNat
  else give (r.raised ++ [.illegalArgumentException
    ("Saveguard for Java_de_ibapl_spsw_jniprovider_AbstractSerialPortSocket_readSingle" ++
      " read single returnd unexpected result.")]) r.result

/-- `readBuffer(env, sps, address + pos, len)`, for a direct buffer. -/
def read_ArgsOK (pos len : ℕ) : JavaCall ByteBuffer ℤ := do
  let dst ← locals
  let r ← callReadBuffer s found.errno (dst.bytes.drop pos) len
  assign (fun dst => store dst pos r.buff)
  give r.raised r.result

end AbstractSerialPortSocketIO

/-- What `end(completed)` finds of the thread and of the channel. -/
structure Ending where
  interrupted : Bool
  closed : Bool

/-- `end(completed)` after a call: one that has returned, or has thrown an
`IOException`, is completed. -/
def Ending.settle {α : Type} (ending : Ending) (x : Except JavaException α) :
    Except JavaException α :=
  if ending.interrupted = true then .error .closedByInterruptException
  else match x with
    | .ok a => .ok a
    | .error e =>
        if e.isIOException = false ∧ ending.closed = true then
          .error .asynchronousCloseException else .error e

/-- `begin(); call; completed = true;` with its `catch (IOException e)`, and `end(completed)`. -/
def interruptible {σ α : Type} (ending : Ending) (call : JavaCall σ α) : JavaCall σ α := fun st =>
  Program.bind (call st) fun x => .pure (ending.settle x.1, x.2)

section Java
variable (m : Machine) (found : Found) (s : Settings) (ending : Ending)

namespace AbstractSerialPortSocket
open AbstractSerialPortSocketIO

/-- `dst.position(dst.position() + result)` -/
def movePosition (result : ℤ) : JavaCall ByteBuffer Unit := do
  let dst ← locals
  match dst.setPosition (dst.position + result) with
  | some dst => assign (fun _ => dst)
  | none => raise (.illegalArgumentException "newPosition")

/-- `read(ByteBuffer)` -/
def read (readOnly : Bool) : JavaCall ByteBuffer ℤ :=
  if readOnly = true then raise (.illegalArgumentException "Read-only buffer")
  else do
    let dst ← locals
    if dst.hasRemaining = true then do
      let result ← interruptible ending (read_ArgsOK found s dst.position dst.remaining)
      if 0 < result then movePosition result else pure ()
      pure result
    else pure 0

end AbstractSerialPortSocket

namespace SerialInputStream
open AbstractSerialPortSocketIO
variable {σ : Type}

/-- `catch (AsynchronousCloseException ace) { return -1; }` -/
def untilClosed (call : JavaCall σ ℤ) : JavaCall σ ℤ :=
  tryCatch call (fun e => if e.isAsynchronousClose = true then pure (-1) else raise e)

/-- `read()` -/
def read : JavaCall σ ℤ := interruptible ending (untilClosed (readSingle found s))

/-- `read(byte[])` -/
def readArray : JavaCall (List UInt8) ℤ := do
  let b ← locals
  if b.length = 0 then pure 0
  else interruptible ending (untilClosed (readBytes found s))

/-- `read(byte[], int, int)` -/
def readRegion (off len : ℤ) : JavaCall (List UInt8) ℤ := do
  let b ← locals
  if off < 0 ∨ len < 0 ∨ len > b.length - off then raise .indexOutOfBoundsException
  else if len = 0 then pure 0
  else interruptible ending (untilClosed (readBytes_ArgsOK m found s off len))

end SerialInputStream
end Java
end Spsw.Jni

import Spsw.Api.ByteBuffer
import Spsw.Api.Exceptions
import Spsw.Api.Settings

/-!
# `SerialPortSocket`

The operations of a socket and of the streams it hands out, as the caller of the interface
knows them: what each is given, and what it returns.
-/
namespace Spsw

/-- A stream, by its number; the streams of a socket are compared by identity only. -/
abbrev Stream := ℕ

/-- The methods of an `InputStream` besides the reads, `available` and `close`. What `transferTo`
writes elsewhere is left out. -/
inductive InputStreamMethod where
  | skip (n : ℤ)
  | skipNBytes (n : ℤ)
  | mark (readlimit : ℤ)
  | reset
  | markSupported
  | readAllBytes
  | readNBytes (len : ℤ)
  | readNBytesRange (off len : ℤ)
  | transferTo
  deriving DecidableEq

@[reducible] def InputStreamMethod.Result : InputStreamMethod → Type
  | .skip _ | .readNBytesRange _ _ | .transferTo => ℤ
  | .markSupported => Bool
  | .readAllBytes | .readNBytes _ => List UInt8
  | .skipNBytes _ | .mark _ | .reset => Unit

/-- `none` is `null`. The array or buffer that an operation is given is not among its
arguments here: it is part of the memory that caller and socket share. -/
inductive Operation where
  | drainOutputBuffer
  | getDatatBits | getFlowControl | getInBufferBytesCount | getInterByteReadTimeout
  | getOutBufferBytesCount | getOverallReadTimeout | getOverallWriteTimeout | getParity
  | getPortName | getSpeed | getStopBits
  | getXOFFChar | getXONChar
  | isCTS | isDCD | isDSR | isRI
  | sendBreak (duration : ℤ)
  | sendXOFF | sendXON
  | setBreak (value : Bool)
  | setDataBits (dataBits : Option DataBits)
  | setDTR (value : Bool)
  | setFlowControl (flowControls : Option (Finset FlowControl))
  | setParity (parity : Option Parity)
  | setRTS (value : Bool)
  | setSpeed (speed : Option Speed)
  | setStopBits (stopBits : Option StopBits)
  | setTimeouts (interByteReadTimeout overallReadTimeout overallWriteTimeout : ℤ)
  | setXOFFChar (c : BitVec 16)
  | setXONChar (c : BitVec 16)
  | getInputStream | getOutputStream
  | isOpen | close
  | read | write
  | isAvailable (is : Stream)
  | isClose (is : Stream)
  | isRead (is : Stream)
  | isReadArray (is : Stream)
  | isReadRange (is : Stream) (off len : ℤ)
  | isInherited (is : Stream) (method : InputStreamMethod)
  | osClose (os : Stream)
  | osFlush (os : Stream)
  | osWrite (os : Stream) (b : ℤ)
  | osWriteArray (os : Stream)
  | osWriteRange (os : Stream) (off len : ℤ)
  deriving DecidableEq

/-- What an operation returns. -/
@[reducible] def Operation.Result : Operation → Type
  | .getDatatBits => Option DataBits
  | .getFlowControl => Option (Finset FlowControl)
  | .getInBufferBytesCount | .getInterByteReadTimeout | .getOutBufferBytesCount | .getOverallReadTimeout
  | .getOverallWriteTimeout => ℤ
  | .getParity => Option Parity
  | .getPortName => Option String
  | .getSpeed => Option Speed
  | .getStopBits => Option StopBits
  | .getXOFFChar | .getXONChar => BitVec 16
  | .isCTS | .isDCD | .isDSR | .isRI | .isOpen => Bool
  | .getInputStream | .getOutputStream => Option Stream
  | .read | .write | .isAvailable _ | .isRead _ | .isReadArray _ | .isReadRange _ _ _ => ℤ
  | .isInherited _ method => method.Result
  | _ => Unit

/-- The array and the buffer of an operation, `none` for `null`. -/
structure Memory where
  array : Option (List UInt8)
  buffer : Option ByteBuffer
  deriving DecidableEq

/-- An operation is called, on the memory it is given. -/
structure Invocation where
  op : Operation
  memory : Memory
  deriving DecidableEq

/-- How a call ends, and the contents it leaves. An array keeps its length, and no object
turns into `null`. -/
structure Reply (c : Invocation) where
  result : Except JavaException c.op.Result
  memory : Memory
  length_eq : memory.array.map List.length = c.memory.array.map List.length
  isSome_eq : memory.buffer.isSome = c.memory.buffer.isSome

/-- Any socket: in a state of its own, it answers each call and goes on. -/
structure SerialPortSocket (D : Type) where
  answer : D → (c : Invocation) → Reply c × D

end Spsw

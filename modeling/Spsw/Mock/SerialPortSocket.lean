import Spsw.Api.Exceptions
import Spsw.Interaction.Stateful
import Spsw.Mock.HexPayloads
import Spsw.Slices.Overwrite

/-!
# The mock socket

The factory keeps the requests that are to come; the socket's streams keep how much of the
first one is through. A call that does not fit the first request throws an
`UnexpectedRequestError`.
-/
namespace Spsw.Mock
open Slices

inductive MockRequestType where
  | READ
  | WRITE
  deriving DecidableEq, Repr

/-- What a `MockDataRequest`, a `MockExceptionRequest` and a request of neither class carry. -/
inductive MockPayload where
  | data (payload : List UInt8)
  | exception (payload : JavaException)
  | other
  deriving DecidableEq

structure MockRequest where
  requestType : MockRequestType
  payload : MockPayload
  deriving DecidableEq

structure MockSerialPortFactory where
  data : List MockRequest := []

namespace MockSerialPortFactory
variable (factory : MockSerialPortFactory) (digit : UInt16 → Option ℕ)

def allRequestsHandled : Bool := factory.data.isEmpty

def addRequest (d : MockRequest) : MockSerialPortFactory :=
  { factory with data := factory.data ++ [d] }

def addTimes (requests : List MockRequest) (times : ℕ) : MockSerialPortFactory :=
  (List.replicate times requests).flatten.foldl addRequest factory

/-- `addRequest(String, IOException, int)` -/
def addFailingRequest (writeData : List UInt16) (readIOException : JavaException) (times : ℕ) :
    Option MockSerialPortFactory :=
  (ascii2Bytes digit writeData).map fun write =>
    factory.addTimes [⟨.WRITE, .data write⟩, ⟨.READ, .exception readIOException⟩] times

/-- `addRequest(String, String)` -/
def addAnsweredRequest (writeData readData : List UInt16) : Option MockSerialPortFactory :=
  (ascii2Bytes digit writeData).bind fun write =>
    (ascii2Bytes digit readData).map fun read =>
      (factory.addRequest ⟨.WRITE, .data write⟩).addRequest ⟨.READ, .data read⟩

def expectedReadException (ioException : JavaException) : MockSerialPortFactory :=
  factory.addRequest ⟨.READ, .exception ioException⟩

def expectedRead (data : List UInt16) : Option MockSerialPortFactory :=
  (ascii2Bytes digit data).map fun payload => factory.addRequest ⟨.READ, .data payload⟩

def expectedWriteException (ioException : JavaException) : MockSerialPortFactory :=
  factory.addRequest ⟨.WRITE, .exception ioException⟩

def expectedWrite (data : List UInt16) : Option MockSerialPortFactory :=
  (ascii2Bytes digit data).map fun payload => factory.addRequest ⟨.WRITE, .data payload⟩

def expectedWrites (data : List UInt16) (times : ℕ) : Option MockSerialPortFactory :=
  (ascii2Bytes digit data).map fun payload => factory.addTimes [⟨.WRITE, .data payload⟩] times

end MockSerialPortFactory

/-- What a call throws. The `MockRequestStackException` behind an
`UnexpectedRequestError` is left out. -/
inductive Throwable where
  | exception (e : JavaException)
  | unexpectedRequestError (message : String)
  deriving DecidableEq

structure MockSerialPortSocket where
  factory : MockSerialPortFactory
  isOpen : Bool := true
  readPtr : ℕ := 0
  writePtr : ℕ := 0

abbrev MockCall := EStateM Throwable MockSerialPortSocket

/-- `factory.open(portName)` -/
def MockSerialPortFactory.open (factory : MockSerialPortFactory) : MockSerialPortSocket :=
  ⟨factory, true, 0, 0⟩

namespace MockSerialPortSocket

/-- The value of a `byte`, which is signed, as an `int`. -/
def toInt (b : UInt8) : ℤ := b.toBitVec.toInt

def ensureOpen : MockCall Unit := do
  let s ← get
  if s.isOpen = false then throw (.exception (.ioException PORT_IS_CLOSED))

def removeDataFirst : MockCall Unit :=
  modify fun s => { s with factory := { data := s.factory.data.tail } }

/-- What `read`, `read(byte[], int, int)` and `write` do with the first request. -/
def withFirst {α : Type} (requestType : MockRequestType) (message : String)
    (use : List UInt8 → MockCall α) :
    MockCall α := do
  ensureOpen
  let s ← get
  match s.factory.data with
  | [] => throw (.unexpectedRequestError "data is empty")
  | firstRequest :: _ =>
    if firstRequest.requestType ≠ requestType then throw (.unexpectedRequestError message)
    else
      match firstRequest.payload with
      | .exception payload => do
        removeDataFirst
        throw (.exception payload)
      | .data payload => use payload
      | .other => throw (.unexpectedRequestError "No read data request")

namespace MockInputStream

def available : MockCall ℤ := do
  ensureOpen
  let s ← get
  match s.factory.data with
  | [] => return 0
  | firstRequest :: _ =>
    if firstRequest.requestType ≠ .READ then return 0
    else
      match firstRequest.payload with
      | .exception _ => return 0
      | .data payload => return payload.length - s.readPtr
      | .other => throw (.unexpectedRequestError "No read data request")

/-- The end of `read` and of `read(byte[], int, int)`. -/
def advance (payload : List UInt8) (count : ℕ) : MockCall Unit := do
  modify fun s => { s with readPtr := s.readPtr + count }
  let s ← get
  if s.readPtr = payload.length then
    modify fun s => { s with readPtr := 0 }
    removeDataFirst

def read : MockCall ℤ :=
  withFirst .READ "No Read request" fun payload => do
    let s ← get
    match payload[s.readPtr]? with
    | none =>
      modify fun s => { s with readPtr := s.readPtr + 1 }
      throw (.exception .indexOutOfBoundsException)
    | some result =>
      advance payload 1
      return toInt result

/-- `read(byte[], int, int)`, which returns the array too. -/
def readArray (b : List UInt8) (off len : ℤ) : MockCall (ℤ × List UInt8) :=
  withFirst .READ "No Read request" fun payload => do
    let s ← get
    let rest : ℤ := payload.length - s.readPtr
    let count := if len < rest then len else rest
    -- `System.arraycopy` copies nothing unless both ranges are inside.
    if off < 0 ∨ count < 0 ∨ b.length < off + count then
      throw (.exception .indexOutOfBoundsException)
    else
      let copied := overwrite b off.toNat ((payload.drop s.readPtr).take count.toNat)
      advance payload count.toNat
      return (count, copied)

end MockInputStream

namespace MockOutputStream

def write (b : ℤ) : MockCall Unit :=
  withFirst .WRITE "No Write request" fun payload => do
    let s ← get
    modify fun s => { s with writePtr := s.writePtr + 1 }
    match payload[s.writePtr]? with
    | none => throw (.exception .indexOutOfBoundsException)
    | some expected =>
      if b ≠ toInt expected then
        throw (.unexpectedRequestError ("Not expected write data at " ++ toString s.writePtr))
      else if s.writePtr + 1 = payload.length then
        modify fun s => { s with writePtr := 0 }
        removeDataFirst

/-- `OutputStream.write(byte[], int, int)`, which the mock inherits. -/
def writeArray (b : List UInt8) (off len : ℤ) : MockCall Unit :=
  if off < 0 ∨ len < 0 ∨ b.length < off + len then throw (.exception .indexOutOfBoundsException)
  else ((b.drop off.toNat).take len.toNat).forM fun x => write (toInt x)

end MockOutputStream

def getInBufferBytesCount : MockCall ℤ := do
  ensureOpen
  MockInputStream.available

def close : MockCall Unit := modify fun s => { s with isOpen := false }

end MockSerialPortSocket

end Spsw.Mock

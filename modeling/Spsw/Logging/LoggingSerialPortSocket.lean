import Spsw.Logging.LogWriter

/-!
# `LoggingSerialPortSocket`

Each operation is handed on to the wrapped socket between two calls of the log writer.
-/
namespace Spsw.Logging
open LogWriter (calling announcing returning throwing)

/-- The wrapped socket, the calls it has received, and the memory it shares with its
caller. -/
structure World (D : Type) where
  socket : D
  calls : List Invocation
  memory : Memory

/-- `lis` and `los` are the streams behind the wrappers of that name, `none` for `null`. -/
structure State (D : Type) where
  world : World D
  lis : Option Stream
  los : Option Stream
  writer : LogWriter

variable {D : Type}

abbrev Wrapping (D α : Type) := EStateM JavaException (State D) α

/-- A call of the log writer. -/
def log {α : Type} (m : Writing α) : Wrapping D α := fun s =>
  match m s.writer with
  | .ok a writer => .ok a { s with writer }
  | .error e writer => .error e { s with writer }

def array : Wrapping D (Option (List UInt8)) := do
  let s ← get
  pure s.world.memory.array

/-- A buffer that is about to be dereferenced. -/
def dereferenced : Wrapping D ByteBuffer := do
  let s ← get
  match s.world.memory.buffer with
  | some buffer => pure buffer
  | none => throw .nullPointerException

/-- What a call leaves behind. -/
def World.after (w : World D) (c : Invocation) (x : Reply c × D) : World D :=
  ⟨x.2, w.calls ++ [c], x.1.memory⟩

section Operations
variable (port : SerialPortSocket D)

/-- `serialPortSocket.op(..)`, on the memory as it is. -/
def forward (op : Operation) : Wrapping D op.Result := fun s =>
  let c : Invocation := ⟨op, s.world.memory⟩
  let x := port.answer s.world.socket c
  match x.1.result with
  | .ok a => .ok a { s with world := s.world.after c x }
  | .error e => .error e { s with world := s.world.after c x }

/-- `before; try { result = call; after; return result; } catch (IOException e)
{ failed; throw e; }` -/
def logged {α : Type} (before : Wrapping D Unit) (call : Wrapping D α) (after : α → Wrapping D Unit)
    (failed : JavaException → Wrapping D Unit) : Wrapping D α := do
  before
  try
    let result ← call
    after result
    pure result
  catch e =>
    if e.isIOException = true then do
      failed e
      throw e
    else throw e

/-- A method that reports something. -/
def getting {α : Type} (source before name : String) (item : α → Item) (call : Wrapping D α) :
    Wrapping D α :=
  logged (log (calling source before)) call (fun result =>
    log (returning source name [item result])) (fun e => log (throwing source name e))

def drainOutputBuffer : Wrapping D Unit :=
  logged (log (calling "SP" " drainOutputBuffer")) (forward port .drainOutputBuffer)
    (fun _ => log (returning "SP" " drainOutputBuffer" [])) (fun e =>
      log (throwing "SP" " drainOutputBuffer:\t" e))

def getSpeed : Wrapping D (Option Speed) :=
  getting "SP" " getSpeed" " getSpeed:\t" .speed (forward port .getSpeed)

def getDatatBits : Wrapping D (Option DataBits) :=
  getting "SP" " getDatatBits" " getDatatBits:\t" .dataBits (forward port .getDatatBits)

def getFlowControl : Wrapping D (Option (Finset FlowControl)) :=
  getting "SP" " getFlowControl" " getFlowControl:\t" .flowControl (forward port .getFlowControl)

def getInBufferBytesCount : Wrapping D ℤ :=
  getting "SP" " getInBufferBytesCount" " getInBufferBytesCount:\t" .int
    (forward port .getInBufferBytesCount)

def getInterByteReadTimeout : Wrapping D ℤ :=
  getting "SP" " getInterByteReadTimeout" " getInterByteReadTimeout:\t" .int
    (forward port .getInterByteReadTimeout)

def getOutBufferBytesCount : Wrapping D ℤ :=
  getting "SP" " getOutBufferBytesCount" " getOutBufferBytesCount:\t" .int
    (forward port .getOutBufferBytesCount)

def getOverallReadTimeout : Wrapping D ℤ :=
  getting "SP" " getOverallReadTimeout" " getOverallReadTimeout:\t" .int
    (forward port .getOverallReadTimeout)

def getOverallWriteTimeout : Wrapping D ℤ :=
  getting "SP" " getOverallWriteTimeout" " getOverallWriteTimeout:\t" .int
    (forward port .getOverallWriteTimeout)

/-- The result is not printed. -/
def getParity : Wrapping D (Option Parity) :=
  logged (log (calling "SP" " getParity")) (forward port .getParity)
    (fun _ => log (returning "SP" " getParity:\t" [])) (fun e =>
      log (throwing "SP" " getParity:\t" e))

def getPortName : Wrapping D (Option String) := forward port .getPortName

def getStopBits : Wrapping D (Option StopBits) :=
  getting "SP" " getStopBits" " getStopBits:\t" .stopBits (forward port .getStopBits)

def getXOFFChar : Wrapping D (BitVec 16) :=
  getting "SP" " getXOFFChar" " getXOFFChar:\t" .char (forward port .getXOFFChar)

def getXONChar : Wrapping D (BitVec 16) :=
  getting "SP" " getXONChar" " getXONChar:\t" .char (forward port .getXONChar)

def isCTS : Wrapping D Bool := getting "SP" " isCTS " " isCTS:\t" .bool (forward port .isCTS)

def isDCD : Wrapping D Bool := getting "SP" " isDCD" " isDCD:\t" .bool (forward port .isDCD)

def isDSR : Wrapping D Bool := getting "SP" " isDSR" " isDSR:\t" .bool (forward port .isDSR)

def isOpen : Wrapping D Bool := forward port .isOpen

def isRI : Wrapping D Bool := getting "SP" " isRI" " isRI:\t" .bool (forward port .isRI)

/-- A method that changes something. -/
def changing (source before : String) (arguments : List Item) (after failed : String)
    (call : Wrapping D Unit) :
    Wrapping D Unit :=
  logged (log (announcing source before arguments)) call (fun _ => log (returning source after []))
    (fun e => log (throwing source failed e))

def sendBreak (duration : ℤ) : Wrapping D Unit :=
  changing "SP" " sendBreak:\t" [.int duration] " sendBreak" " sendBreak:\t"
    (forward port (.sendBreak duration))

/-- The call is handed on once more when it has returned. -/
def sendXOFF : Wrapping D Unit := do
  changing "SP" " sendXOFF" [] " sendXOFF" " sendXOFF:\t" (forward port .sendXOFF)
  forward port .sendXOFF

def sendXON : Wrapping D Unit :=
  changing "SP" " sendXON" [] " sendXON" " sendXON:\t" (forward port .sendXON)

def setSpeed (speed : Option Speed) : Wrapping D Unit :=
  changing "SP" " setSpeed:\t" [.speed speed] " setSpeed" " setSpeed:\t"
    (forward port (.setSpeed speed))

def setBreak (value : Bool) : Wrapping D Unit :=
  changing "SP" " setBreak:\t" [.bool value] " setBreak" " setBreak:\t"
    (forward port (.setBreak value))

def setDataBits (dataBits : Option DataBits) : Wrapping D Unit :=
  changing "SP" " setDataBits:\t" [.dataBits dataBits] " setDataBits" " setDataBits:\t"
    (forward port (.setDataBits dataBits))

def setDTR (value : Bool) : Wrapping D Unit :=
  changing "SP" " setDTR:\t" [.bool value] " setDTR " " setDTR:\t" (forward port (.setDTR value))

def setFlowControl (flowControls : Option (Finset FlowControl)) : Wrapping D Unit :=
  changing "SP" " setFlowControl:\t"
    [.flowControl flowControls] " setFlowControl" " setFlowControl:\t"
    (forward port (.setFlowControl flowControls))

def setParity (parity : Option Parity) : Wrapping D Unit :=
  changing "SP" " setParity:\t" [.parity parity] " setParity" " setParity:\t"
    (forward port (.setParity parity))

def setRTS (value : Bool) : Wrapping D Unit :=
  changing "SP" " setRTS:\t" [.bool value] " setRTS" " setRTS:\t" (forward port (.setRTS value))

def setStopBits (stopBits : Option StopBits) : Wrapping D Unit :=
  changing "SP" " setStopBits:\t" [.stopBits stopBits] " setStopBits" " setStopBits:\t"
    (forward port (.setStopBits stopBits))

def setTimeouts (interByteReadTimeout overallReadTimeout overallWriteTimeout : ℤ) :
    Wrapping D Unit :=
  changing "SP" " setTimeouts:\t(interByteReadTimeout="
    [.int interByteReadTimeout, .text ", overallReadTimeout=", .int overallReadTimeout,
      .text ", overallWriteTimeout=", .int overallWriteTimeout, .text ")"]
    " setTimeouts" " setTimeouts:\t"
    (forward port (.setTimeouts interByteReadTimeout overallReadTimeout overallWriteTimeout))

def setXOFFChar (c : BitVec 16) : Wrapping D Unit :=
  changing "SP" " setXOFFChar:\t" [.char c] " setXOFFChar" " setXOFFChar:\t"
    (forward port (.setXOFFChar c))

def setXONChar (c : BitVec 16) : Wrapping D Unit :=
  changing "SP" " setXONChar:\t" [.char c] " setXONChar " " setXONChar:\t"
    (forward port (.setXONChar c))

def close : Wrapping D Unit := do
  modify fun s => { s with lis := none, los := none }
  changing "SP" " close" [] " close" " close:\t" (forward port .close)

/-- The wrapper is kept as long as the stream behind it is the same. -/
def wrapped (wrapper stream : Option Stream) : Option Stream :=
  match wrapper, stream with
  | _, none => none
  | none, some stream => some stream
  | some is, some stream => if is ≠ stream then some stream else some is

def getInputStream : Wrapping D (Option Stream) := do
  let ois ← forward port .getInputStream
  modify fun s => { s with lis := wrapped s.lis ois }
  let s ← get
  pure s.lis

def getOutputStream : Wrapping D (Option Stream) := do
  let oos ← forward port .getOutputStream
  modify fun s => { s with los := wrapped s.los oos }
  let s ← get
  pure s.los

def read : Wrapping D ℤ := do
  let dst ← dereferenced
  let position := dst.position
  logged (log LogWriter.beforeChannelRead) (forward port .read)
    (fun _ => do
      let dst ← dereferenced
      log (LogWriter.afterChannelRead dst position))
    (fun e => do
      let dst ← dereferenced
      log (LogWriter.afterChannelReadThrown dst e))

def write : Wrapping D ℤ :=
  logged
    (do
      let src ← dereferenced
      log (LogWriter.beforeChannelWrite src))
    (forward port .write) (fun _ => log LogWriter.afterChannelWrite)
    (fun e => do
      let src ← dereferenced
      log (LogWriter.afterChannelWriteThrown src e))

namespace LIS
variable (is : Stream)

def available : Wrapping D ℤ :=
  getting "IS" " available" " available:\t" .int (forward port (.isAvailable is))

def close : Wrapping D Unit :=
  changing "IS" " close" [] " close" " close:\t" (forward port (.isClose is))

def read : Wrapping D ℤ :=
  logged (log LogWriter.beforeIsRead) (forward port (.isRead is))
    (fun result => log (LogWriter.afterIsReadByte result)) (fun e =>
      log (LogWriter.afterIsReadThrown e))

def readArray : Wrapping D ℤ :=
  logged (log LogWriter.beforeIsRead) (forward port (.isReadArray is))
    (fun result => do
      let b ← array
      log (LogWriter.afterIsReadArray result b 0))
    (fun e => log (LogWriter.afterIsReadThrown e))

def readRange (off len : ℤ) : Wrapping D ℤ :=
  logged (log LogWriter.beforeIsRead) (forward port (.isReadRange is off len))
    (fun result => do
      let b ← array
      log (LogWriter.afterIsReadArray result b off))
    (fun e => log (LogWriter.afterIsReadThrown e))

end LIS

/-- The outcome of a call, for code that goes on with it. -/
def attempt {α : Type} (m : Wrapping D α) : Wrapping D (Except JavaException α) := fun s =>
  match m s with
  | .ok a s' => .ok (.ok a) s'
  | .error e s' => .ok (.error e) s'

def store (b : Option (List UInt8)) : Wrapping D Unit :=
  modify fun s => { s with world := { s.world with memory := { s.world.memory with array := b } } }

/-- A call on an array of the callee's own, or on the one of the caller. -/
def lending {α : Type} (own : Option (List UInt8)) (m : Wrapping D α) :
    Wrapping D (α × Option (List UInt8)) :=
  match own with
  | none => do
      let a ← m
      let b ← array
      pure (a, b)
  | some bytes => do
      let b ← array
      store (some bytes)
      let a ← m
      let filled ← array
      store b
      pure (a, filled)

/-- A method that `LIS` inherits: its code is that of `java.io.InputStream`, which comes to the
stream by the two reads it overrides, `read(b, off, len)` with an array of the method's own or,
`none`, with that of the caller. -/
inductive InputStreamCode (α : Type) where
  | ends (result : Except JavaException α)
  | read (next : Except JavaException ℤ → InputStreamCode α)
  | readRange (own : Option (List UInt8)) (off len : ℤ)
      (next : Except JavaException ℤ → Option (List UInt8) → InputStreamCode α)

/-- The code of the inherited methods, on the memory they are given. -/
abbrev Library := Memory → (method : InputStreamMethod) → InputStreamCode method.Result

def InputStreamCode.run {α : Type} (is : Stream) : InputStreamCode α → Wrapping D α
  | .ends (.ok a) => pure a
  | .ends (.error e) => throw e
  | .read next => do
      let result ← attempt (LIS.read port is)
      (next result).run is
  | .readRange own off len next => do
      let x ← lending own (attempt (LIS.readRange port is off len))
      (next x.1 x.2).run is

def LIS.inherited (library : Library) (is : Stream) (method : InputStreamMethod) :
    Wrapping D method.Result := do
  let s ← get
  (library s.world.memory method).run port is

namespace LOS
variable (os : Stream)

def close : Wrapping D Unit :=
  changing "OS" " close" [] " close" " close:\t" (forward port (.osClose os))

def flush : Wrapping D Unit :=
  logged (log (calling "OS" " flush")) (forward port (.osFlush os)) (fun _ =>
    log LogWriter.afterFlush) (fun e => log (throwing "OS" " flush:\t" e))

/-- The three writes differ in what they print before. -/
def writing (before : Wrapping D Unit) (call : Wrapping D Unit) : Wrapping D Unit :=
  logged before call (fun _ => log LogWriter.afterOsWrite) (fun e =>
    log (LogWriter.afterOsWriteThrown e))

def write (b : ℤ) : Wrapping D Unit :=
  writing (log (LogWriter.beforeOsWriteByte b)) (forward port (.osWrite os b))

def writeArray : Wrapping D Unit :=
  writing (do
    let b ← array
    log (LogWriter.beforeOsWriteArray b)) (forward port (.osWriteArray os))

def writeRange (off len : ℤ) : Wrapping D Unit :=
  writing (do
    let b ← array
    log (LogWriter.beforeOsWriteRange b off len)) (forward port (.osWriteRange os off len))

end LOS

/-- What the wrapper does for an operation of its caller. -/
def perform (library : Library) : (op : Operation) → Wrapping D op.Result
  | .drainOutputBuffer => drainOutputBuffer port
  | .getDatatBits => getDatatBits port
  | .getFlowControl => getFlowControl port
  | .getInBufferBytesCount => getInBufferBytesCount port
  | .getInterByteReadTimeout => getInterByteReadTimeout port
  | .getOutBufferBytesCount => getOutBufferBytesCount port
  | .getOverallReadTimeout => getOverallReadTimeout port
  | .getOverallWriteTimeout => getOverallWriteTimeout port
  | .getParity => getParity port
  | .getPortName => getPortName port
  | .getSpeed => getSpeed port
  | .getStopBits => getStopBits port
  | .getXOFFChar => getXOFFChar port
  | .getXONChar => getXONChar port
  | .isCTS => isCTS port
  | .isDCD => isDCD port
  | .isDSR => isDSR port
  | .isRI => isRI port
  | .sendBreak duration => sendBreak port duration
  | .sendXOFF => sendXOFF port
  | .sendXON => sendXON port
  | .setBreak value => setBreak port value
  | .setDataBits dataBits => setDataBits port dataBits
  | .setDTR value => setDTR port value
  | .setFlowControl flowControls => setFlowControl port flowControls
  | .setParity parity => setParity port parity
  | .setRTS value => setRTS port value
  | .setSpeed speed => setSpeed port speed
  | .setStopBits stopBits => setStopBits port stopBits
  | .setTimeouts interByteReadTimeout overallReadTimeout overallWriteTimeout =>
      setTimeouts port interByteReadTimeout overallReadTimeout overallWriteTimeout
  | .setXOFFChar c => setXOFFChar port c
  | .setXONChar c => setXONChar port c
  | .getInputStream => getInputStream port
  | .getOutputStream => getOutputStream port
  | .isOpen => isOpen port
  | .close => close port
  | .read => read port
  | .write => write port
  | .isAvailable is => LIS.available port is
  | .isClose is => LIS.close port is
  | .isRead is => LIS.read port is
  | .isReadArray is => LIS.readArray port is
  | .isReadRange is off len => LIS.readRange port is off len
  | .isInherited is method => LIS.inherited port library is method
  | .osClose os => LOS.close port os
  | .osFlush os => LOS.flush port os
  | .osWrite os b => LOS.write port os b
  | .osWriteArray os => LOS.writeArray port os
  | .osWriteRange os off len => LOS.writeRange port os off len

end Operations
end Spsw.Logging

import Spsw.Api.SerialPortSocket

/-!
# `LogWriter`

What is printed before and after each call. The print stream is given its items one by
one; how it spells out a time, a value or a stack trace is left to it. Nothing that is
printed is read again, but an array is read for it.
-/
namespace Spsw.Logging

/-- In nanoseconds. -/
abbrev Instant := ℤ

inductive TimeStampLogging where
  | NONE
  | FROM_OPEN
  | UTC
  deriving DecidableEq, Repr

/-- What the print stream is given. -/
inductive Item where
  | text (s : String)
  | newline
  | instant (t : Instant)
  | duration (d : ℤ)
  | int (value : ℤ)
  | bool (value : Bool)
  | char (value : BitVec 16)
  | speed (value : Option Speed)
  | dataBits (value : Option DataBits)
  | stopBits (value : Option StopBits)
  | parity (value : Option Parity)
  | flowControl (value : Option (Finset FlowControl))
  | byte (b : UInt8)
  | hex (b : UInt8)
  | thrown (e : JavaException)
  | stackTrace (e : JavaException)
  deriving DecidableEq

/-- `instants` are the results of `Instant.now()`, of which `ticks` have been used. -/
structure LogWriter where
  ascii : Bool
  verbose : Bool
  timeStampLogging : TimeStampLogging
  baseTimeStamp : Instant
  isReadStartTS : Option Instant
  channelReadStartTS : Option Instant
  osWriteStartTS : Option Instant
  channelWriteStartTS : Option Instant
  log : List Item
  instants : ℕ → Instant
  ticks : ℕ

abbrev Writing (α : Type) := EStateM JavaException LogWriter α

namespace LogWriter

def ACION_CALL : String := "\tcall"

def ACION_RETURN : String := "\treturn"

def formatTs (w : LogWriter) (ts : Instant) : List Item :=
  match w.timeStampLogging with
  | .NONE => []
  | .FROM_OPEN => [.text "@", .duration (ts - w.baseTimeStamp), .text "\t"]
  | .UTC => [.text "@", .instant ts, .text "\t"]

def now : Writing Instant :=
  modifyGet fun w => (w.instants w.ticks, { w with ticks := w.ticks + 1 })

def append (items : List Item) : Writing Unit := modify fun w => { w with log := w.log ++ items }

/-- The beginning of a line. -/
def appendPrefix (ts : Instant) (source action name : String) : Writing Unit := do
  let w ← get
  append (w.formatTs ts ++ [.text source, .text action, .text name])

/-- Most calls are logged only by a verbose writer, -/
def calling (source name : String) : Writing Unit := do
  let ts ← now
  let w ← get
  if w.verbose = true then do
    appendPrefix ts source ACION_CALL name
    append [.newline]
  else pure ()

/-- those that change something by every writer, with their arguments. -/
def announcing (source name : String) (arguments : List Item) : Writing Unit := do
  let ts ← now
  appendPrefix ts source ACION_CALL name
  append (arguments ++ [.newline])

def returning (source name : String) (result : List Item) : Writing Unit := do
  let ts ← now
  let w ← get
  if w.verbose = true then do
    appendPrefix ts source ACION_RETURN name
    append (result ++ [.newline])
  else pure ()

def throwing (source name : String) (e : JavaException) : Writing Unit := do
  let ts ← now
  appendPrefix ts source ACION_RETURN name
  append [.thrown e, .newline, .stackTrace e]

/-- `afterFlush` prints the time twice. -/
def afterFlush : Writing Unit := do
  let ts ← now
  let w ← get
  if w.verbose = true then do
    appendPrefix ts "OS" ACION_RETURN " flush"
    append (w.formatTs ts ++ [.newline])
  else pure ()

/-- `(char) b` is negative for no byte that has an escape. -/
def escaped (b : UInt8) : List Item :=
  if b = 12 then [.text "\\f"]
  else if b = 8 then [.text "\\b"]
  else if b = 10 then [.text "\\n"]
  else if b = 13 then [.text "\\r"]
  else if b = 9 then [.text "\\t"]
  else if b = 39 then [.text "\\'"]
  else if b = 34 then [.text "\\\""]
  else if b = 92 then [.text "\\"]
  else [.byte b]

def appendByte (b : UInt8) : Writing Unit := do
  let w ← get
  append (if w.ascii = true then escaped b else [.hex b])

/-- `b[i]` -/
def element (b : Option (List UInt8)) (i : ℤ) : Writing UInt8 :=
  match b with
  | none => throw .nullPointerException
  | some bytes => if i < 0 then throw .indexOutOfBoundsException
      else match bytes[i.toNat]? with
        | some byte => pure byte
        | none => throw .indexOutOfBoundsException

/-- `n` elements of the array, from `off` on. -/
def appendElements (b : Option (List UInt8)) (off : ℤ) : ℕ → Writing Unit
  | 0 => pure ()
  | n + 1 => do
      let byte ← element b off
      appendByte byte
      appendElements b (off + 1) n

def appendBytes : List UInt8 → Writing Unit
  | [] => pure ()
  | b :: bytes => do
      appendByte b
      appendBytes bytes

/-- `Duration.between(start, ts)` -/
def durationSince (start : Option Instant) (ts : Instant) : Writing ℤ :=
  match start with
  | some start => pure (ts - start)
  | none => throw .nullPointerException

/-- The end of a line, with the duration of the call if times are logged and it took any. -/
def appendDuration (start : Option Instant) (ts : Instant) (short long tail : List Item) :
    Writing Unit := do
  let w ← get
  if w.timeStampLogging ≠ .NONE then do
    let d ← durationSince start ts
    if d = 0 then append short else append (long ++ [.duration d] ++ tail)
  else append short

def beforeIsRead : Writing Unit := do
  let ts ← now
  modify fun w => { w with isReadStartTS := some ts }
  let w ← get
  if w.verbose = true then do
    appendPrefix ts "IS" ACION_CALL " read"
    append [.newline]
  else pure ()

def afterIsRead (bytes : Writing Unit) : Writing Unit := do
  let ts ← now
  appendPrefix ts "IS" ACION_RETURN " read:\t\""
  bytes
  let w ← get
  appendDuration w.isReadStartTS ts [.text "\""] [.text "\"\tduration: "] [.newline]
  append [.newline]

/-- `afterIsRead(ts, b)` -/
def afterIsReadByte (b : ℤ) : Writing Unit :=
  afterIsRead (if 0 ≤ b then appendByte (b % 256).toNat.toUInt8 else pure ())

/-- `afterIsRead(ts, readLength, b, off)` -/
def afterIsReadArray (readLength : ℤ) (b : Option (List UInt8)) (off : ℤ) : Writing Unit :=
  afterIsRead (appendElements b off readLength.toNat)

def afterIsReadThrown (e : JavaException) : Writing Unit := do
  let ts ← now
  appendPrefix ts "IS" ACION_RETURN " read:\t"
  append [.thrown e]
  let w ← get
  appendDuration w.isReadStartTS ts [.newline] [.text "\"\tduration: "] [.newline]
  append [.stackTrace e]

def beforeChannelRead : Writing Unit := do
  let ts ← now
  modify fun w => { w with channelReadStartTS := some ts }
  let w ← get
  if w.verbose = true then do
    appendPrefix ts "CH" ACION_CALL " read"
    append [.newline]
  else pure ()

def afterChannelRead (buffer : ByteBuffer) (position : ℕ) : Writing Unit := do
  let ts ← now
  appendPrefix ts "CH" ACION_RETURN " read:\t\""
  appendBytes ((buffer.bytes.take buffer.position).drop position)
  let w ← get
  appendDuration w.channelReadStartTS ts [.text "\""] [.text "\"\tduration: "] []
  append [.newline]

def positions (buff : ByteBuffer) : List Item :=
  [.text "buff.position=", .int buff.position, .text ", buff.remaining=",
    .int buff.remaining, .text "\t"]

def afterChannelReadThrown (buff : ByteBuffer) (e : JavaException) : Writing Unit := do
  let ts ← now
  appendPrefix ts "CH" ACION_RETURN " read: "
  append (positions buff ++ [.thrown e])
  let w ← get
  appendDuration w.channelReadStartTS ts [.newline] [.text "\"\tduration: "] [.newline]
  append [.stackTrace e]

def beforeOsWrite (bytes : Writing Unit) : Writing Unit := do
  let ts ← now
  appendPrefix ts "OS" ACION_CALL " write:\t\""
  modify fun w => { w with osWriteStartTS := some ts }
  bytes
  append [.text "\"", .newline]

/-- `beforeOsWrite(ts, b)` -/
def beforeOsWriteByte (b : ℤ) : Writing Unit := beforeOsWrite (appendByte (b % 256).toNat.toUInt8)

/-- `beforeOsWrite(ts, b)` of an array -/
def beforeOsWriteArray (b : Option (List UInt8)) : Writing Unit :=
  beforeOsWrite (match b with
    | none => throw .nullPointerException
    | some bytes => appendBytes bytes)

/-- `beforeOsWrite(ts, b, offset, len)` -/
def beforeOsWriteRange (b : Option (List UInt8)) (offset len : ℤ) : Writing Unit :=
  beforeOsWrite (appendElements b offset len.toNat)

def afterOsWrite : Writing Unit := do
  let ts ← now
  let w ← get
  if w.verbose = true then do
    appendPrefix ts "OS" ACION_RETURN " write"
    appendDuration w.osWriteStartTS ts [] [.text "\tduration: "] []
    append [.newline]
  else pure ()

def afterOsWriteThrown (e : JavaException) : Writing Unit := do
  let ts ← now
  let w ← get
  if w.verbose = true then do
    appendPrefix ts "OS" ACION_RETURN " write:\t"
    append [.thrown e]
    appendDuration w.osWriteStartTS ts [.newline] [.text "\"\tduration: "] [.newline]
    append [.stackTrace e]
  else pure ()

def beforeChannelWrite (buffer : ByteBuffer) : Writing Unit := do
  let ts ← now
  appendPrefix ts "CH" ACION_CALL " write:\t\""
  modify fun w => { w with channelWriteStartTS := some ts }
  appendBytes buffer.pending
  append [.text "\"", .newline]

def afterChannelWrite : Writing Unit := do
  let ts ← now
  let w ← get
  if w.verbose = true then do
    appendPrefix ts "CH" ACION_RETURN " write"
    appendDuration w.channelWriteStartTS ts [] [.text "\tduration: "] []
    append [.newline]
  else pure ()

def afterChannelWriteThrown (buff : ByteBuffer) (e : JavaException) : Writing Unit := do
  let ts ← now
  let w ← get
  if w.verbose = true then do
    appendPrefix ts "CH" ACION_RETURN " write: "
    append (positions buff ++ [.thrown e])
    appendDuration w.channelWriteStartTS ts [.newline] [.text "\"\tduration: "] [.newline]
    append [.stackTrace e]
  else pure ()

end LogWriter
end Spsw.Logging

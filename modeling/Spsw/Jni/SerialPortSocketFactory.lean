import Spsw.Api.PortnamesSort
import Spsw.Patterns.Find

/-!
# The port listings of `SerialPortSocketFactoryImpl`

What the listings find on the system is given: the values in the registry, what the
filter of `listFiles` is called with, and what opening and closing a port does. The
native library is loaded.
-/
namespace Spsw.Jni.SerialPortSocketFactoryImpl
open PortnamesComparator Patterns

/-- The systems that the `switch` statements name, and all others. -/
inductive OS where
  | DARWIN
  | FREE_BSD
  | LINUX
  | OPEN_BSD
  | SOLARIS
  | WINDOWS
  | other (name : String)
  deriving DecidableEq

def OS.name : OS → String
  | .DARWIN => "DARWIN"
  | .FREE_BSD => "FREE_BSD"
  | .LINUX => "LINUX"
  | .OPEN_BSD => "OPEN_BSD"
  | .SOLARIS => "SOLARIS"
  | .WINDOWS => "WINDOWS"
  | .other name => name

/-- The code units of an ASCII text. -/
def units (text : String) : List UInt16 := text.toList.map fun c => c.val.toUInt16

section Patterns

/-- One of the texts. -/
def oneOf : List String → Pattern UInt16
  | [] => fun _ => []
  | text :: texts => alt (word (units text)) (oneOf texts)

/-- `[0-9]`. -/
def digit : Pattern UInt16 := one fun c => decide (48 ≤ c ∧ c ≤ 57)

/-- `[a-z]`. -/
def letter : Pattern UInt16 := one fun c => decide (97 ≤ c ∧ c ≤ 122)

def isHighSurrogate (c : UInt16) : Bool := decide (0xD800 ≤ c ∧ c ≤ 0xDBFF)

def isLowSurrogate (c : UInt16) : Bool := decide (0xDC00 ≤ c ∧ c ≤ 0xDFFF)

/-- `\n`, `\r`, and the three further ends of a line. -/
def isLineTerminator (c : UInt16) : Bool :=
  decide (c = 10 ∨ c = 13 ∨ c = 0x85 ∨ c = 0x2028 ∨ c = 0x2029)

/-- `.`; a surrogate pair is one character. -/
def dot : Pattern UInt16
  | [] => []
  | [c] => if isLineTerminator c = true then [] else [[]]
  | c :: d :: rest =>
      if isHighSurrogate c = true ∧ isLowSurrogate d = true then [rest]
      else if isLineTerminator c = true then [] else [d :: rest]

end Patterns

section Defaults

def DEFAULT_DARWIN_DEVICE_PATH : List UInt16 := units "/dev/"

/-- `tty.(serial|usbserial|usbmodem).*` -/
def DEFAULT_DARWIN_PORTNAME_PATTERN : Pattern UInt16 :=
  seq (word (units "tty")) (seq dot (seq (oneOf ["serial", "usbserial", "usbmodem"]) (star dot)))

def DEFAULT_FREE_BSD_DEVICE_PATH : List UInt16 := units "/dev/"

/-- `(cua|cuaU)[0-9]{1,3}` -/
def DEFAULT_FREE_BSD_PORTNAME_PATTERN : Pattern UInt16 :=
  seq (oneOf ["cua", "cuaU"]) (between digit 1 3)

def DEFAULT_OPEN_BSD_DEVICE_PATH : List UInt16 := units "/dev/"

/-- `(cua|cuaU)[0-9]{1,3}` -/
def DEFAULT_OPEN_BSD_PORTNAME_PATTERN : Pattern UInt16 :=
  seq (oneOf ["cua", "cuaU"]) (between digit 1 3)

def DEFAULT_LINUX_DEVICE_PATH : List UInt16 := units "/dev/"

/-- `(ttyS|ttyUSB|ttyACM|ttyAMA|rfcomm|ttyO)[0-9]{1,3}` -/
def DEFAULT_LINUX_PORTNAME_PATTERN : Pattern UInt16 :=
  seq (oneOf ["ttyS", "ttyUSB", "ttyACM", "ttyAMA", "rfcomm", "ttyO"]) (between digit 1 3)

def DEFAULT_SUNOS_DEVICE_PATH : List UInt16 := units "/dev/term/"

/-- `[0-9]*|[a-z]*` -/
def DEFAULT_SUNOS_PORTNAME_PATTERN : Pattern UInt16 := alt (star digit) (star letter)

def DEFAULT_WINDOWS_DEVICE_PATH : List UInt16 := units ""

/-- `(COM)[0-9]{1,3}` -/
def DEFAULT_WINDOWS_PORTNAME_PATTERN : Pattern UInt16 :=
  seq (word (units "COM")) (between digit 1 3)

/-- `none` is `null`. -/
def getPortnamesPath : OS → Option (List UInt16)
  | .DARWIN => some DEFAULT_DARWIN_DEVICE_PATH
  | .FREE_BSD => some DEFAULT_FREE_BSD_DEVICE_PATH
  | .LINUX => some DEFAULT_LINUX_DEVICE_PATH
  | .OPEN_BSD => some DEFAULT_OPEN_BSD_DEVICE_PATH
  | .SOLARIS => some DEFAULT_SUNOS_DEVICE_PATH
  | .WINDOWS => some DEFAULT_WINDOWS_DEVICE_PATH
  | .other _ => none

def getPortnamesRegExp : OS → Option (Pattern UInt16)
  | .DARWIN => some DEFAULT_DARWIN_PORTNAME_PATTERN
  | .FREE_BSD => some DEFAULT_FREE_BSD_PORTNAME_PATTERN
  | .LINUX => some DEFAULT_LINUX_PORTNAME_PATTERN
  | .OPEN_BSD => some DEFAULT_OPEN_BSD_PORTNAME_PATTERN
  | .SOLARIS => some DEFAULT_SUNOS_PORTNAME_PATTERN
  | .WINDOWS => some DEFAULT_WINDOWS_PORTNAME_PATTERN
  | .other _ => none

end Defaults

/-- What a name in a directory stands for. -/
inductive Kind where
  | directory
  | file
  | neither
  deriving DecidableEq

/-- A name that the filter of `listFiles` is called with; `parent` is what absolute
paths of this directory begin with. -/
structure Entry (parent : List UInt16) where
  name : List UInt16
  kind : Kind
  bound : (parent ++ name).length < 2 ^ 31

namespace Entry
variable {parent : List UInt16}

def isDirectory (entry : Entry parent) : Bool := decide (entry.kind = .directory)

def isFile (entry : Entry parent) : Bool := decide (entry.kind = .file)

def getAbsolutePath (entry : Entry parent) : JavaString := ⟨parent ++ entry.name, entry.bound⟩

end Entry

/-- An open port, of which only `close()` is called. -/
structure Socket where
  close : Except JavaException Unit

/-- The device paths end in a separator; below the empty path, names are those of the
root of the current drive. -/
def parentOf (os : OS) (drive : List UInt16) : List UInt16 :=
  match getPortnamesPath os with
  | some (c :: path) => c :: path
  | _ => drive

structure System where
  os : OS
  /-- What the native `getWindowsBasedPortNames` adds to the list. -/
  registry : List JavaString
  drive : List UInt16
  /-- What the filter is called with on `getPortnamesPath()`; nothing, if this is no directory. -/
  listing : List (Entry (parentOf os drive))
  distinct : (listing.map Entry.name).Nodup
  /-- The constructor of the socket class of the system. -/
  socket : JavaString → Except JavaException Socket

namespace System
variable (s : System)

/-- `open(portName)`; `UnsupportedOperationException` as the `RuntimeException` it is. -/
def openPort (portName : JavaString) : Except JavaException Socket :=
  match s.os with
  | .DARWIN | .FREE_BSD | .LINUX | .OPEN_BSD | .WINDOWS => s.socket portName
  | os => .error (.runtimeException
      (os.name ++ " is currently not supported yet\nSystem.properties:\n"))

/-- `try (SerialPortSocket sp = open(portName)) { body } catch (IOException ex) { handler }`; the
port is closed between both. -/
def tryOpen {σ : Type} (portName : JavaString) (body handler : σ → σ) (x : σ) :
    Except JavaException σ :=
  match s.openPort portName with
  | .ok sp =>
      match sp.close with
      | .ok () => .ok (body x)
      | .error ex => if ex.isIOException = true then .ok (handler (body x)) else .error ex
  | .error ex => if ex.isIOException = true then .ok (handler x) else .error ex

/-- The pass of the loop in `getWindowsPortNames`, with the names before that were not removed. -/
def windowsPass (pattern : Pattern UInt16) (portToInclude : JavaString) (hideBusyPorts : Bool)
    (kept : List JavaString) (portName : JavaString) : Except JavaException (List JavaString) := do
  let removed ←
    if find pattern portName.value = true ∧ hideBusyPorts = true then
      s.tryOpen portName id
        (fun removed => if portName.value ≠ portToInclude.value then true else removed) false
    else pure false
  pure (if removed = true then kept else kept ++ [portName])

/-- The pattern is that of Windows, where alone this is called. -/
def getWindowsPortNames (isDigit : UInt16 → Bool) (portToInclude : JavaString)
    (hideBusyPorts : Bool) :
    Except JavaException (List JavaString) :=
  match getPortnamesRegExp s.os with
  | some pattern => do
      let result ← s.registry.foldlM (s.windowsPass pattern portToInclude hideBusyPorts) []
      pure (sort isDigit result)
  | none => .error .nullPointerException

/-- The filter in `getUnixBasedPortNames`, with the result so far. -/
def unixPass (pattern : Pattern UInt16) (portToInclude : JavaString) (hideBusyPorts : Bool)
    (result : List JavaString) (entry : Entry (parentOf s.os s.drive)) :
    Except JavaException (List JavaString) :=
  if find pattern entry.name = true then
    let deviceName := entry.getAbsolutePath
    if !entry.isDirectory && !entry.isFile then
      if hideBusyPorts = true then
        s.tryOpen deviceName (fun result => result ++ [deviceName])
          (fun result =>
            if portToInclude.value ≠ [] ∧ portToInclude.value = deviceName.value then
              result ++ [deviceName]
            else result) result
      else pure (result ++ [deviceName])
    else pure result
  else pure result

def getUnixBasedPortNames (isDigit : UInt16 → Bool) (portToInclude : JavaString)
    (hideBusyPorts : Bool) :
    Except JavaException (List JavaString) :=
  match getPortnamesPath s.os, getPortnamesRegExp s.os with
  | some _, some pattern => do
      let result ← s.listing.foldlM (s.unixPass pattern portToInclude hideBusyPorts) []
      pure (sort isDigit result)
  | _, _ => .error .nullPointerException

/-- `""`. -/
def empty : JavaString := ⟨[], by decide⟩

/-- `getPortNames(hideBusyPorts)`. -/
def getPortNames (isDigit : UInt16 → Bool) (hideBusyPorts : Bool) :
    Except JavaException (List JavaString) :=
  if s.os = .WINDOWS then s.getWindowsPortNames isDigit empty hideBusyPorts
  else s.getUnixBasedPortNames isDigit empty hideBusyPorts

/-- `getPortNames(portToInclude, hideBusyPorts)`; `none` is `null`. -/
def getPortNamesWith (isDigit : UInt16 → Bool) (portToInclude : Option JavaString)
    (hideBusyPorts : Bool) :
    Except JavaException (List JavaString) :=
  match portToInclude with
  | none => .error (.illegalArgumentException "portToInclude is null or empty")
  | some portToInclude =>
      if portToInclude.value = [] then
        .error (.illegalArgumentException "portToInclude is null or empty")
      else if s.os = .WINDOWS then s.getWindowsPortNames isDigit portToInclude hideBusyPorts
      else s.getUnixBasedPortNames isDigit portToInclude hideBusyPorts

/-- Opens the port and calls `portNameConsumer` with its name and whether it is busy. -/
def visit (visits : List (JavaString × Bool)) (portName : JavaString) :
    Except JavaException (List (JavaString × Bool)) := do
  let busy ← s.tryOpen portName (fun _ => false) id true
  pure (visits ++ [(portName, busy)])

def windowsVisit (pattern : Pattern UInt16) (visits : List (JavaString × Bool))
    (portName : JavaString) :
    Except JavaException (List (JavaString × Bool)) :=
  if find pattern portName.value = true then s.visit visits portName else pure visits

def unixVisit (pattern : Pattern UInt16) (visits : List (JavaString × Bool))
    (entry : Entry (parentOf s.os s.drive)) : Except JavaException (List (JavaString × Bool)) :=
  if find pattern entry.name = true then
    let deviceName := entry.getAbsolutePath
    if !entry.isDirectory && !entry.isFile then s.visit visits deviceName else pure visits
  else pure visits

/-- `getPortNames(portNameConsumer)`, with what the consumer was called with. -/
def getPortNamesConsumer : Except JavaException (List (JavaString × Bool)) :=
  match getPortnamesPath s.os, getPortnamesRegExp s.os with
  | some _, some pattern => do
      let visits ← if s.os = .WINDOWS then s.registry.foldlM (s.windowsVisit pattern) []
        else pure []
      -- no `break` ends the case of Windows
      s.listing.foldlM (s.unixVisit pattern) visits
  | _, _ => .error .nullPointerException

end System
end Spsw.Jni.SerialPortSocketFactoryImpl

import Spsw.Jnhw.PosixConfiguration

/-!
# `GenericWinSerialPortSocket`

The settings of a port on Windows are fields of a `DCB`. `setParams` alters the one
it got and hands it to the driver, which decides what is stored; the complaints at
its end come from the `DCB` that was handed over.
-/
namespace Spsw.Jnhw
open JavaException (illegalArgumentException ioException)
open Stateful

/-- The fields that hold the settings. -/
structure DCB where
  BaudRate : UInt32
  ByteSize : UInt8
  StopBits : UInt8
  Parity : UInt8
  fRtsControl : Fin 4
  fOutxCtsFlow : Bool
  fOutX : Bool
  fInX : Bool
  deriving DecidableEq, Repr

def ONESTOPBIT : UInt8 := 0
def ONE5STOPBITS : UInt8 := 1
def TWOSTOPBITS : UInt8 := 2

def RTS_CONTROL_DISABLE : Fin 4 := 0
def RTS_CONTROL_HANDSHAKE : Fin 4 := 2

/-- `NOPARITY`, `ODDPARITY`, `EVENPARITY`, `MARKPARITY` and `SPACEPARITY` -/
def PARITY : Parity → UInt8
  | .NONE => 0
  | .ODD => 1
  | .EVEN => 2
  | .MARK => 3
  | .SPACE => 4

def ERROR_INVALID_HANDLE : ℕ := 6
def ERROR_GEN_FAILURE : ℕ := 31
def ERROR_INVALID_PARAMETER : ℕ := 87

def INVALID_HANDLE_VALUE : ℤ := -1

/-- What is stored and the error reported, from the current and the given `DCB`. -/
abbrev CommDriver := DCB → DCB → DCB × Option ℕ

/-- The `DCB` of the device behind each open handle. -/
abbrev CommStates := ℤ → Option DCB

abbrev Commanding (α : Type) := EStateM JavaException CommStates α

def GetCommState (hFile : ℤ) : Commanding (Except ℕ DCB) := do
  let states ← get
  match states hFile with
  | some dcb => pure (.ok dcb)
  | none => pure (.error ERROR_INVALID_HANDLE)

def SetCommState (driver : CommDriver) (hFile : ℤ) (dcb : DCB) : Commanding (Except ℕ Unit) := do
  let states ← get
  match states hFile with
  | some current => do
      set (Function.update states hFile (some (driver current dcb).1))
      match (driver current dcb).2 with
      | none => pure (.ok ())
      | some errno => pure (.error errno)
  | none => pure (.error ERROR_INVALID_HANDLE)

/-- The outcome of a computation that leaves the handles alone. -/
def settled {α : Type} : Except JavaException α → Commanding α
  | .ok a => pure a
  | .error e => throw e

namespace DCB
variable (dcb : DCB)

def getDatatBits : Except JavaException DataBits :=
  if dcb.ByteSize = 5 then .ok .DB_5
  else if dcb.ByteSize = 6 then .ok .DB_6
  else if dcb.ByteSize = 7 then .ok .DB_7
  else if dcb.ByteSize = 8 then .ok .DB_8
  else .error (illegalArgumentException "getDataBits Unknown databits")

def getFlowControl : Finset FlowControl :=
  (if dcb.fRtsControl = RTS_CONTROL_HANDSHAKE then {.RTS_CTS_IN} else ∅) ∪
    (if dcb.fOutxCtsFlow = true then {.RTS_CTS_OUT} else ∅) ∪
    (if dcb.fInX = true then {.XON_XOFF_IN} else ∅) ∪
    (if dcb.fOutX = true then {.XON_XOFF_OUT} else ∅)

def getParity : Except JavaException Spsw.Parity :=
  match Spsw.Parity.values.find? fun parity => dcb.Parity = PARITY parity with
  | some parity => .ok parity
  | none => .error (illegalArgumentException "getParity unknown Parity")

def getSpeed : Except JavaException Speed :=
  match Speed.values.find? fun speed => dcb.BaudRate = UInt32.ofNat speed.value with
  | some speed => .ok speed
  | none => .error (illegalArgumentException "getSpeed Speed not supported")

def getStopBits : Except JavaException Spsw.StopBits :=
  if dcb.StopBits = ONESTOPBIT then .ok .SB_1
  else if dcb.StopBits = ONE5STOPBITS then .ok .SB_1_5
  else if dcb.StopBits = TWOSTOPBITS then .ok .SB_2
  else .error (illegalArgumentException "getStopBits Unknown stopbits")

def setSpeed : Option Speed → DCB
  | none => dcb
  | some speed => { dcb with BaudRate := UInt32.ofNat speed.value }

/-- The stop bits are fixed along with the data bits. -/
def setDataBits : Option DataBits → DCB
  | none => dcb
  | some .DB_5 => { dcb with
      ByteSize := UInt8.ofNat (DataBits.value .DB_5)
      StopBits := if dcb.StopBits = TWOSTOPBITS then ONE5STOPBITS else dcb.StopBits }
  | some dataBits => { dcb with
      ByteSize := UInt8.ofNat dataBits.value
      StopBits := if dcb.StopBits = ONE5STOPBITS then TWOSTOPBITS else dcb.StopBits }

def setStopBits : Option Spsw.StopBits → Except JavaException DCB
  | none => .ok dcb
  | some .SB_1 => .ok { dcb with StopBits := ONESTOPBIT }
  | some .SB_1_5 =>
      if dcb.ByteSize = 5 then .ok { dcb with StopBits := ONE5STOPBITS }
      else .error (illegalArgumentException
        "setParams setStopBits to 1.5: only for 5 dataBits 1.5 stoppbits are supported")
  | some .SB_2 =>
      if dcb.ByteSize = 5 then .error (illegalArgumentException
        "setParams setStopBits to 2: 5 dataBits only 1.5 stoppbits are supported")
      else .ok { dcb with StopBits := TWOSTOPBITS }

def setParity : Option Spsw.Parity → DCB
  | none => dcb
  | some parity => { dcb with Parity := PARITY parity }

/-- Each direction has a field of its own. -/
def setFlowControl : Option (Finset FlowControl) → DCB
  | none => dcb
  | some flowControls => { dcb with
      fRtsControl := if .RTS_CTS_IN ∈ flowControls then RTS_CONTROL_HANDSHAKE else RTS_CONTROL_DISABLE
      fOutxCtsFlow := decide (.RTS_CTS_OUT ∈ flowControls)
      fInX := decide (.XON_XOFF_IN ∈ flowControls)
      fOutX := decide (.XON_XOFF_OUT ∈ flowControls) }

/-- The `DCB` that `setParams` hands to `SetCommState`. -/
def alter (r : Params) : Except JavaException DCB := do
  let dcb ← ((dcb.setSpeed r.speed).setDataBits r.dataBits).setStopBits r.stopBits
  pure ((dcb.setParity r.parity).setFlowControl r.flowControls)

/-- The complaint about a parameter that reads other than requested. -/
def complaint {α : Type} [DecidableEq α] (message : String) (requested : Option α)
    (reading : Except JavaException α) : Except JavaException String :=
  match requested with
  | none => .ok ""
  | some a => do
      let read ← reading
      if read = a then pure "" else pure message

/-- The checks at the end of `setParams`. -/
def verify (r : Params) : Except JavaException Unit := do
  let speed ← complaint "Could not set speed!\n" r.speed dcb.getSpeed
  let dataBits ← complaint "Could not set dataBits!\n" r.dataBits dcb.getDatatBits
  let stopBits ← complaint "Could not set stopBits!\n" r.stopBits dcb.getStopBits
  let parity ← complaint "Could not set parity!\n" r.parity dcb.getParity
  let flowControls ← complaint "Could not set flowControl!" r.flowControls (.ok dcb.getFlowControl)
  let errorMsgs := speed ++ dataBits ++ stopBits ++ parity ++ flowControls
  if errorMsgs = "" then pure () else throw (illegalArgumentException errorMsgs)

end DCB

structure GenericWinSerialPortSocket where
  portName : String
  hFile : ℤ
  deriving DecidableEq, Repr

namespace GenericWinSerialPortSocket
variable (driver : CommDriver) (w : GenericWinSerialPortSocket)

def createClosedOrNativeException (errno : ℕ) (text : String) : JavaException :=
  if w.hFile ≠ INVALID_HANDLE_VALUE then
    ioException ("Native port error on " ++ w.portName ++ ", \"" ++ toString errno ++ "\" " ++ text)
  else ioException PORT_IS_CLOSED

def getDCB : Commanding DCB := do
  let result ← GetCommState w.hFile
  match result with
  | .ok dcb => pure dcb
  | .error errno =>
      throw (w.createClosedOrNativeException errno ("GetCommState (" ++ w.portName ++ ")"))

def getDatatBits : Commanding DataBits := do
  let dcb ← w.getDCB
  settled dcb.getDatatBits

def getFlowControl : Commanding (Finset FlowControl) := do
  let dcb ← w.getDCB
  pure dcb.getFlowControl

def getParity : Commanding Parity := do
  let dcb ← w.getDCB
  settled dcb.getParity

def getSpeed : Commanding Speed := do
  let dcb ← w.getDCB
  settled dcb.getSpeed

def getStopBits : Commanding StopBits := do
  let dcb ← w.getDCB
  settled dcb.getStopBits

/-- What is thrown for an error of `SetCommState`. -/
def setCommStateException (errno : ℕ) : JavaException :=
  if errno = ERROR_INVALID_PARAMETER then illegalArgumentException
    "setParams: Wrong params\n GetLastError() == ERROR_INVALID_PARAMETER"
  else if errno = ERROR_GEN_FAILURE then illegalArgumentException
    "setParams: Wrong params\n GetLastError() == ERROR_GEN_FAILURE"
  else w.createClosedOrNativeException errno "setParams SetCommState"

/-- `setParams` on a `DCB` already read; the one read back is not looked at. -/
def setParamsOn (dcb : DCB) (r : Params) : Commanding Unit := do
  let dcb ← settled (dcb.alter r)
  let result ← SetCommState driver w.hFile dcb
  match result with
  | .error errno => throw (w.setCommStateException errno)
  | .ok () => do
      let _readed ← w.getDCB
      settled (dcb.verify r)

def setParams (r : Params) : Commanding Unit := do
  let dcb ← w.getDCB
  w.setParamsOn driver dcb r

def setSpeed (speed : Speed) : Commanding Unit := w.setParams driver { speed := some speed }

def setDataBits (dataBits : DataBits) : Commanding Unit :=
  w.setParams driver { dataBits := some dataBits }

def setStopBits (stopBits : StopBits) : Commanding Unit :=
  w.setParams driver { stopBits := some stopBits }

def setParity (parity : Parity) : Commanding Unit := w.setParams driver { parity := some parity }

def setFlowControl (flowControls : Finset FlowControl) : Commanding Unit :=
  w.setParams driver { flowControls := some flowControls }

end GenericWinSerialPortSocket
end Spsw.Jnhw

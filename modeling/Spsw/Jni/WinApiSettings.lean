import Spsw.Jnhw.WinSetParams
import Spsw.Jni.TermiosSettings

/-!
# `WinApiSettings.c`

On Windows the native library reads the settings of a device out of its `DCB` into a
bit set, and alters, stores and checks the `DCB` by one. The check reads the `DCB` of
the device again.
-/
namespace Spsw.Jni
open Jnhw
open JavaException (illegalArgumentException ioException)
open Stateful

/-- The fields `portName` and `fd`. -/
structure WinSocket where
  portName : String
  fd : ℤ
  deriving DecidableEq, Repr

namespace WinSocket
variable (n : WinSocket)

/-- What `throw_IOException_NativeError` throws. -/
def nativeError (errno : ℕ) (msg : String) : JavaException :=
  ioException (msg ++ ": Unknown port error " ++ toString errno)

/-- What `throw_ClosedOrNativeException` throws. -/
def closedOrNative (errno : ℕ) (message : String) : JavaException :=
  if n.fd = INVALID_HANDLE_VALUE then ioException PORT_IS_CLOSED else nativeError errno message

end WinSocket

namespace WinApiSettings

def DCB_BaudrateToSpswSpeed (speed : UInt32) : Except JavaException (BitVec 32) :=
  match Speed.values.find? fun s => speed = UInt32.ofNat s.value with
  | some s => .ok (SPEED s)
  | none => .error (illegalArgumentException "Speed not supported")

def setDCB_Baudrate (speed : BitVec 32) (dcb : DCB) : Except JavaException DCB :=
  match select Speed.values SPEED speed with
  | some s => .ok { dcb with BaudRate := UInt32.ofNat s.value }
  | none => .error (illegalArgumentException "Speed not supported")

/-! `getParams`, field by field. -/
section GetParams
variable (dcb : DCB)

def getDataBitsBits : Except JavaException (BitVec 32) :=
  match DataBits.values.find? fun dataBits => dcb.ByteSize = UInt8.ofNat dataBits.value with
  | some dataBits => .ok (DATA_BITS dataBits)
  | none => .error (illegalArgumentException "getParams Unknown databits")

def getStopBitsBits : Except JavaException (BitVec 32) :=
  match StopBits.values.find? fun stopBits => dcb.StopBits = STOPBITS stopBits with
  | some stopBits => .ok (STOP_BITS stopBits)
  | none => .error (illegalArgumentException "getParams Unknown stopbits")

def getParityBits : Except JavaException (BitVec 32) :=
  match Parity.values.find? fun parity => dcb.Parity = Jnhw.PARITY parity with
  | some parity => .ok (PARITY parity)
  | none => .error (illegalArgumentException "getParams unknown Parity")

/-- `result |= flag; result &= ~SPSW_FLOW_CONTROL_NONE;` -/
def addFlowControl (found : Bool) (fc : FlowControl) (result : BitVec 32) : BitVec 32 :=
  if found = true then (result ||| FLOW_CONTROL fc) &&& ~~~FLOW_CONTROL_NONE else result

/-- The flow controls are added to what was found before. -/
def getFlowControlBits (result : BitVec 32) : BitVec 32 :=
  let result := result ||| FLOW_CONTROL_NONE
  let result := addFlowControl (dcb.fRtsControl = RTS_CONTROL_HANDSHAKE) .RTS_CTS_IN result
  let result := addFlowControl dcb.fOutxCtsFlow .RTS_CTS_OUT result
  let result := addFlowControl dcb.fInX .XON_XOFF_IN result
  addFlowControl dcb.fOutX .XON_XOFF_OUT result

/-- A field is read if there are bits under its mask. -/
def readField (paramBitSet mask : BitVec 32) (bits : Except JavaException (BitVec 32)) :
    Except JavaException (BitVec 32) :=
  if paramBitSet &&& mask ≠ 0#32 then bits else .ok 0#32

/-- `getParams` on a `DCB` already read. -/
def getParamsOf (paramBitSet : BitVec 32) : Except JavaException (BitVec 32) := do
  let speed ← readField paramBitSet SPEED_MASK (DCB_BaudrateToSpswSpeed dcb.BaudRate)
  let dataBits ← readField paramBitSet DATA_BITS_MASK (getDataBitsBits dcb)
  let stopBits ← readField paramBitSet STOP_BITS_MASK (getStopBitsBits dcb)
  let parity ← readField paramBitSet PARITY_MASK (getParityBits dcb)
  let result := speed ||| dataBits ||| stopBits ||| parity
  pure (if paramBitSet &&& FLOW_CONTROL_MASK ≠ 0#32 then getFlowControlBits dcb result else result)

end GetParams

/-! `setParams` up to `SetCommState`, parameter by parameter. -/
section SetParams
variable (dcb : DCB) (paramBitSet : BitVec 32)

def setSpeedBits : Except JavaException DCB :=
  if paramBitSet &&& SPEED_MASK = 0#32 then .ok dcb
  else setDCB_Baudrate (paramBitSet &&& SPEED_MASK) dcb

/-- The stop bits are fixed along with the data bits. -/
def setDataBitsBits : Except JavaException DCB :=
  if paramBitSet &&& DATA_BITS_MASK = 0#32 then .ok dcb
  else match select DataBits.values DATA_BITS (paramBitSet &&& DATA_BITS_MASK) with
    | some .DB_5 => .ok { dcb with
        ByteSize := 5
        StopBits := if dcb.StopBits = TWOSTOPBITS then ONE5STOPBITS else dcb.StopBits }
    | some .DB_6 => .ok { dcb with
        ByteSize := 6
        StopBits := if dcb.StopBits = ONE5STOPBITS then TWOSTOPBITS else dcb.StopBits }
    | some .DB_7 => .ok { dcb with
        ByteSize := 7
        StopBits := if dcb.StopBits = ONE5STOPBITS then TWOSTOPBITS else dcb.StopBits }
    | some .DB_8 => .ok { dcb with
        ByteSize := 8
        StopBits := if dcb.StopBits = ONE5STOPBITS then TWOSTOPBITS else dcb.StopBits }
    | none => .error (illegalArgumentException "setParams Wrong databits")

def setStopBitsBits : Except JavaException DCB :=
  if paramBitSet &&& STOP_BITS_MASK = 0#32 then .ok dcb
  else match select StopBits.values STOP_BITS (paramBitSet &&& STOP_BITS_MASK) with
    | some .SB_1 => .ok { dcb with StopBits := ONESTOPBIT }
    | some .SB_1_5 =>
        if dcb.ByteSize = 5 then .ok { dcb with StopBits := ONE5STOPBITS }
        else .error (illegalArgumentException
          "setParams setStopBits to 1.5: only for 5 dataBits 1.5 stoppbits are supported")
    | some .SB_2 =>
        if dcb.ByteSize = 5 then .error (illegalArgumentException
          "setParams setStopBits to 2: 5 dataBits only 1.5 stoppbits are supported")
        else .ok { dcb with StopBits := TWOSTOPBITS }
    | none => .error (illegalArgumentException "setParams Unknown stopbits")

def setParityBits : Except JavaException DCB :=
  if paramBitSet &&& PARITY_MASK = 0#32 then .ok dcb
  else match select Parity.values PARITY (paramBitSet &&& PARITY_MASK) with
    | some parity => .ok { dcb with Parity := Jnhw.PARITY parity }
    | none => .error (illegalArgumentException "setParams Wrong Parity")

def setFlowControlBits : DCB :=
  if paramBitSet &&& FLOW_CONTROL_MASK = 0#32 then dcb
  else if paramBitSet &&& FLOW_CONTROL_NONE ≠ 0#32 then
    { dcb with fRtsControl := RTS_CONTROL_DISABLE, fOutxCtsFlow := false, fOutX := false, fInX := false }
  else { dcb with
    fRtsControl :=
      if flowControlIn paramBitSet .RTS_CTS_IN = true then RTS_CONTROL_HANDSHAKE else RTS_CONTROL_DISABLE
    fOutxCtsFlow := flowControlIn paramBitSet .RTS_CTS_OUT
    fInX := flowControlIn paramBitSet .XON_XOFF_IN
    fOutX := flowControlIn paramBitSet .XON_XOFF_OUT }

/-- The `DCB` that `setParams` hands to `SetCommState`. -/
def alter : Except JavaException DCB := do
  let dcb ← setSpeedBits dcb paramBitSet
  let dcb ← setDataBitsBits dcb paramBitSet
  let dcb ← setStopBitsBits dcb paramBitSet
  let dcb ← setParityBits dcb paramBitSet
  pure (setFlowControlBits dcb paramBitSet)

end SetParams

/-- The check at the end of `setParams`, with the names of `TermiosSettings.c`. -/
def verify (dcb : DCB) (paramBitSet : BitVec 32) : Except JavaException Unit := do
  let paramsRead ← getParamsOf dcb (paramsToRead paramBitSet)
  if paramsRead = paramBitSet then pure ()
  else throw (illegalArgumentException ("Could not set " ++ mismatchName paramsRead paramBitSet ++
    "! NATIVE: paramsRead(" ++ hex0 paramsRead ++ ") != paramBitSet(" ++ hex0 paramBitSet ++ ")"))

end WinApiSettings

namespace WinSocket
variable (driver : CommDriver) (n : WinSocket)

/-- `GetCommState`, with a native error as an exception. -/
def getDCB (message : String) : Commanding DCB := do
  let result ← GetCommState n.fd
  match result with
  | .ok dcb => pure dcb
  | .error errno => throw (n.closedOrNative errno message)

def getParameters (parameterBitSetMask : BitVec 32) : Commanding (BitVec 32) := do
  let dcb ← n.getDCB "getParams GetCommState"
  settled (WinApiSettings.getParamsOf dcb parameterBitSetMask)

/-- What is thrown for an error of `SetCommState`. -/
def setCommStateException (errno : ℕ) : JavaException :=
  if errno = ERROR_INVALID_PARAMETER then illegalArgumentException
    "setParams: Wrong FlowControl\n GetLastError() == ERROR_INVALID_PARAMETER"
  else if errno = ERROR_GEN_FAILURE then illegalArgumentException
    "setParams: Wrong FlowControl\n GetLastError() == ERROR_GEN_FAILURE"
  else n.closedOrNative errno "setParams SetCommState"

/-- `setParams` on a `DCB` already read. -/
def setParams (dcb : DCB) (paramBitSet : BitVec 32) : Commanding Unit := do
  let dcb ← settled (WinApiSettings.alter dcb paramBitSet)
  let result ← SetCommState driver n.fd dcb
  match result with
  | .error errno => throw (n.setCommStateException errno)
  | .ok () => do
      let dcb ← n.getDCB "getParams GetCommState"
      settled (WinApiSettings.verify dcb paramBitSet)

/-- Its complaint names another function. -/
def setParameters (parameterBitSet : BitVec 32) : Commanding Unit := do
  let dcb ← n.getDCB "setXOFFChar GetCommState"
  n.setParams driver dcb parameterBitSet

/-! The getters of `AbstractSerialPortSocket`. -/

def getSpeed : Commanding Speed := do
  let bitset ← n.getParameters SPEED_MASK
  settled (speedFromBitSet bitset)

def getDatatBits : Commanding DataBits := do
  let bitset ← n.getParameters DATA_BITS_MASK
  settled (dataBitsFromBitSet bitset)

def getStopBits : Commanding StopBits := do
  let bitset ← n.getParameters STOP_BITS_MASK
  settled (stopBitsFromBitSet bitset)

def getParity : Commanding Parity := do
  let bitset ← n.getParameters PARITY_MASK
  settled (parityFromBitSet bitset)

def getFlowControl : Commanding (Finset FlowControl) := do
  let bitset ← n.getParameters FLOW_CONTROL_MASK
  pure (flowControlFromBitSet bitset)

end WinSocket
end Spsw.Jni

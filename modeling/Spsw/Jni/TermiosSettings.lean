import Spsw.Jnhw.PosixConfiguration
import Spsw.Jni.BitSet

/-!
# `TermiosSettings.c`

The native library reads the settings of a device into a bit set, and alters,
stores and checks them by one. Its functions are those of the platform that
`PosixConfiguration` uses as well; the flag for `MARK` and `SPACE` is looked for in
the other order.
-/
namespace Spsw.Jni
open Jnhw
open JavaException (illegalArgumentException ioException)

/-- The fields of the socket, `errno` as earlier calls left it, and the text
`"%d: (%s)", errno, strerror(errno)`. -/
structure TermiosSocket where
  portName : String
  fd : ℤ
  errno : Errno
  errnoText : Errno → String

/-- `String.format` of `"0x%08x"` -/
def hex0 (bitset : BitVec 32) : String :=
  "0x" ++ String.ofList ((Nat.toDigits 16 bitset.toNat).leftpad 8 '0')

namespace TermiosSocket
variable (n : TermiosSocket)

/-- What `throw_IOException_NativeError` throws. -/
def nativeError (errno : Errno) (msg : String) : JavaException :=
  ioException (msg ++ ": Unknown port error " ++ n.errnoText errno)

/-- What `throw_ClosedOrNativeException` throws. -/
def closedOrNative (errno : Errno) (message : String) : JavaException :=
  if n.fd = INVALID_FD then ioException PORT_IS_CLOSED else n.nativeError errno message

end TermiosSocket

section Speeds
variable (p : Platform)

/-- The `-1` that is returned along with the exception is no speed. -/
def speed_t2Speed (speed : ℤ) : Except JavaException (BitVec 32) :=
  match Speed.values.find? fun s => p.B s = some speed with
  | some s => .ok (SPEED s)
  | none => .error (illegalArgumentException "speed not supported")

def speed2speed_t (speed : BitVec 32) : Except JavaException ℤ :=
  match (select Speed.values SPEED speed).bind p.B with
  | some speedValue => .ok speedValue
  | none => .error (illegalArgumentException "Speed not supported")

end Speeds

/-- The flag that `PAREXT`, or else `CMSPAR`, is defined as. -/
def parityExtension (p : Platform) : BitVec 32 :=
  match p.PAREXT with
  | some value => value
  | none => p.CMSPAR.getD 0#32

/-! `getParams`, field by field. -/
section GetParams
variable (p : Platform) (n : TermiosSocket) (settings : StructTermios)

def getSpeedBits : Except JavaException (BitVec 32) :=
  if p.cfgetispeed settings ≠ p.cfgetospeed settings then
    .error (n.nativeError n.errno "In and out speed mismatch")
  else speed_t2Speed p (p.cfgetispeed settings)

def getDataBitsBits : Except JavaException (BitVec 32) :=
  match DataBits.values.find? fun dataBits => p.CS dataBits = settings.c_cflag &&& p.CSIZE with
  | some dataBits => .ok (DATA_BITS dataBits)
  | none => .error (illegalArgumentException "Unknown databits")

/-- Without a bit when only some flags of `CSTOPB` are set. -/
def getStopBitsBits : BitVec 32 :=
  if settings.c_cflag &&& p.CSTOPB = 0#32 then STOP_BITS .SB_1
  else if settings.c_cflag &&& p.CSTOPB = p.CSTOPB then
    if settings.c_cflag &&& p.CSIZE = p.CS5 then STOP_BITS .SB_1_5 else STOP_BITS .SB_2
  else 0#32

/-- One of these is always found, so the test behind them never throws. -/
def getParityBits : BitVec 32 :=
  if settings.c_cflag &&& p.PARENB = 0#32 then PARITY .NONE
  else if settings.c_cflag &&& p.PARODD = 0#32 then
    if settings.c_cflag &&& parityExtension p = 0#32 then PARITY .EVEN else PARITY .SPACE
  else if settings.c_cflag &&& parityExtension p = 0#32 then PARITY .ODD else PARITY .MARK

/-- Any flag of the constants counts as set here. -/
def getFlowControlBits : BitVec 32 :=
  let hardware := if settings.c_cflag &&& p.CRTSCTS ≠ 0#32 then
    FLOW_CONTROL .RTS_CTS_IN ||| FLOW_CONTROL .RTS_CTS_OUT else 0#32
  let softIn := if settings.c_iflag &&& p.IXOFF ≠ 0#32 then FLOW_CONTROL .XON_XOFF_IN else 0#32
  let softOut := if settings.c_iflag &&& p.IXON ≠ 0#32 then FLOW_CONTROL .XON_XOFF_OUT else 0#32
  let bits := hardware ||| softIn ||| softOut
  if bits = 0#32 then FLOW_CONTROL_NONE else bits

/-- `getParams` on a structure already read. -/
def getParamsOf (paramBitSet : BitVec 32) : Except JavaException (BitVec 32) := do
  let speed ← if paramBitSet &&& SPEED_MASK ≠ 0#32 then getSpeedBits p n settings else pure 0#32
  let dataBits ← if paramBitSet &&& DATA_BITS_MASK ≠ 0#32 then getDataBitsBits p settings
    else pure 0#32
  let stopBits := if paramBitSet &&& STOP_BITS_MASK ≠ 0#32 then getStopBitsBits p settings else 0#32
  let parity := if paramBitSet &&& PARITY_MASK ≠ 0#32 then getParityBits p settings else 0#32
  let flowControl :=
    if paramBitSet &&& FLOW_CONTROL_MASK ≠ 0#32 then getFlowControlBits p settings else 0#32
  pure (speed ||| dataBits ||| stopBits ||| parity ||| flowControl)

end GetParams

/-! `setParams` up to `tcsetattr`, parameter by parameter. -/
section SetParams
variable (p : Platform) (n : TermiosSocket) (settings : StructTermios) (paramBitSet : BitVec 32)

def setSpeedBits : Except JavaException StructTermios :=
  if paramBitSet &&& SPEED_MASK = 0#32 then .ok settings
  else do
    let speedValue ← speed2speed_t p (paramBitSet &&& SPEED_MASK)
    match p.cfsetspeed settings speedValue with
    | .ok settings => pure settings
    | .error errno =>
        throw (n.closedOrNative errno "Can't set Speed cfsetspeed(settings, speedValue)")

def setDataBitsBits : Except JavaException StructTermios :=
  if paramBitSet &&& DATA_BITS_MASK = 0#32 then .ok settings
  else match select DataBits.values DATA_BITS (paramBitSet &&& DATA_BITS_MASK) with
    | some dataBits =>
        .ok { settings with c_cflag := settings.c_cflag &&& ~~~p.CSIZE ||| p.CS dataBits }
    | none => .error (illegalArgumentException "Wrong databits")

def setStopBitsBits : Except JavaException StructTermios :=
  if paramBitSet &&& STOP_BITS_MASK = 0#32 then .ok settings
  else match select StopBits.values STOP_BITS (paramBitSet &&& STOP_BITS_MASK) with
    | some .SB_1 => .ok { settings with c_cflag := settings.c_cflag &&& ~~~p.CSTOPB }
    | some .SB_1_5 =>
        if settings.c_cflag &&& p.CSIZE = p.CS5 then
          .ok { settings with c_cflag := settings.c_cflag ||| p.CSTOPB }
        else .error (illegalArgumentException
          "setStopBits 1.5 stop bits are only valid for 5 DataBits")
    | some .SB_2 =>
        if settings.c_cflag &&& p.CSIZE = p.CS5 then
          .error (illegalArgumentException
            "setStopBits 2 stop bits are only valid for 6,7,8 DataBits")
        else .ok { settings with c_cflag := settings.c_cflag ||| p.CSTOPB }
    | none => .error (illegalArgumentException "Unknown stopbits")

def setParityBits : Except JavaException StructTermios :=
  if paramBitSet &&& PARITY_MASK = 0#32 then .ok settings
  else
    let cleared := settings.c_cflag &&& ~~~(p.PARENB ||| p.PARODD ||| parityExtension p)
    match select Parity.values PARITY (paramBitSet &&& PARITY_MASK) with
    | some .NONE =>
        .ok { settings with c_cflag := cleared, c_iflag := settings.c_iflag &&& ~~~p.INPCK }
    | some .ODD => .ok { settings with c_cflag := cleared ||| (p.PARENB ||| p.PARODD)
                                       c_iflag := settings.c_iflag ||| p.INPCK }
    | some .EVEN => .ok { settings with c_cflag := cleared ||| p.PARENB
                                        c_iflag := settings.c_iflag ||| p.INPCK }
    | some .MARK =>
        .ok { settings with c_cflag := cleared ||| (p.PARENB ||| p.PARODD ||| parityExtension p)
                            c_iflag := settings.c_iflag ||| p.INPCK }
    | some .SPACE => .ok { settings with c_cflag := cleared ||| (p.PARENB ||| parityExtension p)
                                         c_iflag := settings.c_iflag ||| p.INPCK }
    | none => .error (illegalArgumentException "Wrong parity")

/-- `(mask & FLOW_CONTROL_x) == FLOW_CONTROL_x` -/
def flowControlIn (mask : BitVec 32) (fc : FlowControl) : Bool :=
  decide (mask &&& FLOW_CONTROL fc = FLOW_CONTROL fc)

def setFlowControlBits : Except JavaException StructTermios :=
  if paramBitSet &&& FLOW_CONTROL_MASK = 0#32 then .ok settings
  else do
    let mask := paramBitSet &&& FLOW_CONTROL_MASK
    let c_cflag := settings.c_cflag &&& ~~~p.CRTSCTS
    let c_iflag := settings.c_iflag &&& ~~~(p.IXON ||| p.IXOFF)
    if mask = FLOW_CONTROL_NONE then pure { settings with c_cflag := c_cflag, c_iflag := c_iflag }
    else do
      let c_cflag ←
        if (flowControlIn mask .RTS_CTS_IN || flowControlIn mask .RTS_CTS_OUT) = true then
          if (flowControlIn mask .RTS_CTS_IN && flowControlIn mask .RTS_CTS_OUT) = true then
            .ok (c_cflag ||| p.CRTSCTS)
          else .error (illegalArgumentException "Can only set RTS/CTS for both in and out")
        else .ok c_cflag
      let c_iflag := if flowControlIn mask .XON_XOFF_IN = true then c_iflag ||| p.IXOFF else c_iflag
      let c_iflag := if flowControlIn mask .XON_XOFF_OUT = true then c_iflag ||| p.IXON else c_iflag
      pure { settings with c_cflag := c_cflag, c_iflag := c_iflag }

/-- The structure `setParams` gives to `tcsetattr`. -/
def alter : Except JavaException StructTermios := do
  let settings ← setSpeedBits p n settings paramBitSet
  let settings ← setDataBitsBits p settings paramBitSet
  let settings ← setStopBitsBits p settings paramBitSet
  let settings ← setParityBits p settings paramBitSet
  setFlowControlBits p settings paramBitSet

end SetParams

/-- What a setter `name` throws for an error of its `tcsetattr`. -/
def tcsetattrException (n : TermiosSocket) (name : String) (errno : Errno) : JavaException :=
  match errno with
  | .ERANGE => illegalArgumentException (name ++ " tcsetattr Native Error \"ERANGE\"")
  | .EINVAL => illegalArgumentException (name ++ " tcsetattr Native Error \"EINVAL\"")
  | _ => n.closedOrNative errno (name ++ " tcsetattr")

/-- The fields to read back. -/
def paramsToRead (paramBitSet : BitVec 32) : BitVec 32 :=
  (if SPEED_MASK &&& paramBitSet ≠ 0#32 then SPEED_MASK else 0#32) |||
    (if DATA_BITS_MASK &&& paramBitSet ≠ 0#32 then DATA_BITS_MASK else 0#32) |||
    (if STOP_BITS_MASK &&& paramBitSet ≠ 0#32 then STOP_BITS_MASK else 0#32) |||
    (if PARITY_MASK &&& paramBitSet ≠ 0#32 then PARITY_MASK else 0#32) |||
    (if FLOW_CONTROL_MASK &&& paramBitSet ≠ 0#32 then FLOW_CONTROL_MASK else 0#32)

/-- The parameter that the complaint of `setParams` names. -/
def mismatchName (paramsRead paramBitSet : BitVec 32) : String :=
  if paramsRead &&& SPEED_MASK ≠ paramBitSet &&& SPEED_MASK then "Speed"
  else if paramsRead &&& DATA_BITS_MASK ≠ paramBitSet &&& DATA_BITS_MASK then "DataBits"
  else if paramsRead &&& STOP_BITS_MASK ≠ paramBitSet &&& STOP_BITS_MASK then "StopBits"
  else if paramsRead &&& PARITY_MASK ≠ paramBitSet &&& PARITY_MASK then "Parity"
  else if paramsRead &&& FLOW_CONTROL_MASK ≠ paramBitSet &&& FLOW_CONTROL_MASK then "FlowControl"
  else "unknown parameter"

/-- The check at the end of `setParams`. -/
def verify (p : Platform) (n : TermiosSocket) (settings : StructTermios) (paramBitSet : BitVec 32) :
    Except JavaException Unit := do
  let paramsRead ← getParamsOf p n settings (paramsToRead paramBitSet)
  if paramsRead = paramBitSet then pure ()
  else throw (illegalArgumentException ("Could not set " ++ mismatchName paramsRead paramBitSet ++
    "! NATIVE: paramsRead(" ++ hex0 paramsRead ++ ") != paramBitSet(" ++ hex0 paramBitSet ++ ")"))

namespace TermiosSocket
variable (p : Platform) (driver : Driver) (n : TermiosSocket)

/-- `tcgetattr`, with a native error as an exception. -/
def getSettings (message : String) : Configuring StructTermios := do
  let result ← tcgetattr n.fd
  match result with
  | .ok settings => pure settings
  | .error errno => throw (n.closedOrNative errno message)

def getParams (paramBitSet : BitVec 32) : Configuring (BitVec 32) := do
  let settings ← n.getSettings "setParams tcsetattr"
  outcome (getParamsOf p n settings paramBitSet)

def getParameters (parameterBitSetMask : BitVec 32) : Configuring (BitVec 32) :=
  n.getParams p parameterBitSetMask

/-- `setParams` on a structure already read. -/
def setParams (settings : StructTermios) (paramBitSet : BitVec 32) : Configuring Unit := do
  let settings ← outcome (alter p n settings paramBitSet)
  let result ← tcsetattr driver n.fd settings
  match result with
  | .error errno => throw (tcsetattrException n "setParams" errno)
  | .ok () => do
      let settings ← n.getSettings "setParams tcsetattr"
      outcome (verify p n settings paramBitSet)

def setParameters (parameterBitSet : BitVec 32) : Configuring Unit := do
  let settings ← n.getSettings "setParameters tcgetattr"
  n.setParams p driver settings parameterBitSet

def getInSpeed0 : Configuring (BitVec 32) := do
  let settings ← n.getSettings "setParams tcsetattr"
  outcome (speed_t2Speed p (p.cfgetispeed settings))

def getOutSpeed0 : Configuring (BitVec 32) := do
  let settings ← n.getSettings "setParams tcsetattr"
  outcome (speed_t2Speed p (p.cfgetospeed settings))

/-- The body that `setInSpeed0` and `setOutSpeed0` share: `cfset` alters one speed of
the structure, `cfget` is what the speed read back is taken from. -/
def setOneSpeed (name cfsetName what : String)
    (cfset : StructTermios → ℤ → Except Errno StructTermios) (cfget : StructTermios → ℤ)
    (speedValue : BitVec 32) : Configuring Unit := do
  let settings ← n.getSettings (name ++ " tcsetattr")
  let speed_tValue ← outcome (speed2speed_t p (speedValue &&& SPEED_MASK))
  match cfset settings speed_tValue with
  | .error errno =>
      throw (n.closedOrNative errno ("Can't set Speed " ++ cfsetName ++ "(settings, speedValue)"))
  | .ok settings => do
      let result ← tcsetattr driver n.fd settings
      match result with
      | .error errno => throw (tcsetattrException n name errno)
      | .ok () => do
          let settings ← n.getSettings (name ++ " tcsetattr")
          -- A speed that is not supported differs from every other; either way an
          -- IllegalArgumentException is thrown.
          let read ← outcome (speed_t2Speed p (cfget settings))
          if speedValue = read then pure ()
          else throw (illegalArgumentException ("Could not set " ++ what ++ "!"))

def setInSpeed0 (speedValue : BitVec 32) : Configuring Unit :=
  n.setOneSpeed p driver "setInSpeed0" "cfsetispeed" "inSpeed" p.cfsetispeed
    p.cfgetispeed speedValue

/-- The speed read back is the input speed here as well. -/
def setOutSpeed0 (speedValue : BitVec 32) : Configuring Unit :=
  n.setOneSpeed p driver "setOutSpeed0" "cfsetospeed" "outSpeed" p.cfsetospeed
    p.cfgetispeed speedValue

/-- `catch (IllegalArgumentException ex)`, rethrown with another message. -/
def relabel (m : Configuring Unit) (message : String) : Configuring Unit :=
  tryCatch m fun e => match e with
    | .illegalArgumentException _ => throw (illegalArgumentException message)
    | e => throw e

def getInSpeed : Configuring Speed := do
  let bitset ← n.getInSpeed0 p
  outcome (speedFromBitSet bitset)

def getOutSpeed : Configuring Speed := do
  let bitset ← n.getOutSpeed0 p
  outcome (speedFromBitSet bitset)

/-! The getters of `AbstractSerialPortSocket`. -/

def getSpeed : Configuring Speed := do
  let bitset ← n.getParameters p SPEED_MASK
  outcome (speedFromBitSet bitset)

def getDatatBits : Configuring DataBits := do
  let bitset ← n.getParameters p DATA_BITS_MASK
  outcome (dataBitsFromBitSet bitset)

def getStopBits : Configuring StopBits := do
  let bitset ← n.getParameters p STOP_BITS_MASK
  outcome (stopBitsFromBitSet bitset)

def getParity : Configuring Parity := do
  let bitset ← n.getParameters p PARITY_MASK
  outcome (parityFromBitSet bitset)

def getFlowControl : Configuring (Finset FlowControl) := do
  let bitset ← n.getParameters p FLOW_CONTROL_MASK
  pure (flowControlFromBitSet bitset)

def setInSpeed (speed : Speed) : Configuring Unit :=
  relabel (n.setInSpeed0 p driver (SPEED speed))
    ("Can't set inSpeed " ++ speed.name ++ " on port: " ++ n.portName)

def setOutSpeed (speed : Speed) : Configuring Unit :=
  relabel (n.setOutSpeed0 p driver (SPEED speed))
    ("Can't set outSpeed " ++ speed.name ++ " on port: " ++ n.portName)

end TermiosSocket

theorem getSettings_opened {n : TermiosSocket} {s : Descriptors}
    {settings : StructTermios} {message : String} (opened : s n.fd = some settings) :
    n.getSettings message s = .ok settings s :=
  Stateful.bind_of_ok (tcgetattr_opened opened)

end Spsw.Jni

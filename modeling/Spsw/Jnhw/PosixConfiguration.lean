import Spsw.Jnhw.Termios

/-!
# `PosixConfiguration`

The settings of a port are read from the device each time. `setParams` alters the
structure it got, parameter by parameter, stores it, and compares what the device
then has with the request; `setInSpeed` and `setOutSpeed` only alter the structure.
-/
namespace Spsw.Jnhw
open JavaException (illegalArgumentException ioException)

structure PosixConfiguration where
  portName : String
  fd : ℤ
  deriving DecidableEq, Repr

/-- The parameters of `setParams`; `none` is `null`. -/
structure Params where
  speed : Option Speed := none
  dataBits : Option DataBits := none
  stopBits : Option StopBits := none
  parity : Option Parity := none
  flowControls : Option (Finset FlowControl) := none

/-- The text of a parameter in a message. -/
def textOf {α : Type} (name : α → String) : Option α → String
  | some a => name a
  | none => "null"

/-- The outcome of a computation that leaves the descriptors alone. -/
def outcome {α : Type} : Except JavaException α → Configuring α
  | .ok a => pure a
  | .error e => throw e

namespace Platform
variable (p : Platform)

def CMSPAR_OR_PAREXT : BitVec 32 :=
  match p.CMSPAR with
  | some value => value
  | none => p.PAREXT.getD 0#32

def speed2speed_t (speed : Speed) : Except JavaException ℤ :=
  match p.B speed with
  | some value => .ok value
  | none => .error (illegalArgumentException ("No defined! posix.B" ++ toString speed.value))

def speed_t2speed (speed_t : ℤ) : Except JavaException Speed :=
  match Speed.values.find? fun speed => p.B speed = some speed_t with
  | some speed => .ok speed
  | none => .error (illegalArgumentException ("speed not supported: " ++ toString speed_t))

def getInSpeed (termios : StructTermios) : Except JavaException Speed :=
  p.speed_t2speed (p.cfgetispeed termios)

def getOutSpeed (termios : StructTermios) : Except JavaException Speed :=
  p.speed_t2speed (p.cfgetospeed termios)

def getSpeed (termios : StructTermios) : Except JavaException Speed :=
  let inSpeed := p.cfgetispeed termios
  let outSpeed := p.cfgetospeed termios
  if inSpeed ≠ outSpeed then do
    let inSpeed ← p.speed_t2speed inSpeed
    let outSpeed ← p.speed_t2speed outSpeed
    throw (ioException ("In and out speed mismatch In:" ++ inSpeed.name ++
      " Out: " ++ outSpeed.name))
  else p.speed_t2speed inSpeed

def getDatatBits (termios : StructTermios) : Except JavaException DataBits :=
  let masked := termios.c_cflag &&& p.CSIZE
  if masked = p.CS5 then .ok .DB_5
  else if masked = p.CS6 then .ok .DB_6
  else if masked = p.CS7 then .ok .DB_7
  else if masked = p.CS8 then .ok .DB_8
  else .error (illegalArgumentException
    ("Unknown databits in termios.c_cflag: " ++ toString termios.c_cflag.toInt))

def getStopBits (termios : StructTermios) : Except JavaException StopBits :=
  if termios.c_cflag &&& p.CSTOPB = 0#32 then .ok .SB_1
  else if termios.c_cflag &&& p.CSTOPB = p.CSTOPB then
    if termios.c_cflag &&& p.CSIZE = p.CS5 then .ok .SB_1_5 else .ok .SB_2
  else .error (illegalArgumentException "Can't figure out stop bits!")

def getParity (termios : StructTermios) : Parity :=
  if termios.c_cflag &&& p.PARENB = 0#32 then .NONE
  else if termios.c_cflag &&& p.PARODD = 0#32 then
    if termios.c_cflag &&& p.CMSPAR_OR_PAREXT = 0#32 then .EVEN else .SPACE
  else if termios.c_cflag &&& p.CMSPAR_OR_PAREXT = 0#32 then .ODD else .MARK

def getFlowControl (termios : StructTermios) : Finset FlowControl :=
  (if termios.c_cflag &&& p.CRTSCTS = p.CRTSCTS then FlowControl.getFC_RTS_CTS else ∅) ∪
    (if termios.c_iflag &&& p.IXOFF = p.IXOFF then {.XON_XOFF_IN} else ∅) ∪
    (if termios.c_iflag &&& p.IXON = p.IXON then {.XON_XOFF_OUT} else ∅)

/-- The flags of `dataBits`. -/
def CS : DataBits → BitVec 32
  | .DB_5 => p.CS5
  | .DB_6 => p.CS6
  | .DB_7 => p.CS7
  | .DB_8 => p.CS8

def setDataBits (termios : StructTermios) : Option DataBits → StructTermios
  | none => termios
  | some dataBits => { termios with c_cflag := termios.c_cflag &&& ~~~p.CSIZE ||| p.CS dataBits }

def setStopBits (termios : StructTermios) : Option StopBits → Except JavaException StructTermios
  | none => .ok termios
  | some .SB_1 => .ok { termios with c_cflag := termios.c_cflag &&& ~~~p.CSTOPB }
  | some .SB_1_5 =>
      if termios.c_cflag &&& p.CSIZE = p.CS5 then
        .ok { termios with c_cflag := termios.c_cflag ||| p.CSTOPB }
      else
        .error (illegalArgumentException "setStopBits 1.5 stop bits are only valid for 5 DataBits")
  | some .SB_2 =>
      if termios.c_cflag &&& p.CSIZE = p.CS5 then
        .error (illegalArgumentException
          "setStopBits 2 stop bits are only valid for 6,7,8 DataBits")
      else .ok { termios with c_cflag := termios.c_cflag ||| p.CSTOPB }

def setParity (termios : StructTermios) : Option Parity → StructTermios
  | none => termios
  | some parity =>
      let cleared := termios.c_cflag &&& ~~~(p.PARENB ||| p.PARODD ||| p.CMSPAR_OR_PAREXT)
      match parity with
      | .NONE => { termios with c_cflag := cleared, c_iflag := termios.c_iflag &&& ~~~p.INPCK }
      | .ODD => { termios with c_cflag := cleared ||| p.PARENB ||| p.PARODD
                               c_iflag := termios.c_iflag ||| p.INPCK }
      | .EVEN => { termios with c_cflag := cleared ||| p.PARENB
                                c_iflag := termios.c_iflag ||| p.INPCK }
      | .MARK => { termios with c_cflag := cleared ||| p.PARENB ||| p.PARODD ||| p.CMSPAR_OR_PAREXT
                                c_iflag := termios.c_iflag ||| p.INPCK }
      | .SPACE => { termios with c_cflag := cleared ||| p.PARENB ||| p.CMSPAR_OR_PAREXT
                                 c_iflag := termios.c_iflag ||| p.INPCK }

def setFlowControl (termios : StructTermios) :
    Option (Finset FlowControl) → Except JavaException StructTermios
  | none => .ok termios
  | some flowControls => do
      let c_cflag := termios.c_cflag &&& ~~~p.CRTSCTS
      let c_iflag := termios.c_iflag &&& ~~~(p.IXON ||| p.IXOFF)
      let c_cflag ←
        if .RTS_CTS_IN ∈ flowControls then
          if .RTS_CTS_OUT ∈ flowControls then .ok (c_cflag ||| p.CRTSCTS)
          else .error (illegalArgumentException "Can only set RTS/CTS for both in and out")
        else if .RTS_CTS_OUT ∈ flowControls then
          .error (illegalArgumentException "Can only set RTS/CTS for both in and out")
        else .ok c_cflag
      let c_iflag := if .XON_XOFF_IN ∈ flowControls then c_iflag ||| p.IXOFF else c_iflag
      let c_iflag := if .XON_XOFF_OUT ∈ flowControls then c_iflag ||| p.IXON else c_iflag
      pure { termios with c_cflag := c_cflag, c_iflag := c_iflag }

/-- The complaint about a parameter that reads back other than requested. -/
def mismatch {α : Type} [DecidableEq α] (what : String) (name : α → String) (requested : Option α)
    (reading : Except JavaException α) : Except JavaException (List String) :=
  match requested with
  | none => .ok []
  | some a => do
      let read ← reading
      if read = a then pure []
      else pure ["Could not set " ++ what ++ " to: " ++ name a ++ " instead it is: " ++ name read]

/-- The checks at the end of `setParams`. -/
def verify (r : Params) (termios : StructTermios) : Except JavaException Unit := do
  let parity ← mismatch "parity" Parity.name r.parity (.ok (p.getParity termios))
  let speed ← mismatch "speed" Speed.name r.speed (p.getSpeed termios)
  let stopBits ← mismatch "stopBits" StopBits.name r.stopBits (p.getStopBits termios)
  let dataBits ← mismatch "dataBits" DataBits.name r.dataBits (p.getDatatBits termios)
  let flowControls ← mismatch "flowContrel" FlowControl.names r.flowControls
    (.ok (p.getFlowControl termios))
  let mismatches := parity ++ speed ++ stopBits ++ dataBits ++ flowControls
  if mismatches = [] then
    pure () else throw (illegalArgumentException ("\n".intercalate mismatches))

end Platform

namespace PosixConfiguration
variable (p : Platform) (driver : Driver) (c : PosixConfiguration)

def isFdValid : Configuring Bool := do
  let descriptors ← get
  pure (descriptors c.fd).isSome

def formatMsg (nee : Errno) (text : String) : Configuring String := do
  if c.fd = INVALID_FD then pure PORT_IS_CLOSED
  else do
    let valid ← c.isFdValid
    if valid = true then
      pure ("Native port error on " ++ c.portName ++ ", \"" ++ nee.getErrnoSymbol ++ "\" " ++ text)
    else pure PORT_FD_INVALID

def getTermios : Configuring StructTermios := do
  let result ← tcgetattr c.fd
  match result with
  | .ok termios => pure termios
  | .error nee => do
      let message ← c.formatMsg nee ("Native port error => tcgetattr (" ++ c.portName ++ ")")
      throw (ioException message)

def getSpeed : Configuring Speed := do
  let termios ← c.getTermios
  outcome (p.getSpeed termios)

def getInSpeed : Configuring Speed := do
  let termios ← c.getTermios
  outcome (p.getInSpeed termios)

def getOutSpeed : Configuring Speed := do
  let termios ← c.getTermios
  outcome (p.getOutSpeed termios)

def getDatatBits : Configuring DataBits := do
  let termios ← c.getTermios
  outcome (p.getDatatBits termios)

def getStopBits : Configuring StopBits := do
  let termios ← c.getTermios
  outcome (p.getStopBits termios)

def getParity : Configuring Parity := do
  let termios ← c.getTermios
  pure (p.getParity termios)

def getFlowControl : Configuring (Finset FlowControl) := do
  let termios ← c.getTermios
  pure (p.getFlowControl termios)

/-- One of `cfsetispeed`, `cfsetospeed` and `cfsetspeed`, with a native error as an exception. -/
def cfset (call : StructTermios → ℤ → Except Errno StructTermios) (name : String)
    (termios : StructTermios) (speed : Speed) : Configuring StructTermios := do
  let speedValue ← outcome (p.speed2speed_t speed)
  match call termios speedValue with
  | .ok termios => pure termios
  | .error nee => do
      let message ← c.formatMsg nee ("Can't set Speed " ++ name ++ "(settings, speedValue)")
      throw (illegalArgumentException message)

/-- What `setInSpeed` and `setOutSpeed` check, on the structure they altered. -/
def expectSpeed (what : String) (speed : Speed) (reading : Except JavaException Speed) :
    Except JavaException Unit := do
  let read ← reading
  if read = speed then pure ()
  else throw (illegalArgumentException
    ("Could not set " ++ what ++ " to: " ++ speed.name ++ " instead it is: " ++ read.name))

def setInSpeed (speed : Speed) : Configuring Unit := do
  let termios ← c.getTermios
  let termios ← c.cfset p p.cfsetispeed "cfsetispeed" termios speed
  outcome (expectSpeed "inSpeed" speed (p.getInSpeed termios))

def setOutSpeed (speed : Speed) : Configuring Unit := do
  let termios ← c.getTermios
  let termios ← c.cfset p p.cfsetospeed "cfsetospeed" termios speed
  outcome (expectSpeed "outSpeed" speed (p.getOutSpeed termios))

def setBothSpeeds (termios : StructTermios) : Option Speed → Configuring StructTermios
  | none => pure termios
  | some speed => c.cfset p p.cfsetspeed "cfsetspeed" termios speed

/-- The structure `setParams` gives to `tcsetattr`. -/
def alter (r : Params) (termios : StructTermios) : Configuring StructTermios := do
  let termios ← c.setBothSpeeds p termios r.speed
  let termios := p.setDataBits termios r.dataBits
  let termios ← outcome (p.setStopBits termios r.stopBits)
  let termios := p.setParity termios r.parity
  outcome (p.setFlowControl termios r.flowControls)

/-- What is thrown for an error of `tcsetattr`. -/
def tcsetattrException (r : Params) (nee : Errno) : JavaException :=
  let message := "Native port error \"" ++ nee.getErrnoSymbol ++
    "\" => setParams tcsetattr portname=" ++ c.portName ++ ", speed=" ++
      textOf Speed.name r.speed ++ ", dataBits=" ++ textOf DataBits.name r.dataBits ++
      ", stopBits=" ++ textOf StopBits.name r.stopBits ++ ", parity=" ++
      textOf Parity.name r.parity ++ ", flowControls=" ++ textOf FlowControl.names r.flowControls
  match nee with
  | .ERANGE => illegalArgumentException message
  | .EINVAL => illegalArgumentException message
  | _ => ioException message

/-- `setParams` on a structure already read. -/
def setParamsOn (termios : StructTermios) (r : Params) : Configuring Unit := do
  let termios ← c.alter p r termios
  let result ← tcsetattr driver c.fd termios
  match result with
  | .ok () => do
      let termios ← c.getTermios
      outcome (p.verify r termios)
  | .error nee => throw (c.tcsetattrException r nee)

def setParams (r : Params) : Configuring Unit := do
  let termios ← c.getTermios
  c.setParamsOn p driver termios r

/-- `setSpeed` of the sockets. -/
def setSpeed (speed : Speed) : Configuring Unit := c.setParams p driver { speed := some speed }

end PosixConfiguration
end Spsw.Jnhw

import Spsw.Api.Exceptions
import Spsw.Api.Settings
import Spsw.Flags.Word

/-!
# Parameters packed into one int

The native library gets and sets the parameters of a port as one word with a field
for each parameter. A field of zeros means that its parameter is not there, so the
empty set of flow controls has a flag of its own.
-/
namespace Spsw.Jni
open JavaException (illegalArgumentException)
open Flags

def SPEED_MASK : BitVec 32 := 0x000000FF

def DATA_BITS_MASK : BitVec 32 := 0x0000F000

def FLOW_CONTROL_NONE : BitVec 32 := 0x00010000

def FLOW_CONTROL_MASK : BitVec 32 := 0x00FF0000

def STOP_BITS_MASK : BitVec 32 := 0x0F000000

def PARITY_MASK : BitVec 32 := 0xF0000000

def NO_PARAMS_TO_SET : BitVec 32 := 0x00000000

/-- `SPEED_0_BPS` to `SPEED_4000000_BPS` -/
def SPEED : Speed → BitVec 32
  | ._0_BPS => 0x00000001
  | ._50_BPS => 0x00000002
  | ._75_BPS => 0x00000003
  | ._110_BPS => 0x00000004
  | ._134_BPS => 0x00000005
  | ._150_BPS => 0x00000006
  | ._200_BPS => 0x00000007
  | ._300_BPS => 0x00000008
  | ._600_BPS => 0x00000009
  | ._1200_BPS => 0x0000000A
  | ._1800_BPS => 0x0000000B
  | ._2400_BPS => 0x0000000C
  | ._4800_BPS => 0x0000000D
  | ._9600_BPS => 0x0000000E
  | ._19200_BPS => 0x0000000F
  | ._38400_BPS => 0x00000010
  | ._57600_BPS => 0x00000011
  | ._115200_BPS => 0x00000012
  | ._230400_BPS => 0x00000013
  | ._460800_BPS => 0x00000014
  | ._500000_BPS => 0x00000015
  | ._576000_BPS => 0x00000016
  | ._921600_BPS => 0x00000017
  | ._1000000_BPS => 0x00000018
  | ._1152000_BPS => 0x00000019
  | ._1500000_BPS => 0x0000001A
  | ._2000000_BPS => 0x0000001B
  | ._2500000_BPS => 0x0000001C
  | ._3000000_BPS => 0x0000001D
  | ._3500000_BPS => 0x0000001E
  | ._4000000_BPS => 0x0000001F

/-- `DATA_BITS_DB5` to `DATA_BITS_DB8` -/
def DATA_BITS : DataBits → BitVec 32
  | .DB_5 => 0x00001000
  | .DB_6 => 0x00002000
  | .DB_7 => 0x00003000
  | .DB_8 => 0x00004000

/-- `FLOW_CONTROL_RTS_CTS_IN` to `FLOW_CONTROL_XON_XOFF_OUT` -/
def FLOW_CONTROL : FlowControl → BitVec 32
  | .RTS_CTS_IN => 0x00100000
  | .RTS_CTS_OUT => 0x00200000
  | .XON_XOFF_IN => 0x00400000
  | .XON_XOFF_OUT => 0x00800000

/-- `STOP_BITS_1`, `STOP_BITS_1_5` and `STOP_BITS_2` -/
def STOP_BITS : StopBits → BitVec 32
  | .SB_1 => 0x01000000
  | .SB_1_5 => 0x02000000
  | .SB_2 => 0x03000000

/-- `PARITY_NONE` to `PARITY_SPACE` -/
def PARITY : Parity → BitVec 32
  | .NONE => 0x10000000
  | .ODD => 0x20000000
  | .EVEN => 0x30000000
  | .MARK => 0x40000000
  | .SPACE => 0x50000000

/-- The case of a `switch` over constants. -/
def select {α : Type} (cases : List α) (constant : α → BitVec 32) (value : BitVec 32) : Option α :=
  cases.find? fun a => constant a = value

/-- `String.format("%8x", bitset)` -/
def hex (bitset : BitVec 32) : String :=
  String.ofList ((Nat.toDigits 16 bitset.toNat).leftpad 8 ' ')

/-- One of the functions from a bit set; `what` stands in its complaint. -/
def fromBitSet {α : Type} (cases : List α) (constant : α → BitVec 32)
    (mask : BitVec 32) (what : String) (bitset : BitVec 32) : Except JavaException α :=
  match select cases constant (bitset &&& mask) with
  | some a => .ok a
  | none => .error (illegalArgumentException ("Unknown " ++ what ++ " in bitset: " ++ hex bitset))

def speedFromBitSet (bitset : BitVec 32) : Except JavaException Speed :=
  fromBitSet Speed.values SPEED SPEED_MASK "speed" bitset

def dataBitsFromBitSet (bitset : BitVec 32) : Except JavaException DataBits :=
  fromBitSet DataBits.values DATA_BITS DATA_BITS_MASK "dataBits" bitset

/-- Its complaint names the stop bits. -/
def parityFromBitSet (bitset : BitVec 32) : Except JavaException Parity :=
  fromBitSet Parity.values PARITY PARITY_MASK "stopBits" bitset

def stopBitsFromBitSet (bitset : BitVec 32) : Except JavaException StopBits :=
  fromBitSet StopBits.values STOP_BITS STOP_BITS_MASK "stopBits" bitset

def flowControlFromBitSet (bitset : BitVec 32) : Finset FlowControl :=
  if bitset &&& FLOW_CONTROL_MASK = FLOW_CONTROL_NONE then ∅
  else (FlowControl.values.filter fun fc => bitset &&& FLOW_CONTROL fc = FLOW_CONTROL fc).toFinset

/-- `toBitSet(Set<FlowControl>)` -/
def flowControlsToBitSet (flowControls : Finset FlowControl) : BitVec 32 :=
  if flowControls = ∅ then FLOW_CONTROL_NONE
  else (FlowControl.values.filter (· ∈ flowControls)).foldl (fun bitSet fc =>
    bitSet ||| FLOW_CONTROL fc) 0

theorem select_speed (speed : Speed) :
    select Speed.values SPEED (SPEED speed &&& SPEED_MASK) = some speed := by
  cases speed <;> rfl

theorem SPEED_injective {speed speed' : Speed} (same : SPEED speed = SPEED speed') :
    speed = speed' := by
  have selected := select_speed speed
  rw [same, select_speed] at selected
  exact (Option.some.inj selected).symm

theorem speedFromBitSet_SPEED (speed : Speed) : speedFromBitSet (SPEED speed) = .ok speed := by
  rw [speedFromBitSet, fromBitSet, select_speed]

end Spsw.Jni

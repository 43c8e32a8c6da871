import Mathlib.Data.Finset.Basic

/-!
# The settings of a serial port

The enumerations a port is configured with, and their texts in messages.
-/
namespace Spsw

inductive Speed where
  | _0_BPS | _50_BPS | _75_BPS | _110_BPS | _134_BPS | _150_BPS | _200_BPS | _300_BPS | _600_BPS
  | _1200_BPS | _1800_BPS | _2400_BPS | _4800_BPS | _9600_BPS | _19200_BPS | _38400_BPS
  | _57600_BPS | _115200_BPS | _230400_BPS | _460800_BPS | _500000_BPS | _576000_BPS
  | _921600_BPS | _1000000_BPS | _1152000_BPS | _1500000_BPS | _2000000_BPS | _2500000_BPS
  | _3000000_BPS | _3500000_BPS | _4000000_BPS
  deriving DecidableEq, Repr

namespace Speed

def values : List Speed :=
  [_0_BPS, _50_BPS, _75_BPS, _110_BPS, _134_BPS, _150_BPS, _200_BPS, _300_BPS, _600_BPS,
    _1200_BPS, _1800_BPS, _2400_BPS, _4800_BPS, _9600_BPS, _19200_BPS, _38400_BPS, _57600_BPS,
    _115200_BPS, _230400_BPS, _460800_BPS, _500000_BPS, _576000_BPS, _921600_BPS, _1000000_BPS,
    _1152000_BPS, _1500000_BPS, _2000000_BPS, _2500000_BPS, _3000000_BPS, _3500000_BPS,
    _4000000_BPS]

def value : Speed → ℕ
  | _0_BPS => 0
  | _50_BPS => 50
  | _75_BPS => 75
  | _110_BPS => 110
  | _134_BPS => 134
  | _150_BPS => 150
  | _200_BPS => 200
  | _300_BPS => 300
  | _600_BPS => 600
  | _1200_BPS => 1200
  | _1800_BPS => 1800
  | _2400_BPS => 2400
  | _4800_BPS => 4800
  | _9600_BPS => 9600
  | _19200_BPS => 19200
  | _38400_BPS => 38400
  | _57600_BPS => 57600
  | _115200_BPS => 115200
  | _230400_BPS => 230400
  | _460800_BPS => 460800
  | _500000_BPS => 500000
  | _576000_BPS => 576000
  | _921600_BPS => 921600
  | _1000000_BPS => 1000000
  | _1152000_BPS => 1152000
  | _1500000_BPS => 1500000
  | _2000000_BPS => 2000000
  | _2500000_BPS => 2500000
  | _3000000_BPS => 3000000
  | _3500000_BPS => 3500000
  | _4000000_BPS => 4000000

def name (speed : Speed) : String := "_" ++ toString speed.value ++ "_BPS"

theorem mem_values (speed : Speed) : speed ∈ values := by
  cases speed <;> decide

theorem value_injective {speed speed' : Speed} (same : speed.value = speed'.value) :
    speed = speed' := by
  have nodup : (values.map value).Nodup := by decide
  exact List.inj_on_of_nodup_map nodup (mem_values speed) (mem_values speed') same

end Speed

inductive DataBits where
  | DB_5
  | DB_6
  | DB_7
  | DB_8
  deriving DecidableEq, Repr

def DataBits.values : List DataBits := [.DB_5, .DB_6, .DB_7, .DB_8]

def DataBits.value : DataBits → ℕ
  | .DB_5 => 5
  | .DB_6 => 6
  | .DB_7 => 7
  | .DB_8 => 8

def DataBits.name : DataBits → String
  | .DB_5 => "DB_5"
  | .DB_6 => "DB_6"
  | .DB_7 => "DB_7"
  | .DB_8 => "DB_8"

inductive StopBits where
  | SB_1
  | SB_1_5
  | SB_2
  deriving DecidableEq, Repr

def StopBits.values : List StopBits := [.SB_1, .SB_1_5, .SB_2]

def StopBits.name : StopBits → String
  | .SB_1 => "SB_1"
  | .SB_1_5 => "SB_1_5"
  | .SB_2 => "SB_2"

inductive Parity where
  | NONE
  | ODD
  | EVEN
  | MARK
  | SPACE
  deriving DecidableEq, Repr

def Parity.values : List Parity := [.NONE, .ODD, .EVEN, .MARK, .SPACE]

def Parity.name : Parity → String
  | .NONE => "NONE"
  | .ODD => "ODD"
  | .EVEN => "EVEN"
  | .MARK => "MARK"
  | .SPACE => "SPACE"

inductive FlowControl where
  | RTS_CTS_IN
  | RTS_CTS_OUT
  | XON_XOFF_IN
  | XON_XOFF_OUT
  deriving DecidableEq, Repr

namespace FlowControl

def name : FlowControl → String
  | RTS_CTS_IN => "RTS_CTS_IN"
  | RTS_CTS_OUT => "RTS_CTS_OUT"
  | XON_XOFF_IN => "XON_XOFF_IN"
  | XON_XOFF_OUT => "XON_XOFF_OUT"

def values : List FlowControl := [RTS_CTS_IN, RTS_CTS_OUT, XON_XOFF_IN, XON_XOFF_OUT]

def getFC_RTS_CTS : Finset FlowControl := {RTS_CTS_IN, RTS_CTS_OUT}

/-- The text of a set lists it in the order of the enumeration, as that of an `EnumSet`. -/
def names (flowControls : Finset FlowControl) : String :=
  "[" ++ ", ".intercalate ((values.filter (· ∈ flowControls)).map name) ++ "]"

end FlowControl
end Spsw

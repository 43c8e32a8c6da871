import Spsw.Api.Settings

/-!
# What the settings of a port are

The settings a user sees, with stop bits that always go with the data bits, and
what each setter is to make of them. No provider is mentioned here.
-/
namespace Spsw

/-- One and a half stop bits go with 5 data bits, two stop bits with all others. -/
def StopBits.Fits : StopBits → DataBits → Prop
  | .SB_1, _ => True
  | .SB_1_5, dataBits => dataBits = .DB_5
  | .SB_2, dataBits => dataBits ≠ .DB_5

instance : (stopBits : StopBits) → (dataBits : DataBits) → Decidable (stopBits.Fits dataBits)
  | .SB_1, _ => isTrue trivial
  | .SB_1_5, dataBits => inferInstanceAs (Decidable (dataBits = .DB_5))
  | .SB_2, dataBits => inferInstanceAs (Decidable (dataBits ≠ .DB_5))

/-- More than one stop bit, with these data bits. -/
def DataBits.long (dataBits : DataBits) : StopBits :=
  if dataBits = .DB_5 then .SB_1_5 else .SB_2

theorem DataBits.long_fits (dataBits : DataBits) : dataBits.long.Fits dataBits := by
  cases dataBits <;> decide

/-- The stop bits after a change of the data bits. -/
def StopBits.adapt (stopBits : StopBits) (dataBits : DataBits) : StopBits :=
  if stopBits = .SB_1 then .SB_1 else dataBits.long

theorem StopBits.adapt_fits (stopBits : StopBits) (dataBits : DataBits) :
    (stopBits.adapt dataBits).Fits dataBits := by
  unfold StopBits.adapt
  split
  · trivial
  · exact dataBits.long_fits

structure PortSettings where
  speed : Speed
  dataBits : DataBits
  stopBits : StopBits
  parity : Parity
  flowControls : Finset FlowControl
  fits : stopBits.Fits dataBits

inductive SettingsCall where
  | setSpeed (speed : Speed)
  | setDataBits (dataBits : DataBits)
  | setStopBits (stopBits : StopBits)
  | setParity (parity : Parity)
  | setFlowControl (flowControls : Finset FlowControl)
  deriving DecidableEq

/-- RTS/CTS is asked for in both directions or in neither. -/
def SettingsCall.TwoSided : SettingsCall → Prop
  | .setFlowControl flowControls => .RTS_CTS_IN ∈ flowControls ↔ .RTS_CTS_OUT ∈ flowControls
  | _ => True

/-- What a call makes of the settings; `none` when it is refused. -/
def PortSettings.apply : SettingsCall → PortSettings → Option PortSettings
  | .setSpeed speed, x => some { x with speed := speed }
  | .setDataBits dataBits, x =>
      some { x with dataBits := dataBits
                    stopBits := x.stopBits.adapt dataBits
                    fits := x.stopBits.adapt_fits dataBits }
  | .setStopBits stopBits, x =>
      if fits : stopBits.Fits x.dataBits then
        some { x with stopBits := stopBits, fits := fits } else none
  | .setParity parity, x => some { x with parity := parity }
  | .setFlowControl flowControls, x => some { x with flowControls := flowControls }

end Spsw

import Spsw.Jni.SameTermios

/-!
# Both POSIX providers read the same settings

The native library packs a parameter into an int and Java takes it out again, so what a
getter returns is what was read off the structure. There both providers agree but for
the flow controls: the native library takes any flag of a constant for the whole.
-/
namespace Spsw.Jni
open Jnhw Stateful

/-- Getters of both providers that return the same, or throw both. -/
structure ReadAlike (p : Platform) (n : TermiosSocket) (c : PosixConfiguration)
    (s : Descriptors) : Prop where
  speed : reading (n.getSpeed p) s = reading (c.getSpeed p) s
  dataBits : reading (n.getDatatBits p) s = reading (c.getDatatBits p) s
  stopBits : reading (n.getStopBits p) s = reading (c.getStopBits p) s
  parity : reading (n.getParity p) s = reading (c.getParity p) s
  flowControls : reading (n.getFlowControl p) s = reading (c.getFlowControl p) s

/-- Of the flags of `mask` all are set, if any is. -/
def Undivided (mask word : BitVec 32) : Prop := word &&& mask ≠ 0#32 ↔ word &&& mask = mask

instance (mask word : BitVec 32) : Decidable (Undivided mask word) :=
  inferInstanceAs (Decidable (_ ↔ _))

/-- No flow control is set in part. -/
structure FlowControlUndivided (p : Platform) (termios : StructTermios) : Prop where
  hardware : Undivided p.CRTSCTS termios.c_cflag
  softIn : Undivided p.IXOFF termios.c_iflag
  softOut : Undivided p.IXON termios.c_iflag

section Unpacking
variable {p : Platform} {n : TermiosSocket} {termios : StructTermios}

/-! Each mask selects one field of `getParams`. -/

theorem getParamsOf_speed : getParamsOf p n termios SPEED_MASK = getSpeedBits p n termios := by
  have whole : getParamsOf p n termios SPEED_MASK =
      (getSpeedBits p n termios >>= fun speed =>
        pure (speed ||| 0#32 ||| 0#32 ||| 0#32 ||| 0#32)) := rfl
  rw [whole]
  simp only [BitVec.or_zero, bind_pure]

theorem getParamsOf_dataBits :
    getParamsOf p n termios DATA_BITS_MASK = getDataBitsBits p termios := by
  have whole : getParamsOf p n termios DATA_BITS_MASK =
      (getDataBitsBits p termios >>= fun dataBits =>
        pure (0#32 ||| dataBits ||| 0#32 ||| 0#32 ||| 0#32)) := rfl
  rw [whole]
  simp only [BitVec.or_zero, BitVec.zero_or, bind_pure]

theorem getParamsOf_stopBits :
    getParamsOf p n termios STOP_BITS_MASK = .ok (getStopBitsBits p termios) := by
  have whole : getParamsOf p n termios STOP_BITS_MASK =
      .ok (0#32 ||| 0#32 ||| getStopBitsBits p termios ||| 0#32 ||| 0#32) := rfl
  rw [whole]
  simp only [BitVec.or_zero, BitVec.zero_or]

theorem getParamsOf_parity :
    getParamsOf p n termios PARITY_MASK = .ok (getParityBits p termios) := by
  have whole : getParamsOf p n termios PARITY_MASK =
      .ok (0#32 ||| 0#32 ||| 0#32 ||| getParityBits p termios ||| 0#32) := rfl
  rw [whole]
  simp only [BitVec.or_zero, BitVec.zero_or]

theorem getParamsOf_flowControl :
    getParamsOf p n termios FLOW_CONTROL_MASK = .ok (getFlowControlBits p termios) := by
  have whole : getParamsOf p n termios FLOW_CONTROL_MASK =
      .ok (0#32 ||| 0#32 ||| 0#32 ||| 0#32 ||| getFlowControlBits p termios) := rfl
  rw [whole]
  simp only [BitVec.zero_or]

theorem fromBitSet_of_select {α : Type} {cases : List α} {constant : α → BitVec 32}
    {mask bits : BitVec 32} {what : String} {a : α}
    (selected : select cases constant (bits &&& mask) = some a) :
    fromBitSet cases constant mask what bits = .ok a := by
  rw [fromBitSet, selected]

/-- The native library and Java look the speed up in the same table. -/
theorem speed_alike :
    (getSpeedBits p n termios >>= speedFromBitSet).toOption = (p.getSpeed termios).toOption := by
  unfold getSpeedBits Platform.getSpeed
  by_cases differ : p.cfgetispeed termios ≠ p.cfgetospeed termios
  · simp only [if_pos differ]
    cases p.speed_t2speed (p.cfgetispeed termios) with
    | error e => rfl
    | ok inSpeed =>
        cases p.speed_t2speed (p.cfgetospeed termios) with
        | error e => rfl
        | ok outSpeed => rfl
  · simp only [if_neg differ, speed_t2Speed, Platform.speed_t2speed]
    cases Speed.values.find? fun speed => p.B speed = some (p.cfgetispeed termios) with
    | none => rfl
    | some speed => exact congrArg Except.toOption (speedFromBitSet_SPEED speed)

theorem getDatatBits_find : p.getDatatBits termios =
    match DataBits.values.find? fun dataBits => p.CS dataBits = termios.c_cflag &&& p.CSIZE with
    | some dataBits => .ok dataBits
    | none => .error (.illegalArgumentException
        ("Unknown databits in termios.c_cflag: " ++ toString termios.c_cflag.toInt)) := by
  simp only [Platform.getDatatBits, DataBits.values, List.find?_cons, List.find?_nil, Platform.CS,
    eq_comm (b := termios.c_cflag &&& p.CSIZE)]
  split
  · next five => simp only [decide_eq_true five]
  split
  · next notFive six => simp only [decide_eq_false notFive, decide_eq_true six]
  split
  · next notFive notSix seven =>
      simp only [decide_eq_false notFive, decide_eq_false notSix, decide_eq_true seven]
  split
  · next notFive notSix notSeven eight =>
      simp only [decide_eq_false notFive, decide_eq_false notSix,
        decide_eq_false notSeven, decide_eq_true eight]
  · next notFive notSix notSeven notEight =>
      simp only [decide_eq_false notFive, decide_eq_false notSix, decide_eq_false notSeven,
        decide_eq_false notEight]

theorem dataBits_alike :
    (getDataBitsBits p termios >>= dataBitsFromBitSet).toOption =
    (p.getDatatBits termios).toOption := by
  have unpacked : ∀ dataBits, dataBitsFromBitSet (DATA_BITS dataBits) = .ok dataBits :=
      fun dataBits =>
    fromBitSet_of_select (by cases dataBits <;> rfl)
  rw [getDataBitsBits, getDatatBits_find]
  cases DataBits.values.find? fun dataBits => p.CS dataBits = termios.c_cflag &&& p.CSIZE with
  | none => rfl
  | some dataBits => exact congrArg Except.toOption (unpacked dataBits)

/-- Stop bits of which only some flags are set have no code, so that both throw. -/
theorem stopBits_alike :
    (stopBitsFromBitSet (getStopBitsBits p termios)).toOption =
    (p.getStopBits termios).toOption := by
  unfold getStopBitsBits Platform.getStopBits
  split
  · rfl
  split
  · split
    · rfl
    · rfl
  · rfl

theorem parity_alike (single : p.CMSPAR = none ∨ p.PAREXT = none) :
    parityFromBitSet (getParityBits p termios) = .ok (p.getParity termios) := by
  unfold getParityBits Platform.getParity
  rw [parityExtension_eq single]
  split
  · rfl
  split
  · split
    · rfl
    · rfl
  · split
    · rfl
    · rfl

end Unpacking

section FlowControls
variable {p : Platform} {termios : StructTermios}

/-- The flow controls of three findings. -/
def flowControlsOf (hardware softIn softOut : Bool) : Finset FlowControl :=
  (if hardware = true then FlowControl.getFC_RTS_CTS
    else ∅) ∪ (if softIn = true then {.XON_XOFF_IN} else ∅) ∪
      (if softOut = true then {.XON_XOFF_OUT} else ∅)

theorem flowControlsOf_injective : ∀ a b c a' b' c',
    flowControlsOf a b c = flowControlsOf a' b' c' ↔ a = a' ∧ b = b' ∧ c = c' := by
  decide

/-- The bits for three findings. -/
def flowControlBits (hardware softIn softOut : Bool) : BitVec 32 :=
  let bits := (if hardware = true then FLOW_CONTROL .RTS_CTS_IN ||| FLOW_CONTROL .RTS_CTS_OUT
    else 0#32) ||| (if softIn = true then FLOW_CONTROL .XON_XOFF_IN else 0#32) |||
    (if softOut = true then FLOW_CONTROL .XON_XOFF_OUT else 0#32)
  if bits = 0#32 then FLOW_CONTROL_NONE else bits

theorem flowControlFromBitSet_bits : ∀ hardware softIn softOut,
    flowControlFromBitSet (flowControlBits hardware softIn softOut) =
      flowControlsOf hardware softIn softOut := by
  decide

theorem native_flowControls : flowControlFromBitSet (getFlowControlBits p termios) =
    flowControlsOf (decide (termios.c_cflag &&& p.CRTSCTS ≠ 0#32))
      (decide (termios.c_iflag &&& p.IXOFF ≠ 0#32))
      (decide (termios.c_iflag &&& p.IXON ≠ 0#32)) := by
  rw [← flowControlFromBitSet_bits]
  simp only [getFlowControlBits, flowControlBits, decide_eq_true_eq]

theorem java_flowControls : p.getFlowControl termios =
    flowControlsOf (decide (termios.c_cflag &&& p.CRTSCTS = p.CRTSCTS))
      (decide (termios.c_iflag &&& p.IXOFF = p.IXOFF))
      (decide (termios.c_iflag &&& p.IXON = p.IXON)) := by
  simp only [Platform.getFlowControl, flowControlsOf, decide_eq_true_eq]

/-- The flow controls are read alike exactly where none is set in part. -/
theorem flowControls_alike_iff :
    flowControlFromBitSet (getFlowControlBits p termios) = p.getFlowControl termios ↔
      FlowControlUndivided p termios := by
  rw [native_flowControls, java_flowControls, flowControlsOf_injective]
  simp only [decide_eq_decide]
  constructor
  · intro alike
    exact ⟨alike.1, alike.2.1, alike.2.2⟩
  · intro undivided
    exact ⟨undivided.hardware, undivided.softIn, undivided.softOut⟩

end FlowControls

section Getters
variable {p : Platform} {n : TermiosSocket} {c : PosixConfiguration} {s : Descriptors}
  {termios : StructTermios}

/-- What a getter of the native provider makes of the settings of an open device. -/
theorem reading_native {α : Type} (opened : s n.fd = some termios) (mask : BitVec 32)
    (decode : BitVec 32 → Except JavaException α) :
    reading (n.getParameters p mask >>= fun bitset => outcome (decode bitset)) s =
      (getParamsOf p n termios mask >>= decode).toOption := by
  have read : n.getParameters p mask s = outcome (getParamsOf p n termios mask) s :=
    bind_of_ok (getSettings_opened opened)
  cases packed : getParamsOf p n termios mask with
  | error e =>
      rw [packed] at read
      rw [reading, bind_of_error read]
      rfl
  | ok bitset =>
      rw [packed] at read
      rw [reading, bind_of_ok read, ← reading, reading_outcome]
      rfl

theorem readAlike_opened (single : p.CMSPAR = none ∨ p.PAREXT = none) (same : n.fd = c.fd)
    (opened : s c.fd = some termios) : ReadAlike p n c s ↔ FlowControlUndivided p termios := by
  have openedNative : s n.fd = some termios := same ▸ opened
  have flowControls : reading (n.getFlowControl p) s = reading (c.getFlowControl p) s ↔
      FlowControlUndivided p termios := by
    have native := reading_native (p := p) openedNative FLOW_CONTROL_MASK fun bitset =>
      .ok (flowControlFromBitSet bitset)
    have java := reading_getter opened fun termios => .ok (p.getFlowControl termios)
    rw [getParamsOf_flowControl] at native
    rw [← flowControls_alike_iff]
    exact (Eq.congr native java).trans (Option.some_inj)
  constructor
  · exact fun alike => flowControls.mp alike.flowControls
  · intro undivided
    refine ⟨?_, ?_, ?_, ?_, flowControls.mpr undivided⟩
    · have native := reading_native (p := p) openedNative SPEED_MASK speedFromBitSet
      rw [getParamsOf_speed, speed_alike] at native
      exact native.trans (reading_getter opened p.getSpeed).symm
    · have native := reading_native (p := p) openedNative DATA_BITS_MASK dataBitsFromBitSet
      rw [getParamsOf_dataBits, dataBits_alike] at native
      exact native.trans (reading_getter opened p.getDatatBits).symm
    · have native := reading_native (p := p) openedNative STOP_BITS_MASK stopBitsFromBitSet
      rw [getParamsOf_stopBits] at native
      exact (native.trans stopBits_alike).trans (reading_getter opened p.getStopBits).symm
    · have native := reading_native (p := p) openedNative PARITY_MASK parityFromBitSet
      have java := reading_getter opened fun termios => .ok (p.getParity termios)
      rw [getParamsOf_parity] at native
      exact (native.trans (congrArg Except.toOption (parity_alike single))).trans java.symm

/-- On a descriptor that is not open all getters throw. -/
theorem readAlike_closed (same : n.fd = c.fd) (closed : s c.fd = none) : ReadAlike p n c s := by
  have native : ∀ {α : Type} (mask : BitVec 32) (f : BitVec 32 → Configuring α),
      reading (n.getParameters p mask >>= f) s = none := by
    intro α mask f
    have refused : n.getParameters p mask s =
      .error (n.closedOrNative .EBADF "setParams tcsetattr") s :=
      bind_of_error (bind_of_ok (tcgetattr_closed (same ▸ closed)))
    rw [reading, bind_of_error refused]
  have java : ∀ {α : Type} (f : StructTermios → Configuring α),
      reading (c.getTermios >>= f) s = none := by
    intro α f
    rw [reading, bind_of_error (getTermios_closed closed)]
  constructor
  · exact (native _ _).trans (java _).symm
  · exact (native _ _).trans (java _).symm
  · exact (native _ _).trans (java _).symm
  · exact (native _ _).trans (java _).symm
  · exact (native _ _).trans (java _).symm

end Getters

/-- Whatever is on the device, both providers read it alike exactly if no flow control is set
in part. -/
theorem readAlike_iff (p : Platform) (single : p.CMSPAR = none ∨ p.PAREXT = none)
    (n : TermiosSocket) (c : PosixConfiguration) (same : n.fd = c.fd) (s : Descriptors) :
    ReadAlike p n c s ↔ ∀ termios, s c.fd = some termios → FlowControlUndivided p termios := by
  cases found : s c.fd with
  | none =>
      refine iff_of_true (readAlike_closed same found) ?_
      rintro termios ⟨⟩
  | some termios =>
      rw [readAlike_opened single same found]
      constructor
      · rintro undivided _ ⟨⟩
        exact undivided
      · exact fun undivided => undivided termios rfl

theorem readAlike_9600 : ReadAlike freeBSD ttyu0 cuau0 at9600 := by
  refine (readAlike_iff freeBSD (.inl rfl) ttyu0 cuau0 rfl at9600).mpr ?_
  rintro _ ⟨⟩
  exact ⟨by decide, by decide, by decide⟩

/-- The device answers to CTS and does not drive RTS, which are the two flags of `CRTSCTS`. -/
theorem readAlike_half :
    ¬∀ (p : Platform) (n : TermiosSocket) (c : PosixConfiguration) (s : Descriptors),
    (p.CMSPAR = none ∨ p.PAREXT = none) → n.fd = c.fd → ReadAlike p n c s := by
  intro alike
  have flowControls := (alike freeBSD ttyu0 cuau0
    (fun _ => some ⟨0, 0, 0x10300, 0, fun _ => 0, 9600, 9600⟩) (.inl rfl) rfl).flowControls
  exact absurd flowControls (by decide)

end Spsw.Jni

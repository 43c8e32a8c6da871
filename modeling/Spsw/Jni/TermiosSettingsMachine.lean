import Spsw.Interaction.Lockstep
import Spsw.Jni.SameDCB

/-!
# Two POSIX sockets on one device

The native library compares what it reads back as an int, the other provider parameter by
parameter. On a device that has no flow control set in part both checks come to the same,
so that neither socket can be told from the other by its settings, whatever the driver
makes of them.
-/
namespace Spsw.Jni
open Flags Jnhw Stateful
open JavaException (IsIllegalArgument)
open WinApiSettings (Fields Illegal fields_read foundField foundField_some illegal_bind
  illegal_error illegal_ok toBitSet_injective toOption_bind)

/-- The setters of the native POSIX socket. -/
def TermiosSocket.perform (p : Platform) (driver : Driver) (n : TermiosSocket)
    (call : SettingsCall) :
    Configuring Unit :=
  AbstractSerialPortSocket.perform n.portName (n.setParameters p driver) (n.getDatatBits p) call

section Reading
variable {p : Platform} {n : TermiosSocket} {termios : StructTermios}
  {r : Params} {mask : BitVec 32}

/-! Each field is the code of what the getter of the other provider finds. -/

theorem speed_coded :
    (getSpeedBits p n termios).toOption = (p.getSpeed termios).toOption.map SPEED := by
  unfold getSpeedBits Platform.getSpeed
  by_cases differ : p.cfgetispeed termios ≠ p.cfgetospeed termios
  · simp only [if_pos differ]
    cases p.speed_t2speed (p.cfgetispeed termios) with
    | error e => rfl
    | ok inSpeed =>
        cases p.speed_t2speed (p.cfgetospeed termios) with
        | error e => rfl
        | ok outSpeed => rfl
  · simp only [if_neg differ, speed_t2Speed, Platform.speed_t2speed]
    cases Speed.values.find? fun speed => p.B speed = some (p.cfgetispeed termios) with
    | none => rfl
    | some speed => rfl

theorem dataBits_coded :
    (getDataBitsBits p termios).toOption = (p.getDatatBits termios).toOption.map DATA_BITS := by
  rw [getDataBitsBits, getDatatBits_find]
  cases DataBits.values.find? fun dataBits => p.CS dataBits = termios.c_cflag &&& p.CSIZE with
  | none => rfl
  | some dataBits => rfl

/-- Stop bits of which some flags are set have the code of none. -/
theorem stopBits_coded :
    getStopBitsBits p termios = (p.getStopBits termios).toOption.elim 0#32 STOP_BITS := by
  unfold getStopBitsBits Platform.getStopBits
  split
  · rfl
  split
  · split
    · rfl
    · rfl
  · rfl

theorem parity_coded (single : p.CMSPAR = none ∨ p.PAREXT = none) :
    getParityBits p termios = PARITY (p.getParity termios) := by
  unfold getParityBits Platform.getParity
  rw [parityExtension_eq single]
  split
  · rfl
  split
  · split
    · rfl
    · rfl
  · split
    · rfl
    · rfl

theorem flowControlBits_found : ∀ hardware softIn softOut,
    flowControlBits hardware softIn softOut =
      flowControlsToBitSet (flowControlsOf hardware softIn softOut) := by
  decide

theorem flowControls_coded (undivided : FlowControlUndivided p termios) :
    getFlowControlBits p termios = flowControlsToBitSet (p.getFlowControl termios) := by
  rw [← flowControls_alike_iff.mpr undivided, native_flowControls, ← flowControlBits_found]
  simp only [getFlowControlBits, flowControlBits, decide_eq_true_eq]

/-- What the getters find of the requested parameters. -/
def foundOn (p : Platform) (termios : StructTermios) (r : Params) : Option Params := do
  let speed ← foundField r.speed (p.getSpeed termios)
  let dataBits ← foundField r.dataBits (p.getDatatBits termios)
  pure ⟨speed, dataBits,
    if r.stopBits.isSome = true then (p.getStopBits termios).toOption else none,
    r.parity.map fun _ => p.getParity termios, r.flowControls.map fun _ => p.getFlowControl termios⟩

theorem field_coded {α : Type} {requested : Option α} {native : Except JavaException (BitVec 32)}
    {java : Except JavaException α} {code : α → BitVec 32} {field : BitVec 32}
    (coded : native.toOption = java.toOption.map code)
    (there : mask &&& field ≠ 0#32 ↔ requested.isSome = true) :
    (if mask &&& field ≠ 0#32 then native else pure 0#32).toOption =
      (foundField requested java).map fun x => x.elim 0#32 code := by
  unfold foundField
  simp only [there]
  split
  · rw [coded, Option.map_map]
    rfl
  · rfl

theorem mapped_coded {α : Type} (requested : Option α) (a : α) (code : α → BitVec 32) :
    (if requested.isSome = true then code a else 0#32) =
    (requested.map fun _ => a).elim 0#32 code := by
  cases requested <;> rfl

theorem getParamsOf_fields (p : Platform) (n : TermiosSocket)
    (termios : StructTermios) (mask : BitVec 32) :
    getParamsOf p n termios mask =
      (if mask &&& SPEED_MASK ≠ 0#32 then getSpeedBits p n termios else pure 0#32) >>= fun speed =>
        (if mask &&& DATA_BITS_MASK ≠ 0#32 then getDataBitsBits p termios else pure 0#32) >>=
            fun dataBits =>
          pure (speed ||| dataBits |||
            (if mask &&& STOP_BITS_MASK ≠ 0#32 then getStopBitsBits p termios else 0#32) |||
            (if mask &&& PARITY_MASK ≠ 0#32 then getParityBits p termios else 0#32) |||
            (if mask &&& FLOW_CONTROL_MASK ≠ 0#32 then getFlowControlBits p termios else 0#32)) := by
  unfold getParamsOf
  by_cases speed : mask &&& SPEED_MASK ≠ 0#32
  · by_cases dataBits : mask &&& DATA_BITS_MASK ≠ 0#32
    · simp only [if_pos speed, if_pos dataBits]
    · simp only [if_pos speed, if_neg dataBits]
  · by_cases dataBits : mask &&& DATA_BITS_MASK ≠ 0#32
    · simp only [if_neg speed, if_pos dataBits]
    · simp only [if_neg speed, if_neg dataBits]

/-- What is read back are the parameters that the getters find, packed. -/
theorem getParamsOf_foundOn (single : p.CMSPAR = none ∨ p.PAREXT = none)
    (undivided : FlowControlUndivided p termios) (fields : Fields r mask) :
    (getParamsOf p n termios mask).toOption = (foundOn p termios r).map toBitSet := by
  have stopBits : (if mask &&& STOP_BITS_MASK ≠ 0#32 then getStopBitsBits p termios else 0#32) =
      (if r.stopBits.isSome = true then (p.getStopBits termios).toOption
        else none).elim 0#32 STOP_BITS := by
    rw [stopBits_coded]
    simp only [fields.stopBits]
    split
    · rfl
    · rfl
  have parity : (if mask &&& PARITY_MASK ≠ 0#32 then getParityBits p termios else 0#32) =
      (r.parity.map fun _ => p.getParity termios).elim 0#32 PARITY := by
    rw [parity_coded single]
    simp only [fields.parity]
    exact mapped_coded r.parity _ PARITY
  have flowControls : (if mask &&& FLOW_CONTROL_MASK ≠ 0#32 then getFlowControlBits p termios
      else 0#32) =
      (r.flowControls.map fun _ => p.getFlowControl termios).elim 0#32 flowControlsToBitSet := by
    rw [flowControls_coded undivided]
    simp only [fields.flowControls]
    exact mapped_coded r.flowControls _ flowControlsToBitSet
  rw [getParamsOf_fields, stopBits, parity, flowControls]
  unfold foundOn
  simp only [toOption_bind, field_coded speed_coded fields.speed,
    field_coded dataBits_coded fields.dataBits]
  cases foundField r.speed (p.getSpeed termios) with
  | none => rfl
  | some speed =>
  cases foundField r.dataBits (p.getDatatBits termios) with
  | none => rfl
  | some dataBits => rfl

/-- A parameter found without fail is the one requested. -/
theorem map_found {α : Type} {requested : Option α} {a : α} :
    (requested.map fun _ => a) = requested ↔ ∀ b, requested = some b → a = b := by
  cases requested with
  | none => simp
  | some b => simp

theorem stopBits_found {requested : Option StopBits} {java : Except JavaException StopBits} :
    (if requested.isSome = true then java.toOption else none) = requested ↔
    ∀ a, requested = some a → java = .ok a := by
  cases requested with
  | none => simp
  | some a =>
      cases java with
      | error e => simp [Except.toOption]
      | ok b => simp [Except.toOption]

/-- The getters find what was requested exactly when the device reads back the request. -/
theorem foundOn_iff : foundOn p termios r = some r ↔ ReadsBack p r termios := by
  constructor
  · intro whole
    obtain ⟨speed, speedFound, rest⟩ := Option.bind_eq_some_iff.mp whole
    obtain ⟨dataBits, dataFound, rest⟩ := Option.bind_eq_some_iff.mp rest
    have same := Option.some.inj rest
    obtain rfl : speed = r.speed := congrArg Params.speed same
    obtain rfl : dataBits = r.dataBits := congrArg Params.dataBits same
    exact ⟨foundField_some.mp speedFound, foundField_some.mp dataFound,
      stopBits_found.mp (congrArg Params.stopBits same), map_found.mp (congrArg Params.parity same),
      map_found.mp (congrArg Params.flowControls same)⟩
  · intro reads
    unfold foundOn
    rw [foundField_some.mpr reads.speed, foundField_some.mpr reads.dataBits,
      stopBits_found.mpr reads.stopBits, map_found.mpr reads.parity,
      map_found.mpr reads.flowControls]
    rfl

/-- The check passes exactly on what reads back the request. -/
theorem native_verify_iff (single : p.CMSPAR = none ∨ p.PAREXT = none)
    (undivided : FlowControlUndivided p termios) :
    verify p n termios (toBitSet r) = .ok () ↔ p.verify r termios = .ok () := by
  have read : (getParamsOf p n termios (paramsToRead (toBitSet r))).toOption = _ :=
    getParamsOf_foundOn single undivided (fields_read (toBitSet_packed r))
  rw [Jnhw.verify_iff, ← foundOn_iff]
  cases whole : getParamsOf p n termios (paramsToRead (toBitSet r)) with
  | error e =>
      rw [whole] at read
      have missing : foundOn p termios r = none := Option.map_eq_none_iff.mp read.symm
      rw [verify, whole, missing]
      constructor
      · rintro ⟨⟩
      · rintro ⟨⟩
  | ok paramsRead =>
      rw [whole] at read
      obtain ⟨r', there, packed⟩ := Option.map_eq_some_iff.mp read.symm
      have checked : verify p n termios (toBitSet r) = .ok () ↔ paramsRead = toBitSet r := by
        rw [verify, whole]
        by_cases same : paramsRead = toBitSet r
        · exact iff_of_true (if_pos same) same
        · refine iff_of_false (fun passed => ?_) same
          cases (if_neg same).symm.trans passed
      rw [checked, there, ← packed, Option.some_inj]
      constructor
      · exact fun same => toBitSet_injective same
      · exact fun same => congrArg toBitSet same

end Reading

section Complaints
variable {p : Platform} {n : TermiosSocket} {termios : StructTermios} {r : Params}

theorem illegal_mismatch {α : Type} [DecidableEq α] {what : String} {name : α → String}
    {requested : Option α} {java : Except JavaException α}
    (illegal : requested ≠ none → Illegal java) :
    Illegal (Platform.mismatch what name requested java) := by
  cases requested with
  | none => exact illegal_ok _
  | some a =>
      refine illegal_bind (illegal (by simp)) fun read => ?_
      split
      · exact illegal_ok _
      · exact illegal_ok _

/-- Two speeds that differ are the only thing read back that is not complained of as an
illegal argument. -/
theorem illegal_java_verify
    (oneSpeed : r.speed ≠ none → p.cfgetispeed termios = p.cfgetospeed termios) :
    Illegal (p.verify r termios) := by
  have speed : r.speed ≠ none → Illegal (p.getSpeed termios) := by
    intro requested
    rw [getSpeed_same (oneSpeed requested), Platform.getInSpeed, Platform.speed_t2speed]
    split
    · exact illegal_ok _
    · exact illegal_error _
  have stopBits : Illegal (p.getStopBits termios) := by
    unfold Platform.getStopBits
    split
    · exact illegal_ok _
    split
    · split
      · exact illegal_ok _
      · exact illegal_ok _
    · exact illegal_error _
  have dataBits : Illegal (p.getDatatBits termios) := by
    rw [getDatatBits_find]
    cases DataBits.values.find? fun dataBits => p.CS dataBits = termios.c_cflag &&& p.CSIZE with
    | none => exact illegal_error _
    | some dataBits => exact illegal_ok _
  refine illegal_bind (illegal_mismatch fun _ => illegal_ok _) fun _ =>
      illegal_bind (illegal_mismatch speed) fun _ =>
    illegal_bind (illegal_mismatch fun _ => stopBits) fun _ =>
        illegal_bind (illegal_mismatch fun _ => dataBits) fun _ =>
      illegal_bind (illegal_mismatch fun _ => illegal_ok _) fun _ => ?_
  dsimp only
  split
  · exact illegal_ok _
  · exact illegal_error _

/-- The native library complains of them otherwise. -/
theorem native_verify_speeds (requested : r.speed ≠ none)
    (differ : p.cfgetispeed termios ≠ p.cfgetospeed termios) :
    verify p n termios (toBitSet r) =
      .error (n.nativeError n.errno "In and out speed mismatch") := by
  have read : paramsToRead (toBitSet r) &&& SPEED_MASK ≠ 0#32 := by
    rw [(fields_read (toBitSet_packed r)).speed]
    cases speed : r.speed with
    | none => exact absurd speed requested
    | some speed => rfl
  rw [verify, getParamsOf_fields, if_pos read, getSpeedBits, if_pos differ]
  rfl

/-- What the native library takes for an illegal argument, the other provider does as well. -/
theorem verify_like {e e' : JavaException} (native : verify p n termios (toBitSet r) = .error e)
    (java : p.verify r termios = .error e') : IsIllegalArgument e → IsIllegalArgument e' := by
  rintro ⟨m, rfl⟩
  by_cases oneSpeed : r.speed ≠ none → p.cfgetispeed termios = p.cfgetospeed termios
  · exact illegal_java_verify oneSpeed e' java
  · obtain ⟨requested, differ⟩ := Classical.not_imp.mp oneSpeed
    cases (native_verify_speeds requested differ).symm.trans native

end Complaints

section Undivided
variable {p : Platform} {r : Params} {termios t₁ t₃ t₅ : StructTermios} {m word word' : BitVec 32}

theorem Undivided.congr (undivided : Undivided m word) (agree : Agree m word' word) :
    Undivided m word' := by
  unfold Undivided
  rw [show word' &&& m = word &&& m from agree]
  exact undivided

theorem undivided_set (nonzero : m ≠ 0#32) (word : BitVec 32) : Undivided m (word ||| m) := by
  unfold Undivided
  rw [set_under]
  exact iff_of_true nonzero rfl

theorem undivided_clear (nonzero : m ≠ 0#32) (cleared : word &&& m = 0#32) : Undivided m word := by
  unfold Undivided
  rw [cleared]
  exact iff_of_false (not_not_intro rfl) nonzero.symm

/-- Flow controls are set as a whole, whatever was set of them before. -/
theorem flowControlled_undivided (lawful : p.Lawful) (termios : StructTermios)
    (set : Finset FlowControl) :
    FlowControlUndivided p (flowControlled p termios set) := by
  have hardware : p.CRTSCTS ≠ 0#32 := lawful.some _ (by simp)
  have on : p.IXON ≠ 0#32 := lawful.inputSome _ (by simp)
  have off : p.IXOFF ≠ 0#32 := lawful.inputSome _ (by simp)
  have apart := lawful.inputApart
  simp only [List.pairwise_cons, List.mem_cons, List.not_mem_nil, or_false,
    forall_eq_or_imp, forall_eq] at apart
  obtain ⟨-, onOff, -⟩ := apart
  have clearOn := clear_under (within_left p.IXON p.IXOFF) termios.c_iflag
  have clearOff := clear_under (within_right p.IXON p.IXOFF) termios.c_iflag
  refine ⟨?_, ?_, ?_⟩
  · simp only [flowControlled]
    split
    · exact undivided_set hardware _
    · exact undivided_clear hardware (clear_under (within_refl _) _)
  · have soft : Undivided p.IXOFF
      (if .XON_XOFF_IN ∈ set then termios.c_iflag &&& ~~~(p.IXON ||| p.IXOFF) ||| p.IXOFF
        else termios.c_iflag &&& ~~~(p.IXON ||| p.IXOFF)) := by
      split
      · exact undivided_set off _
      · exact undivided_clear off clearOff
    simp only [flowControlled]
    split
    · exact soft.congr (agree_set onOff.symm _)
    · exact soft
  · simp only [flowControlled]
    split
    · exact undivided_set on _
    · refine (undivided_clear on clearOn).congr ?_
      split
      · exact agree_set onOff _
      · exact agree_refl _ _

theorem altered_undivided (altered : Altered p r termios t₁ t₃ t₅) (lawful : p.Lawful)
    (undivided : FlowControlUndivided p termios) : FlowControlUndivided p t₅ := by
  have set₅ := altered.flowControls
  cases requested : r.flowControls with
  | some set =>
      rw [requested] at set₅
      by_cases twoSided : .RTS_CTS_IN ∈ set ↔ .RTS_CTS_OUT ∈ set
      · rw [setFlowControl_twoSided twoSided] at set₅
        cases set₅
        exact flowControlled_undivided lawful _ set
      · rw [setFlowControl_oneSided _ _ twoSided] at set₅
        cases set₅
  | none =>
      rw [requested] at set₅
      cases set₅
      have apart := lawful.fieldsApart
      have within := fieldsWithin p
      have alters₂ := alters_dataBits lawful t₁ r.dataBits
      have alters₃ := alters_stopBits altered.stopBits
      have alters₄ := alters_parity (p := p) t₃ r.parity
      have flow₃ := (alters₃.cflag apart.stopFlow.symm).trans (alters₂.cflag apart.sizeFlow.symm)
      have input₃ : Agree (p.IXON ||| p.IXOFF) t₃.c_iflag t₁.c_iflag :=
        (alters₃.iflag (apart_zero _)).trans (alters₂.iflag (apart_zero _))
      have flow := ((alters₄.cflag apart.flowParity).trans flow₃).trans
        (altered.speeds.c_cflag.within within.flow)
      have input := ((alters₄.iflag apart.inputFlow).trans input₃).trans
        (altered.speeds.c_iflag.within within.inputFlow)
      exact ⟨undivided.hardware.congr flow,
        undivided.softIn.congr (input.within (within_right _ _)),
        undivided.softOut.congr (input.within (within_left _ _))⟩

/-- The structure handed to `tcsetattr` has no flow control set in part if the device has none. -/
theorem alter_undivided {c : PosixConfiguration} {s : Descriptors}
    {given : StructTermios} (lawful : p.Lawful) (documented : p.Documented)
    (made : c.alter p r termios s = .ok given s) (undivided : FlowControlUndivided p termios) :
    FlowControlUndivided p given := by
  have defined : ∀ speed, r.speed = some speed → p.B speed ≠ none := by
    intro speed requested missing
    obtain ⟨e, refused⟩ := setBothSpeeds_undefined (p := p) (c := c) (s := s) termios missing
    rw [← requested] at refused
    have thrown : c.alter p r termios s = _ := bind_of_error refused
    cases thrown.symm.trans made
  obtain ⟨t₁, set₁, speeds⟩ :=
    setBothSpeeds_defined (c := c) (s := s) lawful documented termios defined
  have rest : c.alter p r termios s = _ := bind_of_ok set₁
  rw [rest] at made
  obtain ⟨t₃, s₃, set₃, made⟩ := bind_ok made
  exact altered_undivided ⟨speeds, outcome_ok set₃, outcome_ok made⟩ lawful undivided

end Undivided

section Calls
variable {p : Platform} {driver : Driver} {n : TermiosSocket} {c : PosixConfiguration}
  {r : Params} {s s' : Descriptors} {current given : StructTermios} {call : SettingsCall}

/-- What the native library throws as an illegal argument, the other provider does as well. -/
def Like (native java : JavaException) : Prop := IsIllegalArgument native → IsIllegalArgument java

/-- No flow control is set in part on the device. -/
def HoldsWhole (p : Platform) (c : PosixConfiguration) (s : Descriptors) : Prop :=
  ∀ termios, s c.fd = some termios → FlowControlUndivided p termios

/-- The driver makes no flow control that is set in part of those that are not. -/
def StoresWhole (p : Platform) (driver : Driver) : Prop :=
  ∀ current given, FlowControlUndivided p current → FlowControlUndivided p given →
    FlowControlUndivided p (driver current given).1

theorem like_illegal (m m' : String) :
    Like (.illegalArgumentException m) (.illegalArgumentException m') :=
  fun _ => ⟨m', rfl⟩

theorem like_io {m m' : String} : Like (.ioException m) (.ioException m') := by
  rintro ⟨_, ⟨⟩⟩

theorem closedOrNative_io (n : TermiosSocket) (errno : Errno) (message : String) :
    ∃ m, n.closedOrNative errno message = .ioException m := by
  unfold TermiosSocket.closedOrNative TermiosSocket.nativeError
  split
  · exact ⟨_, rfl⟩
  · exact ⟨_, rfl⟩

theorem tcsetattrException_like (errno : Errno) :
    Like (tcsetattrException n "setParams" errno) (c.tcsetattrException r errno) := by
  unfold tcsetattrException PosixConfiguration.tcsetattrException
  split
  · exact like_illegal _ _
  · exact like_illegal _ _
  · obtain ⟨m, io⟩ := closedOrNative_io n errno "setParams tcsetattr"
    refine fun illegal => ?_
    obtain ⟨m', illegal⟩ := illegal
    cases io.symm.trans illegal

theorem tcsetattr_stored (opened : s c.fd = some current) : ∃ answer,
    tcsetattr driver c.fd given s =
      .ok answer (Function.update s c.fd (some (driver current given).1)) := by
  cases reported : (driver current given).2 with
  | none =>
      refine ⟨.ok (), get_bind.trans ?_⟩
      rw [opened]
      simp only [reported]
      rfl
  | some errno =>
      refine ⟨.error errno, get_bind.trans ?_⟩
      rw [opened]
      simp only [reported]
      rfl

theorem whole_update (stored : FlowControlUndivided p (driver current given).1) :
    HoldsWhole p c (Function.update s c.fd (some (driver current given).1)) := by
  intro termios there
  rw [Function.update_self] at there
  cases there
  exact stored

/-- What both make of the settings they read back. -/
theorem checked_same (single : p.CMSPAR = none ∨ p.PAREXT = none) (same : n.fd = c.fd)
    (opened : s c.fd = some current) (whole : HoldsWhole p c s) :
    SameOutcome Like ((n.getSettings "setParams tcsetattr" >>= fun settings =>
        outcome (verify p n settings (toBitSet r))) s)
        ((c.getTermios >>= fun termios => outcome (p.verify r termios)) s) ∧
      HoldsWhole p c (outcomeState
        ((c.getTermios >>= fun termios => outcome (p.verify r termios)) s)) := by
  have native : (n.getSettings "setParams tcsetattr" >>= fun settings =>
    outcome (verify p n settings (toBitSet r))) s =
      _ := bind_of_ok (getSettings_opened (same ▸ opened))
  have java : (c.getTermios >>= fun termios => outcome (p.verify r termios)) s = _ :=
    bind_of_ok (getTermios_opened opened)
  have verified := native_verify_iff (n := n) (r := r) single (whole current opened)
  rw [native, java]
  cases first : verify p n current (toBitSet r) with
  | ok u =>
      rw [verified.mp first]
      exact ⟨.ok () s, whole⟩
  | error e =>
      cases second : p.verify r current with
      | ok u => cases (verified.mpr second).symm.trans first
      | error e' => exact ⟨.error (verify_like first second) s, whole⟩

theorem acceptsSpeeds (documented : p.Documented) : AcceptsSpeeds p := by
  intro termios speed value defined
  obtain ⟨termios', accepted, -⟩ := documented.cfsetspeed termios speed value defined
  exact ⟨termios', accepted⟩

/-- One request, of both. -/
theorem setParams_same (single : p.CMSPAR = none ∨ p.PAREXT = none) (lawful : p.Lawful)
    (documented : p.Documented) (stores : StoresWhole p driver) (same : n.fd = c.fd)
    (whole : HoldsWhole p c s) (r : Params) :
    SameOutcome Like (n.setParameters p driver (toBitSet r) s) (c.setParams p driver r s) ∧
      HoldsWhole p c (outcomeState (c.setParams p driver r s)) := by
  cases opened : s c.fd with
  | none =>
      obtain ⟨m, io⟩ := closedOrNative_io n .EBADF "setParameters tcgetattr"
      have native : n.setParameters p driver (toBitSet r) s = .error (.ioException m) s := by
        rw [← io]
        exact bind_of_error (bind_of_ok (tcgetattr_closed (same ▸ opened)))
      have java : c.setParams p driver r s = _ := bind_of_error (getTermios_closed opened)
      rw [native, java]
      exact ⟨.error like_io s, whole⟩
  | some current =>
      have nativeRead : n.setParameters p driver (toBitSet r) s = _ :=
        bind_of_ok (getSettings_opened (same ▸ opened))
      have javaRead : c.setParams p driver r s = _ := bind_of_ok (getTermios_opened opened)
      rw [nativeRead, javaRead]
      rcases alter_alike (n := n) (c := c) (s := s) current single (acceptsSpeeds documented)
          (toBitSet_packed r) with
        ⟨given, native, java⟩ | ⟨m, m', native, java⟩
      · have stored : ∃ answer, tcsetattr driver c.fd given s =
            .ok answer (Function.update s c.fd (some (driver current given).1)) :=
              tcsetattr_stored opened
        obtain ⟨answer, answered⟩ := stored
        have made : outcome (alter p n current (toBitSet r)) s = .ok given s := by
          rw [native]
          rfl
        have nativeAnswered : tcsetattr driver n.fd given s =
            .ok answer (Function.update s c.fd (some (driver current given).1)) := by
          rw [same]
          exact answered
        have nativeAsked : n.setParams p driver current (toBitSet r) s = _ :=
          (bind_of_ok made).trans (bind_of_ok nativeAnswered)
        have javaAsked : c.setParamsOn p driver current r s = _ :=
          (bind_of_ok java).trans (bind_of_ok answered)
        have kept : HoldsWhole p c (Function.update s c.fd (some (driver current given).1)) :=
          whole_update (stores current given (whole current opened)
            (alter_undivided lawful documented java (whole current opened)))
        rw [nativeAsked, javaAsked]
        cases answer with
        | error errno => exact ⟨.error (tcsetattrException_like errno) _, kept⟩
        | ok u =>
            cases u
            exact checked_same single same (Function.update_self _ _ _) kept
      · have refused : n.setParams p driver current (toBitSet r) s =
            .error (.illegalArgumentException m) s := by
          refine bind_of_error ?_
          rw [native]
          rfl
        have javaRefused : c.setParamsOn p driver current r s = _ := bind_of_error java
        rw [refused, javaRefused]
        exact ⟨.error (like_illegal m m') s, whole⟩

theorem keeps_getDatatBits (p : Platform) (n : TermiosSocket) : Keeps (n.getDatatBits p) := by
  have settings : Keeps (n.getSettings "setParams tcsetattr") := by
    intro s
    cases opened : s n.fd with
    | none => exact .inr ⟨_, bind_of_ok (tcgetattr_closed opened)⟩
    | some termios => exact .inl ⟨termios, getSettings_opened opened⟩
  have parameters : Keeps (n.getParameters p DATA_BITS_MASK) :=
    keeps_bind settings fun _ => keeps_outcome _
  exact keeps_bind parameters fun _ => keeps_outcome _

/-- One call, on both sockets. -/
theorem perform_same (single : p.CMSPAR = none ∨ p.PAREXT = none) (lawful : p.Lawful)
    (documented : p.Documented) (stores : StoresWhole p driver) (same : n.fd = c.fd)
    (call : SettingsCall) (s : Descriptors) (whole : HoldsWhole p c s) :
    SameOutcome Like (n.perform p driver call s) (c.perform p driver call s) ∧
      HoldsWhole p c (outcomeState (c.perform p driver call s)) := by
  obtain ⟨alike, kept⟩ := setParams_same single lawful documented stores same whole call.params
  refine ⟨?_, kept⟩
  cases native : n.setParameters p driver (toBitSet call.params) s with
  | ok u s' =>
      rw [native] at alike
      rw [TermiosSocket.perform, AbstractSerialPortSocket.perform_ok native]
      exact alike
  | error e s' =>
      obtain ⟨e', thrown, illegal⟩ : ∃ e', n.perform p driver call s = .error e' s' ∧
        (e'.IsIllegalArgument → _) :=
        AbstractSerialPortSocket.perform_error (keeps_getDatatBits p n) native
      rw [native] at alike
      rw [thrown, PosixConfiguration.perform]
      cases java : c.setParams p driver call.params s with
      | ok u t =>
          rw [java] at alike
          cases alike
      | error e'' t =>
          rw [java] at alike
          cases alike with
          | error like => exact .error (fun own => like (illegal own)) s'

end Calls

/-- Whatever the driver makes of them, any settings calls are answered alike by both POSIX
sockets and leave the device in one state, which both read alike. -/
theorem posix_sockets_alike (p : Platform) (single : p.CMSPAR = none ∨ p.PAREXT = none)
    (lawful : p.Lawful) (documented : p.Documented)
    (driver : Driver) (stores : StoresWhole p driver) (n : TermiosSocket)
    (c : PosixConfiguration) (same : n.fd = c.fd) (s : Descriptors) (whole : HoldsWhole p c s)
    (calls : List SettingsCall) :
    List.Forall₂ (SameAnswer Like) (answers (n.perform p driver) calls s).1
        (answers (c.perform p driver) calls s).1 ∧
      (answers (n.perform p driver) calls s).2 = (answers (c.perform p driver) calls s).2 ∧
      ReadAlike p n c (answers (c.perform p driver) calls s).2 := by
  obtain ⟨all, states, kept⟩ :=
    answers_alike (perform_same single lawful documented stores same) calls s whole
  exact ⟨all, states, (readAlike_iff p single n c same _).mpr kept⟩

/-- A driver that knows no speed above 9600 and reports nothing. -/
def slowDriver : Driver := fun current given =>
  (if 9600 < given.c_ospeed
    then { given with c_ispeed := current.c_ispeed, c_ospeed := current.c_ospeed } else given,
    none)

theorem slowDriver_whole : StoresWhole freeBSD slowDriver := by
  intro current given _ undivided
  unfold slowDriver
  split
  · exact ⟨undivided.hardware, undivided.softIn, undivided.softOut⟩
  · exact undivided

/-- The first call is refused by both, the second is not. -/
theorem posix_sockets_alike_slow :
    List.Forall₂ (SameAnswer Like)
        (answers (ttyu0.perform freeBSD slowDriver) [.setSpeed ._115200_BPS,
          .setParity .EVEN] at9600).1 (answers (cuau0.perform freeBSD slowDriver)
          [.setSpeed ._115200_BPS, .setParity .EVEN] at9600).1 ∧
      (answers (ttyu0.perform freeBSD slowDriver) [.setSpeed ._115200_BPS,
        .setParity .EVEN] at9600).2 =
        (answers (cuau0.perform freeBSD slowDriver) [.setSpeed ._115200_BPS,
          .setParity .EVEN] at9600).2 ∧
      ReadAlike freeBSD ttyu0 cuau0
        (answers (cuau0.perform freeBSD slowDriver) [.setSpeed ._115200_BPS,
          .setParity .EVEN] at9600).2 :=
  posix_sockets_alike freeBSD
    (.inl rfl) freeBSD_lawful freeBSD_documented slowDriver slowDriver_whole ttyu0 cuau0 rfl at9600
    (by rintro _ ⟨⟩; exact ⟨by
    decide, by decide, by decide⟩) [.setSpeed ._115200_BPS, .setParity .EVEN]

end Spsw.Jni

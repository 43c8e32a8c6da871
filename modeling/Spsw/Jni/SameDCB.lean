import Spsw.Jni.AbstractSerialPortSocket
import Spsw.Jni.SameReadings
import Spsw.Jni.WinApiSettings

/-!
# Both Windows providers keep one `DCB`

Each step of the native `setParams` alters the `DCB` as the setter of `DCB` does, and
each field is packed into the code of what its getter finds. Only what is checked at
the end differs: the native library checks what the device has, the other provider
what it was given.
-/
namespace Spsw.Jni.WinApiSettings
open Flags Jnhw Stateful

open AbstractSerialPortSocket (toBitSet_params)

section Altering
variable {dcb : DCB} {r : Params} {bits : BitVec 32}

theorem setSpeedBits_eq (packed : Packed r bits) :
    setSpeedBits dcb bits = .ok (dcb.setSpeed r.speed) := by
  rw [setSpeedBits, packed.speed]
  rcases r.speed with _ | speed
  · rfl
  · cases speed <;> rfl

theorem setDataBitsBits_eq (packed : Packed r bits) :
    setDataBitsBits dcb bits = .ok (dcb.setDataBits r.dataBits) := by
  rw [setDataBitsBits, packed.dataBits]
  rcases r.dataBits with _ | dataBits
  · rfl
  · cases dataBits <;> rfl

theorem setStopBitsBits_eq (packed : Packed r bits) :
    setStopBitsBits dcb bits = dcb.setStopBits r.stopBits := by
  rw [setStopBitsBits, packed.stopBits]
  rcases r.stopBits with _ | stopBits
  · rfl
  · cases stopBits <;> rfl

theorem setParityBits_eq (packed : Packed r bits) :
    setParityBits dcb bits = .ok (dcb.setParity r.parity) := by
  rw [setParityBits, packed.parity]
  rcases r.parity with _ | parity
  · rfl
  · cases parity <;> rfl

/-- What lies under the mask of a field can be looked for in the whole word. -/
theorem under_within {word mask flag : BitVec 32} (within : Within flag mask) :
    word &&& mask &&& flag = word &&& flag := by
  rw [BitVec.and_assoc, BitVec.and_comm mask, show flag &&& mask = flag from within]

theorem flowControlsToBitSet_tells (set : Finset FlowControl) :
    flowControlsToBitSet set ≠ 0#32 ∧
      (flowControlsToBitSet set &&& FLOW_CONTROL_NONE ≠ 0#32 ↔ set = ∅) ∧
      ∀ fc, flowControlIn (flowControlsToBitSet set) fc = decide (fc ∈ set) := by
  have tells := packed_tells (List.filter_sublist (p := (· ∈ set)) (l := FlowControl.values))
  have mem : ∀ fc, flowControlIn (flowControlsToBitSet set) fc = decide (fc ∈ set) := by
    intro fc
    have member : fc ∈ FlowControl.values := by cases fc <;> decide
    rw [flowControlsToBitSet_packed, tells.mem fc member]
    simp [member]
  have nonzero := tells.nonzero
  rw [← flowControlsToBitSet_packed] at nonzero
  refine ⟨nonzero, ?_, mem⟩
  have every : ∀ list ∈ FlowControl.values.sublists, packed list &&& FLOW_CONTROL_NONE ≠ 0#32 ↔
      list = [] := by
    decide
  rw [flowControlsToBitSet_packed, every _ (List.mem_sublists.mpr List.filter_sublist),
    List.filter_eq_nil_iff, Finset.eq_empty_iff_forall_notMem]
  constructor
  · intro none fc
    simpa using none fc (by cases fc <;> decide)
  · intro none fc _
    simpa using none fc

theorem setFlowControlBits_eq (packed : Packed r bits) :
    setFlowControlBits dcb bits = dcb.setFlowControl r.flowControls := by
  have none : bits &&& FLOW_CONTROL_NONE = bits &&& FLOW_CONTROL_MASK &&& FLOW_CONTROL_NONE :=
    (under_within (by decide)).symm
  have found : ∀ fc, flowControlIn bits fc = flowControlIn (bits &&& FLOW_CONTROL_MASK) fc := by
    intro fc
    have within : Within (FLOW_CONTROL fc) FLOW_CONTROL_MASK := by cases fc <;> decide
    rw [flowControlIn, flowControlIn, under_within within]
  simp only [setFlowControlBits, none, found, packed.flowControls]
  rcases r.flowControls with _ | set
  · rfl
  · obtain ⟨nonzero, empty, mem⟩ := flowControlsToBitSet_tells set
    simp only [Option.elim_some, if_neg nonzero, empty, mem, DCB.setFlowControl, decide_eq_true_eq]
    split
    · next nothing =>
        subst nothing
        rfl
    · rfl

theorem alter_eq (packed : Packed r bits) : alter dcb bits = dcb.alter r := by
  simp only [alter, setSpeedBits_eq packed, setDataBitsBits_eq packed, setStopBitsBits_eq packed,
    setParityBits_eq packed, setFlowControlBits_eq packed]
  rfl

end Altering

section Packing

theorem SPEED_nonzero (speed : Speed) : SPEED speed ≠ 0#32 := by cases speed <;> decide

/-- A parameter that is there has a code other than zero, and no other parameter has it. -/
theorem elim_injective {α : Type} {code : α → BitVec 32} (nonzero : ∀ a, code a ≠ 0#32)
    (injective : ∀ a a', code a = code a' → a = a') {x y : Option α}
    (same : x.elim 0#32 code = y.elim 0#32 code) :
    x = y := by
  cases x with
  | none =>
      cases y with
      | none => rfl
      | some b => exact absurd same.symm (nonzero b)
  | some a =>
      cases y with
      | none => exact absurd same (nonzero a)
      | some b => exact congrArg some (injective a b same)

theorem flowControlsToBitSet_injective {set set' : Finset FlowControl}
    (same : flowControlsToBitSet set = flowControlsToBitSet set') : set = set' := by
  ext fc
  have found := (flowControlsToBitSet_tells set).2.2 fc
  rw [same, (flowControlsToBitSet_tells set').2.2 fc] at found
  exact (decide_eq_decide.mp found).symm

theorem toBitSet_injective {r r' : Params} (same : toBitSet r = toBitSet r') : r = r' := by
  have packed := toBitSet_packed r
  have packed' := toBitSet_packed r'
  rw [← same] at packed'
  obtain ⟨speed, dataBits, stopBits, parity, flowControls⟩ := r
  obtain ⟨speed', dataBits', stopBits', parity', flowControls'⟩ := r'
  obtain rfl : speed = speed' := elim_injective SPEED_nonzero (fun _ _ => SPEED_injective)
    (packed.speed.symm.trans packed'.speed)
  obtain rfl : dataBits = dataBits' := elim_injective (by rintro (_ | _ | _ | _) <;> decide)
    (by rintro (_ | _ | _ | _) (_ | _ | _ | _) <;> decide) (packed.dataBits.symm.trans packed'.dataBits)
  obtain rfl : stopBits = stopBits' := elim_injective (by rintro (_ | _ | _) <;> decide)
    (by rintro (_ | _ | _) (_ | _ | _) <;> decide) (packed.stopBits.symm.trans packed'.stopBits)
  obtain rfl : parity = parity' := elim_injective (by rintro (_ | _ | _ | _ | _) <;> decide)
    (by rintro (_ | _ | _ | _ | _) (_ | _ | _ | _ | _) <;> decide) (packed.parity.symm.trans packed'.parity)
  obtain rfl : flowControls = flowControls' :=
    elim_injective (fun set => (flowControlsToBitSet_tells set).1) (fun _ _ =>
    flowControlsToBitSet_injective) (packed.flowControls.symm.trans packed'.flowControls)
  rfl

end Packing

section Reading
variable {dcb : DCB}

/-! Each field is the code of what the getter finds, and is there if the getter finds anything. -/

theorem speed_coded :
    (DCB_BaudrateToSpswSpeed dcb.BaudRate).toOption = dcb.getSpeed.toOption.map SPEED := by
  unfold DCB_BaudrateToSpswSpeed DCB.getSpeed
  cases Speed.values.find? fun speed => dcb.BaudRate = UInt32.ofNat speed.value <;> rfl

/-- A search for a constant finds what an equation with the constant determines. -/
theorem find_toOption {α β : Type} [DecidableEq β] {values : List α}
    (every : ∀ a, a ∈ values) {constant : α → β} {value : β} {java : Except JavaException α}
    (reads : ∀ a, java = .ok a ↔ value = constant a) :
    values.find? (fun a => value = constant a) = java.toOption := by
  cases found : values.find? fun a => decide (value = constant a) with
  | some a =>
      have here : value = constant a := by simpa using List.find?_some found
      rw [(reads a).mpr here]
      rfl
  | none =>
      cases read : java with
      | error e => rfl
      | ok a =>
          have every := List.find?_eq_none.mp found a (every a)
          exact absurd ((reads a).mp read) (by simpa using every)

theorem dataBits_coded :
    (getDataBitsBits dcb).toOption = dcb.getDatatBits.toOption.map DATA_BITS := by
  have every : ∀ dataBits, dataBits ∈ DataBits.values := by rintro (_ | _ | _ | _) <;> decide
  rw [← find_toOption every fun _ => DCB.getDatatBits_iff]
  unfold getDataBitsBits
  cases DataBits.values.find? fun dataBits => dcb.ByteSize = UInt8.ofNat dataBits.value <;> rfl

theorem stopBits_coded :
    (getStopBitsBits dcb).toOption = dcb.getStopBits.toOption.map STOP_BITS := by
  have every : ∀ stopBits, stopBits ∈ StopBits.values := by rintro (_ | _ | _) <;> decide
  rw [← find_toOption every fun _ => DCB.getStopBits_iff]
  unfold getStopBitsBits
  cases StopBits.values.find? fun stopBits => dcb.StopBits = STOPBITS stopBits <;> rfl

theorem parity_coded : (getParityBits dcb).toOption = dcb.getParity.toOption.map PARITY := by
  unfold getParityBits DCB.getParity
  cases Parity.values.find? fun parity => dcb.Parity = Jnhw.PARITY parity <;> rfl

/-- What was found before is left alone. -/
theorem addFlowControl_apart {result : BitVec 32} (apart : result &&& FLOW_CONTROL_NONE = 0#32)
    (found : Bool) (fc : FlowControl) (flags : BitVec 32) :
    addFlowControl found fc (result ||| flags) = result ||| addFlowControl found fc flags := by
  have kept : result &&& ~~~FLOW_CONTROL_NONE = result := Apart.within_not apart
  cases found with
  | false => rfl
  | true =>
      simp only [addFlowControl, ↓reduceIte]
      rw [BitVec.or_assoc, BitVec.and_or_distrib_right, kept]

/-- Four findings, as flags and as a set. -/
theorem addFlowControl_found : ∀ hardIn hardOut softIn softOut : Bool,
    addFlowControl softOut .XON_XOFF_OUT (addFlowControl softIn .XON_XOFF_IN
      (addFlowControl hardOut .RTS_CTS_OUT (addFlowControl hardIn .RTS_CTS_IN FLOW_CONTROL_NONE))) =
    flowControlsToBitSet ((if hardIn = true then {.RTS_CTS_IN}
      else ∅) ∪ (if hardOut = true then {.RTS_CTS_OUT} else ∅) ∪
        (if softIn = true then {.XON_XOFF_IN} else ∅) ∪
        (if softOut = true then {.XON_XOFF_OUT} else ∅)) := by
  decide

theorem flowControls_coded {result : BitVec 32} (apart : result &&& FLOW_CONTROL_NONE = 0#32) :
    getFlowControlBits dcb result = result ||| flowControlsToBitSet dcb.getFlowControl := by
  have found := addFlowControl_found
    (decide (dcb.fRtsControl = RTS_CONTROL_HANDSHAKE)) dcb.fOutxCtsFlow dcb.fInX dcb.fOutX
  simp only [decide_eq_true_eq] at found
  rw [getFlowControlBits, addFlowControl_apart apart, addFlowControl_apart apart,
    addFlowControl_apart apart, addFlowControl_apart apart, found]
  rfl

/-- The masks of the parameters that are there. -/
def masks (speed data stop parity flow : Bool) : BitVec 32 :=
  (if speed = true then SPEED_MASK else 0#32) ||| (if data = true then DATA_BITS_MASK else 0#32) |||
    (if stop = true then STOP_BITS_MASK else 0#32) ||| (if parity = true then PARITY_MASK
      else 0#32) ||| (if flow = true then FLOW_CONTROL_MASK else 0#32)

theorem masks_under : ∀ speed data stop parity flow : Bool,
    (masks speed data stop parity flow &&& SPEED_MASK ≠ 0#32 ↔ speed = true) ∧
      (masks speed data stop parity flow &&& DATA_BITS_MASK ≠ 0#32 ↔ data = true) ∧
      (masks speed data stop parity flow &&& STOP_BITS_MASK ≠ 0#32 ↔ stop = true) ∧
      (masks speed data stop parity flow &&& PARITY_MASK ≠ 0#32 ↔ parity = true) ∧
      (masks speed data stop parity flow &&& FLOW_CONTROL_MASK ≠ 0#32 ↔ flow = true) := by
  decide

variable {r : Params} {bits mask : BitVec 32}

/-- The fields read back are those of the request. -/
structure Fields (r : Params) (mask : BitVec 32) : Prop where
  speed : mask &&& SPEED_MASK ≠ 0#32 ↔ r.speed.isSome = true
  dataBits : mask &&& DATA_BITS_MASK ≠ 0#32 ↔ r.dataBits.isSome = true
  stopBits : mask &&& STOP_BITS_MASK ≠ 0#32 ↔ r.stopBits.isSome = true
  parity : mask &&& PARITY_MASK ≠ 0#32 ↔ r.parity.isSome = true
  flowControls : mask &&& FLOW_CONTROL_MASK ≠ 0#32 ↔ r.flowControls.isSome = true

theorem elim_nonzero {α : Type} {code : α → BitVec 32}
    (nonzero : ∀ a, code a ≠ 0#32) (x : Option α) :
    x.elim 0#32 code ≠ 0#32 ↔ x.isSome = true := by
  cases x with
  | none => simp
  | some a => simp [nonzero a]

theorem packed_fields (packed : Packed r bits) : Fields r bits := by
  refine ⟨?_, ?_, ?_, ?_, ?_⟩
  · rw [packed.speed]
    exact elim_nonzero SPEED_nonzero _
  · rw [packed.dataBits]
    exact elim_nonzero (by rintro (_ | _ | _ | _) <;> decide) _
  · rw [packed.stopBits]
    exact elim_nonzero (by rintro (_ | _ | _) <;> decide) _
  · rw [packed.parity]
    exact elim_nonzero (by rintro (_ | _ | _ | _ | _) <;> decide) _
  · rw [packed.flowControls]
    exact elim_nonzero (fun set => (flowControlsToBitSet_tells set).1) _

theorem fields_read (packed : Packed r bits) : Fields r (paramsToRead bits) := by
  have fields := packed_fields packed
  have whole : paramsToRead bits = masks r.speed.isSome r.dataBits.isSome r.stopBits.isSome r.parity.isSome
      r.flowControls.isSome := by
    unfold paramsToRead
    rw [BitVec.and_comm SPEED_MASK, BitVec.and_comm DATA_BITS_MASK, BitVec.and_comm STOP_BITS_MASK,
      BitVec.and_comm PARITY_MASK, BitVec.and_comm FLOW_CONTROL_MASK]
    simp only [fields.speed, fields.dataBits, fields.stopBits, fields.parity, fields.flowControls]
    rfl
  obtain ⟨speed, data, stop, parity, flow⟩ :=
    masks_under r.speed.isSome r.dataBits.isSome r.stopBits.isSome
    r.parity.isSome r.flowControls.isSome
  rw [← whole] at speed data stop parity flow
  exact ⟨speed, data, stop, parity, flow⟩

theorem toOption_bind {α β : Type} (x : Except JavaException α) (f : α → Except JavaException β) :
    (x >>= f).toOption = x.toOption.bind fun a => (f a).toOption := by
  cases x <;> rfl

/-- What a getter finds, if its parameter is requested. -/
def foundField {α : Type} (requested : Option α) (java : Except JavaException α) :
    Option (Option α) :=
  if requested.isSome = true then java.toOption.map some else some none

theorem readField_coded {α : Type} {requested : Option α}
    {native : Except JavaException (BitVec 32)} {java : Except JavaException α}
    {code : α → BitVec 32} {field : BitVec 32} (coded : native.toOption = java.toOption.map code)
    (there : mask &&& field ≠ 0#32 ↔ requested.isSome = true) :
    (readField mask field native).toOption = (foundField requested java).map fun x =>
    x.elim 0#32 code := by
  unfold readField foundField
  simp only [there]
  split
  · rw [coded, Option.map_map]
    rfl
  · rfl

/-- What the getters find of the requested parameters. -/
def found (dcb : DCB) (r : Params) : Option Params := do
  let speed ← foundField r.speed dcb.getSpeed
  let dataBits ← foundField r.dataBits dcb.getDatatBits
  let stopBits ← foundField r.stopBits dcb.getStopBits
  let parity ← foundField r.parity dcb.getParity
  pure ⟨speed, dataBits, stopBits, parity, r.flowControls.map fun _ => dcb.getFlowControl⟩

/-- The flow controls are added to the other parameters. -/
theorem withFlowControls (requested : Option (Finset FlowControl)) (r : Params) :
    (if requested.isSome = true then getFlowControlBits dcb (r.speed.elim 0#32 SPEED |||
        r.dataBits.elim 0#32 DATA_BITS ||| r.stopBits.elim 0#32 STOP_BITS |||
          r.parity.elim 0#32 PARITY)
      else r.speed.elim 0#32 SPEED ||| r.dataBits.elim 0#32 DATA_BITS ||| r.stopBits.elim 0#32 STOP_BITS |||
        r.parity.elim 0#32 PARITY) =
      toBitSet { r with flowControls := requested.map fun _ => dcb.getFlowControl } := by
  cases requested with
  | none => exact BitVec.or_zero.symm
  | some set =>
      refine (if_pos rfl).trans (flowControls_coded ?_)
      have apart : ∀ {field : BitVec 32} {mask : BitVec 32}, Within field mask →
        Apart mask FLOW_CONTROL_NONE →
          field &&& FLOW_CONTROL_NONE = 0#32 := fun within apart => within.and_apart apart
      simp only [BitVec.and_or_distrib_right, apart (speed_within r.speed) (by decide),
        apart (dataBits_within r.dataBits)
          (by decide), apart (stopBits_within r.stopBits) (by decide),
          apart (parity_within r.parity) (by decide), BitVec.or_self]

/-- What is read back are the parameters that the getters find, packed. -/
theorem getParamsOf_found (fields : Fields r mask) :
    (getParamsOf dcb mask).toOption = (found dcb r).map toBitSet := by
  unfold getParamsOf found
  simp only [toOption_bind, readField_coded speed_coded fields.speed,
    readField_coded dataBits_coded fields.dataBits, readField_coded stopBits_coded fields.stopBits,
    readField_coded parity_coded fields.parity, fields.flowControls]
  cases foundField r.speed dcb.getSpeed with
  | none => rfl
  | some speed =>
  cases foundField r.dataBits dcb.getDatatBits with
  | none => rfl
  | some dataBits =>
  cases foundField r.stopBits dcb.getStopBits with
  | none => rfl
  | some stopBits =>
  cases foundField r.parity dcb.getParity with
  | none => rfl
  | some parity => exact congrArg some (withFlowControls r.flowControls ⟨speed, dataBits,
      stopBits, parity, none⟩)

theorem foundField_some {α : Type} {requested : Option α} {java : Except JavaException α} :
    foundField requested java = some requested ↔ ∀ a, requested = some a → java = .ok a := by
  cases requested with
  | none =>
      constructor
      · rintro _ a ⟨⟩
      · exact fun _ => rfl
  | some a =>
      cases java with
      | error e =>
          constructor
          · rintro ⟨⟩
          · intro reads
            cases reads a rfl
      | ok b =>
          constructor
          · rintro ⟨⟩ _ ⟨⟩
            rfl
          · intro reads
            cases reads a rfl
            rfl

/-- The getters find what was requested exactly when the `DCB` reads back the request. -/
theorem found_iff : found dcb r = some r ↔ DCB.ReadsBack r dcb := by
  constructor
  · intro whole
    obtain ⟨speed, speedFound, rest⟩ := Option.bind_eq_some_iff.mp whole
    obtain ⟨dataBits, dataFound, rest⟩ := Option.bind_eq_some_iff.mp rest
    obtain ⟨stopBits, stopFound, rest⟩ := Option.bind_eq_some_iff.mp rest
    obtain ⟨parity, parityFound, rest⟩ := Option.bind_eq_some_iff.mp rest
    have same := Option.some.inj rest
    obtain rfl : speed = r.speed := congrArg Params.speed same
    obtain rfl : dataBits = r.dataBits := congrArg Params.dataBits same
    obtain rfl : stopBits = r.stopBits := congrArg Params.stopBits same
    obtain rfl : parity = r.parity := congrArg Params.parity same
    have flow : r.flowControls.map (fun _ => dcb.getFlowControl) = r.flowControls :=
      congrArg Params.flowControls same
    refine ⟨foundField_some.mp speedFound, foundField_some.mp dataFound,
      foundField_some.mp stopFound, foundField_some.mp parityFound, fun set requested => ?_⟩
    rw [requested] at flow
    exact Option.some.inj flow
  · intro reads
    have flow : r.flowControls.map (fun _ => dcb.getFlowControl) = r.flowControls := by
      cases requested : r.flowControls with
      | none => rfl
      | some set => exact congrArg some (reads.flowControls set requested)
    unfold found
    rw [foundField_some.mpr reads.speed, foundField_some.mpr reads.dataBits,
      foundField_some.mpr reads.stopBits, foundField_some.mpr reads.parity, flow]
    rfl

/-- The check passes exactly on what reads back the request. -/
theorem verify_iff : verify dcb (toBitSet r) = .ok () ↔ DCB.ReadsBack r dcb := by
  have read : (getParamsOf dcb (paramsToRead (toBitSet r))).toOption = _ :=
    getParamsOf_found (fields_read (toBitSet_packed r))
  rw [← found_iff]
  cases whole : getParamsOf dcb (paramsToRead (toBitSet r)) with
  | error e =>
      rw [whole] at read
      have missing : found dcb r = none := Option.map_eq_none_iff.mp read.symm
      rw [verify, whole, missing]
      constructor
      · rintro ⟨⟩
      · rintro ⟨⟩
  | ok paramsRead =>
      rw [whole] at read
      obtain ⟨r', there, packed⟩ := Option.map_eq_some_iff.mp read.symm
      have checked : verify dcb (toBitSet r) = .ok () ↔ paramsRead = toBitSet r := by
        rw [verify, whole]
        by_cases same : paramsRead = toBitSet r
        · exact iff_of_true (if_pos same) same
        · refine iff_of_false (fun passed => ?_) same
          cases (if_neg same).symm.trans passed
      rw [checked, there, ← packed]
      constructor
      · intro same
        rw [toBitSet_injective same]
      · rintro ⟨⟩
        rfl

/-- Whatever is thrown is an `IllegalArgumentException`. -/
def Illegal {α : Type} (x : Except JavaException α) : Prop :=
  ∀ e, x = .error e → JavaException.IsIllegalArgument e

theorem illegal_ok {α : Type} (a : α) : Illegal (.ok a : Except JavaException α) := by
  rintro e ⟨⟩

theorem illegal_error {α : Type} (m : String) :
    Illegal (.error (.illegalArgumentException m) : Except JavaException α) := by
  rintro e ⟨⟩
  exact ⟨m, rfl⟩

theorem illegal_bind {α β : Type} {x : Except JavaException α}
    {f : α → Except JavaException β} (first : Illegal x) (rest : ∀ a, Illegal (f a)) :
    Illegal (x >>= f) := by
  cases x with
  | error e => exact fun e' thrown => first e' (by cases thrown; rfl)
  | ok a => exact rest a

theorem illegal_readField {native : Except JavaException (BitVec 32)} {field : BitVec 32}
    (illegal : Illegal native) :
    Illegal (readField mask field native) := by
  unfold readField
  split
  · exact illegal
  · exact illegal_ok _

theorem illegal_verify (dcb : DCB) (bits : BitVec 32) : Illegal (verify dcb bits) := by
  have speed : Illegal (DCB_BaudrateToSpswSpeed dcb.BaudRate) := by
    unfold DCB_BaudrateToSpswSpeed
    cases Speed.values.find? fun speed => dcb.BaudRate = UInt32.ofNat speed.value with
    | none => exact illegal_error _
    | some speed => exact illegal_ok _
  have dataBits : Illegal (getDataBitsBits dcb) := by
    unfold getDataBitsBits
    cases DataBits.values.find? fun dataBits => dcb.ByteSize = UInt8.ofNat dataBits.value with
    | none => exact illegal_error _
    | some dataBits => exact illegal_ok _
  have stopBits : Illegal (getStopBitsBits dcb) := by
    unfold getStopBitsBits
    cases StopBits.values.find? fun stopBits => dcb.StopBits = STOPBITS stopBits with
    | none => exact illegal_error _
    | some stopBits => exact illegal_ok _
  have parity : Illegal (getParityBits dcb) := by
    unfold getParityBits
    cases Parity.values.find? fun parity => dcb.Parity = Jnhw.PARITY parity with
    | none => exact illegal_error _
    | some parity => exact illegal_ok _
  have read : ∀ mask, Illegal (getParamsOf dcb mask) := fun mask =>
    illegal_bind (illegal_readField speed) fun _ =>
        illegal_bind (illegal_readField dataBits) fun _ =>
      illegal_bind (illegal_readField stopBits) fun _ =>
        illegal_bind (illegal_readField parity) fun _ => illegal_ok _
  refine illegal_bind (read _) fun paramsRead => ?_
  split
  · exact illegal_ok _
  · exact illegal_error _

end Reading

section Providers
variable {driver : CommDriver} {n : WinSocket} {w : GenericWinSerialPortSocket}
  {r : Params} {s : CommStates} {dcb : DCB} {bits : BitVec 32}

theorem getDCB_opened {message : String} (opened : s n.fd = some dcb) :
    n.getDCB message s = .ok dcb s := by
  have read : GetCommState n.fd s = .ok (.ok dcb) s := by
    apply get_bind.trans
    rw [opened]
    rfl
  exact bind_of_ok read

theorem getDCB_closed {message : String} (closed : s n.fd = none) :
    n.getDCB message s = .error (n.closedOrNative ERROR_INVALID_HANDLE message) s := by
  have read : GetCommState n.fd s = .ok (.error ERROR_INVALID_HANDLE) s := by
    apply get_bind.trans
    rw [closed]
    rfl
  exact bind_of_ok read

theorem getDCB_shut (closed : s w.hFile = none) : w.getDCB s = .error
    (w.createClosedOrNativeException ERROR_INVALID_HANDLE
    ("GetCommState (" ++ w.portName ++ ")")) s := by
  have read : GetCommState w.hFile s = .ok (.error ERROR_INVALID_HANDLE) s := by
    apply get_bind.trans
    rw [closed]
    rfl
  exact bind_of_ok read

/-- The state that a computation leaves, however it ends. -/
def after {α : Type} (m : Commanding α) (s : CommStates) : CommStates :=
  match m s with
  | .ok _ s' => s'
  | .error _ s' => s'

/-- What becomes of a request on an open device. -/
inductive Sets (driver : CommDriver) (n : WinSocket) (w : GenericWinSerialPortSocket) (r : Params)
    (s : CommStates) : Prop
  | refused {m : String}
      (native : n.setParameters driver (toBitSet r) s = .error (.illegalArgumentException m) s)
      {m' : String} (java : w.setParams driver r s = .error (.illegalArgumentException m') s)
  | reported {e e' : JavaException} {s' : CommStates}
      (native : n.setParameters driver (toBitSet r) s = .error e s')
      (java : w.setParams driver r s = .error e' s')
  | stored {stored : DCB} {s' : CommStates} (there : s' w.hFile = some stored)
      (native : n.setParameters driver (toBitSet r) s = settled (verify stored (toBitSet r)) s')
      (java : w.setParams driver r s = .ok () s')

theorem setParameters_refused (opened : s n.fd = some dcb) {e : JavaException}
    (refused : dcb.alter r = .error e) :
    n.setParameters driver (toBitSet r) s = .error e s := by
  have thrown : settled (alter dcb (toBitSet r)) s = .error e s := by
    rw [alter_eq (toBitSet_packed r), refused]
    rfl
  exact (bind_of_ok (getDCB_opened opened)).trans (bind_of_error thrown)

theorem setParameters_sets (same : n.fd = w.hFile) (opened : s w.hFile = some dcb) :
    Sets driver n w r s := by
  have read : ∀ message, n.getDCB message s = .ok dcb s := fun _ => getDCB_opened (same ▸ opened)
  rcases dcb.alter_cases r with accepted | ⟨m, refused⟩
  · have made : settled (alter dcb (toBitSet r)) s = .ok (dcb.requested r) s := by
      rw [alter_eq (toBitSet_packed r), accepted]
      rfl
    have handed : SetCommState driver w.hFile (dcb.requested r) s = _ := SetCommState_opened opened
    rw [← same] at handed
    have native : n.setParameters driver (toBitSet r) s = _ :=
      (bind_of_ok (read _)).trans ((bind_of_ok made).trans (bind_of_ok handed))
    cases reported : (driver dcb (dcb.requested r)).2 with
    | some errno =>
        rw [reported] at native
        exact .reported native (setParams_winReported opened accepted reported)
    | none =>
        rw [reported] at native
        refine .stored commanded_there (native.trans ?_)
          (setParams_winStored opened accepted reported)
        exact bind_of_ok (getDCB_opened (same.symm ▸ commanded_there))
  · exact .refused (setParameters_refused (same ▸ opened) refused)
      (setParams_winRefused opened refused)

end Providers

/-- Getters of both Windows providers that return the same, or throw both. -/
structure WinReadAlike (n : WinSocket) (w : GenericWinSerialPortSocket)
    (s : CommStates) : Prop where
  speed : reading n.getSpeed s = reading w.getSpeed s
  dataBits : reading n.getDatatBits s = reading w.getDatatBits s
  stopBits : reading n.getStopBits s = reading w.getStopBits s
  parity : reading n.getParity s = reading w.getParity s
  flowControls : reading n.getFlowControl s = reading w.getFlowControl s

section Getters
variable {n : WinSocket} {w : GenericWinSerialPortSocket} {s : CommStates} {dcb : DCB}

theorem flowControlFromBitSet_toBitSet (set : Finset FlowControl) :
    flowControlFromBitSet (flowControlsToBitSet set) = set := by
  have every : ∀ list ∈ FlowControl.values.sublists,
      flowControlFromBitSet (packed list) = list.toFinset := by
    decide
  rw [flowControlsToBitSet_packed, every _ (List.mem_sublists.mpr List.filter_sublist)]
  ext fc
  have member : fc ∈ FlowControl.values := by cases fc <;> decide
  simp [member]

theorem reading_settled {α : Type} (x : Except JavaException α) (s : CommStates) :
    reading (settled x) s = x.toOption := by
  cases x <;> rfl

/-- What a getter makes of the fields of one parameter on an open device. -/
theorem reading_win {α : Type} (opened : s n.fd = some dcb) (mask : BitVec 32)
    (decode : BitVec 32 → Except JavaException α) :
    reading (n.getParameters mask >>= fun bitset => settled (decode bitset)) s =
      (getParamsOf dcb mask).toOption.bind fun bitset => (decode bitset).toOption := by
  have read : n.getParameters mask s = settled (getParamsOf dcb mask) s :=
    bind_of_ok (getDCB_opened opened)
  cases packed : getParamsOf dcb mask with
  | error e =>
      rw [packed] at read
      rw [reading, bind_of_error read]
      rfl
  | ok bitset =>
      rw [packed] at read
      rw [reading, bind_of_ok read, ← reading, reading_settled]
      rfl

theorem reading_java {α : Type} (opened : s w.hFile = some dcb)
    (get : DCB → Except JavaException α) :
    reading (w.getDCB >>= fun dcb => settled (get dcb)) s = (get dcb).toOption := by
  rw [reading, bind_of_ok (Jnhw.getDCB_opened opened), ← reading, reading_settled]

theorem winReadAlike_opened (same : n.fd = w.hFile) (opened : s w.hFile = some dcb) :
    WinReadAlike n w s := by
  have native : ∀ {α : Type} (mask : BitVec 32) (decode : BitVec 32 →
      Except JavaException α) (r : Params),
      Fields r mask → reading (n.getParameters mask >>= fun bitset => settled (decode bitset)) s =
        ((found dcb r).map toBitSet).bind fun bitset => (decode bitset).toOption := by
    intro α mask decode r fields
    rw [reading_win (same ▸ opened) mask decode, getParamsOf_found fields]
  constructor
  · refine (native _ _ { speed := some ._0_BPS }
      ⟨by decide, by decide, by decide, by decide, by decide⟩).trans
      (Eq.trans ?_ (reading_java opened DCB.getSpeed).symm)
    unfold found foundField
    cases dcb.getSpeed with
    | error e => rfl
    | ok speed =>
        exact congrArg Except.toOption
          ((congrArg _ (toBitSet_params (.setSpeed speed))).trans (speedFromBitSet_SPEED speed))
  · refine (native _ _ { dataBits := some .DB_5 }
      ⟨by decide, by decide, by decide, by decide, by decide⟩).trans
      (Eq.trans ?_ (reading_java opened DCB.getDatatBits).symm)
    unfold found foundField
    cases dcb.getDatatBits with
    | error e => rfl
    | ok dataBits =>
        exact congrArg Except.toOption ((congrArg _ (toBitSet_params (.setDataBits dataBits))).trans
          (fromBitSet_of_select (by cases dataBits <;> rfl)))
  · refine (native _ _ { stopBits := some .SB_1 }
      ⟨by decide, by decide, by decide, by decide, by decide⟩).trans
      (Eq.trans ?_ (reading_java opened DCB.getStopBits).symm)
    unfold found foundField
    cases dcb.getStopBits with
    | error e => rfl
    | ok stopBits =>
        exact congrArg Except.toOption ((congrArg _ (toBitSet_params (.setStopBits stopBits))).trans
          (fromBitSet_of_select (by cases stopBits <;> rfl)))
  · refine (native _ _ { parity := some .NONE }
      ⟨by decide, by decide, by decide, by decide, by decide⟩).trans
      (Eq.trans ?_ (reading_java opened DCB.getParity).symm)
    unfold found foundField
    cases dcb.getParity with
    | error e => rfl
    | ok parity =>
        exact congrArg Except.toOption ((congrArg _ (toBitSet_params (.setParity parity))).trans
          (fromBitSet_of_select (by cases parity <;> rfl)))
  · refine (native FLOW_CONTROL_MASK (fun bitset => .ok (flowControlFromBitSet bitset))
      { flowControls := some ∅ } ⟨by decide, by decide, by decide, by decide, by decide⟩).trans
      (Eq.trans ?_ (reading_java opened fun dcb => .ok dcb.getFlowControl).symm)
    have unpacked : flowControlFromBitSet (toBitSet { flowControls := some dcb.getFlowControl }) =
      dcb.getFlowControl :=
      (congrArg _ (toBitSet_params (.setFlowControl _))).trans (flowControlFromBitSet_toBitSet _)
    exact congrArg some unpacked

/-- On a handle that is not open all getters throw. -/
theorem winReadAlike_closed (same : n.fd = w.hFile) (closed : s w.hFile = none) :
    WinReadAlike n w s := by
  have native : ∀ {α : Type} (mask : BitVec 32) (f : BitVec 32 → Commanding α),
      reading (n.getParameters mask >>= f) s = none := by
    intro α mask f
    have refused : n.getParameters mask s = _ := bind_of_error (getDCB_closed (same ▸ closed))
    rw [reading, bind_of_error refused]
  have java : ∀ {α : Type} (f : DCB → Commanding α), reading (w.getDCB >>= f) s = none := by
    intro α f
    rw [reading, bind_of_error (getDCB_shut closed)]
  exact ⟨(native _ _).trans (java _).symm, (native _ _).trans (java _).symm,
    (native _ _).trans (java _).symm, (native _ _).trans (java _).symm,
    (native _ _).trans (java _).symm⟩

end Getters

section Agreement
variable {driver : CommDriver} {n : WinSocket} {w : GenericWinSerialPortSocket}
  {s : CommStates} {r : Params}

/-- What both make of a request: the native provider is the stricter one. -/
structure SetAlike (driver : CommDriver) (n : WinSocket)
    (w : GenericWinSerialPortSocket) (r : Params) (s : CommStates) : Prop where
  after : after (n.setParameters driver (toBitSet r)) s = after (w.setParams driver r) s
  returns : ∀ s', n.setParameters driver (toBitSet r) s = .ok () s' ↔
    w.setParams driver r s = .ok () s' ∧ WinGettersReport w r s'
  complains : ∀ s', w.setParams driver r s = .ok () s' → ¬ WinGettersReport w r s' →
    ∃ m, n.setParameters driver (toBitSet r) s = .error (.illegalArgumentException m) s'

/-- Both throw. -/
theorem setAlike_error {e e' : JavaException} {s' : CommStates}
    (native : n.setParameters driver (toBitSet r) s = .error e s')
    (java : w.setParams driver r s = .error e' s') : SetAlike driver n w r s := by
  refine ⟨by rw [WinApiSettings.after, WinApiSettings.after, native,
    java], fun s'' => ?_, fun s'' returned => ?_⟩
  · rw [native, java]
    constructor
    · rintro ⟨⟩
    · rintro ⟨⟨⟩, -⟩
  · rw [java] at returned
    cases returned

theorem setAlike_stored {stored : DCB} {s' : CommStates} (there : s' w.hFile = some stored)
    (native : n.setParameters driver (toBitSet r) s = settled (verify stored (toBitSet r)) s')
    (java : w.setParams driver r s = .ok () s') : SetAlike driver n w r s := by
  have reports :=
    (winGettersReport_iff there).trans (verify_iff : verify stored (toBitSet r) = .ok () ↔ _).symm
  cases checked : verify stored (toBitSet r) with
  | ok u =>
      rw [checked] at native
      have holds := reports.mpr checked
      refine ⟨by rw [WinApiSettings.after, WinApiSettings.after, native, java]; rfl,
        fun s'' => ?_, fun s'' returned => ?_⟩
      · rw [native, java]
        constructor
        · rintro ⟨⟩
          exact ⟨rfl, holds⟩
        · rintro ⟨⟨⟩, -⟩
          rfl
      · cases java.symm.trans returned
        exact fun other => absurd holds other
  | error e =>
      rw [checked] at native
      have missing := mt reports.mp (by rw [checked]; rintro ⟨⟩)
      refine ⟨by rw [WinApiSettings.after, WinApiSettings.after, native, java]; rfl,
        fun s'' => ?_, fun s'' returned _ => ?_⟩
      · rw [native, java]
        constructor
        · rintro ⟨⟩
        · rintro ⟨⟨⟩, reported⟩
          exact absurd reported missing
      · cases java.symm.trans returned
        obtain ⟨m, rfl⟩ := illegal_verify _ _ e checked
        exact ⟨m, native⟩

theorem setAlike (driver : CommDriver) (same : n.fd = w.hFile) (r : Params) (s : CommStates) :
    SetAlike driver n w r s := by
  cases opened : s w.hFile with
  | none =>
      have native : n.setParameters driver (toBitSet r) s = _ :=
        bind_of_error (getDCB_closed (same ▸ opened))
      exact setAlike_error native (bind_of_error (getDCB_shut opened))
  | some dcb =>
      have sets : Sets driver n w r s := setParameters_sets same opened
      cases sets with
      | refused native java => exact setAlike_error native java
      | reported native java => exact setAlike_error native java
      | stored there native java => exact setAlike_stored there native java

end Agreement

/-- For every driver, device and request: both Windows providers read every device alike and leave
it with the same `DCB`, and the native one returns exactly where the other does and the device has
what was requested. It complains where the other returns all the same. -/
theorem windows_providers_iff (driver : CommDriver) (n : WinSocket) (w : GenericWinSerialPortSocket)
    (same : n.fd = w.hFile) (s : CommStates) :
    WinReadAlike n w s ∧ ∀ r, SetAlike driver n w r s := by
  refine ⟨?_, fun r => setAlike driver same r s⟩
  cases opened : s w.hFile with
  | none => exact winReadAlike_closed same opened
  | some dcb => exact winReadAlike_opened same opened

def com3 : WinSocket := ⟨"COM3", 3⟩

/-- A driver that keeps the settings it has does not go unnoticed here. -/
theorem windows_providers_iff_kept : ∃ m s',
    com1.setParams (fun current _ => (current, none))
      { speed := some ._19200_BPS } com1At9600 = .ok () s' ∧
      com3.setParameters (fun current _ => (current, none))
        (toBitSet { speed := some ._19200_BPS }) com1At9600 =
        .error (.illegalArgumentException m) s' := by
  have java : com1.setParams (fun current _ => (current, none))
    { speed := some ._19200_BPS } com1At9600 =
      .ok () _ := setParams_winStored rfl rfl rfl
  have both := (windows_providers_iff (fun current _ => (current, none)) com3 com1 rfl com1At9600).2
    { speed := some ._19200_BPS }
  obtain ⟨m, thrown⟩ := both.complains _ java fun reports =>
    absurd (DCB.getSpeed_iff.mp
      ((winGetter_iff commanded_there DCB.getSpeed).mp (reports.speed _ rfl))) (by decide)
  exact ⟨m, _, java, thrown⟩

end Spsw.Jni.WinApiSettings

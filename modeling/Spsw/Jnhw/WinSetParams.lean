import Spsw.Jnhw.GenericWinSerialPortSocket
import Spsw.Jnhw.SetParams

/-!
# What `setParams` checks on Windows

The `DCB` handed to the driver has every requested parameter, so the checks made on
it pass whatever was stored. A normal return tells what the device has only where
the driver keeps the requested fields as it was given them.
-/
namespace Spsw.Jnhw
open Stateful

/-- The byte of each of the stop bits. -/
def STOPBITS : StopBits → UInt8
  | .SB_1 => ONESTOPBIT
  | .SB_1_5 => ONE5STOPBITS
  | .SB_2 => TWOSTOPBITS

namespace DCB
variable {dcb dcb' : DCB} {r : Params}

theorem baudRate_injective {speed speed' : Speed}
    (same : UInt32.ofNat speed.value = UInt32.ofNat speed'.value) : speed = speed' := by
  have nodup : (Speed.values.map fun speed => UInt32.ofNat speed.value).Nodup := by decide
  exact List.inj_on_of_nodup_map nodup (Speed.mem_values speed) (Speed.mem_values speed') same

theorem getSpeed_iff {speed : Speed} :
    dcb.getSpeed = .ok speed ↔ dcb.BaudRate = UInt32.ofNat speed.value := by
  unfold getSpeed
  cases found : Speed.values.find? fun speed => dcb.BaudRate = UInt32.ofNat speed.value with
  | none =>
      have every := List.find?_eq_none.mp found speed (Speed.mem_values speed)
      simpa using every
  | some speed' =>
      have here : dcb.BaudRate = UInt32.ofNat speed'.value := by simpa using List.find?_some found
      rw [here]
      constructor
      · rintro ⟨⟩
        rfl
      · intro same
        rw [baudRate_injective same]

theorem getParity_iff {parity : Spsw.Parity} : dcb.getParity = .ok parity ↔
    dcb.Parity = PARITY parity := by
  unfold getParity
  have member : parity ∈ Spsw.Parity.values := by cases parity <;> decide
  cases found : Spsw.Parity.values.find? fun parity => dcb.Parity = PARITY parity with
  | none =>
      have every := List.find?_eq_none.mp found parity member
      simpa using every
  | some parity' =>
      have here : dcb.Parity = PARITY parity' := by simpa using List.find?_some found
      rw [here]
      constructor
      · rintro ⟨⟩
        rfl
      · cases parity <;> cases parity' <;> decide

theorem getDatatBits_iff {dataBits : DataBits} :
    dcb.getDatatBits = .ok dataBits ↔ dcb.ByteSize = UInt8.ofNat dataBits.value := by
  unfold getDatatBits
  split
  · next size => rw [size]; cases dataBits <;> decide
  split
  · next size => rw [size]; cases dataBits <;> decide
  split
  · next size => rw [size]; cases dataBits <;> decide
  split
  · next size => rw [size]; cases dataBits <;> decide
  · next five six seven eight => cases dataBits <;> simpa [DataBits.value]

theorem getStopBits_iff {stopBits : Spsw.StopBits} :
    dcb.getStopBits = .ok stopBits ↔ dcb.StopBits = STOPBITS stopBits := by
  unfold getStopBits
  split
  · next bits => rw [bits]; cases stopBits <;> decide
  split
  · next bits => rw [bits]; cases stopBits <;> decide
  split
  · next bits => rw [bits]; cases stopBits <;> decide
  · next one one5 two => cases stopBits <;> simpa [STOPBITS]

theorem mem_getFlowControl {x : FlowControl} : x ∈ dcb.getFlowControl ↔
    (dcb.fRtsControl = RTS_CONTROL_HANDSHAKE ∧ x = .RTS_CTS_IN) ∨
      (dcb.fOutxCtsFlow = true ∧ x = .RTS_CTS_OUT) ∨ (dcb.fInX = true ∧ x = .XON_XOFF_IN) ∨
        (dcb.fOutX = true ∧ x = .XON_XOFF_OUT) := by
  simp only [getFlowControl, Finset.mem_union, mem_given, Finset.mem_singleton, or_assoc]

theorem getFlowControl_eq_iff : dcb'.getFlowControl = dcb.getFlowControl ↔
    (dcb'.fRtsControl = RTS_CONTROL_HANDSHAKE ↔ dcb.fRtsControl = RTS_CONTROL_HANDSHAKE) ∧
      dcb'.fOutxCtsFlow = dcb.fOutxCtsFlow ∧ dcb'.fInX = dcb.fInX ∧ dcb'.fOutX = dcb.fOutX := by
  constructor
  · intro same
    have sides := fun x => Finset.ext_iff.mp same x
    have rtsIn := sides .RTS_CTS_IN
    have rtsOut := sides .RTS_CTS_OUT
    have xonIn := sides .XON_XOFF_IN
    have xonOut := sides .XON_XOFF_OUT
    simp only [mem_getFlowControl, reduceCtorEq, and_true, and_false, or_false,
      false_or] at rtsIn rtsOut xonIn xonOut
    exact ⟨rtsIn, Bool.eq_iff_iff.mpr rtsOut, Bool.eq_iff_iff.mpr xonIn, Bool.eq_iff_iff.mpr xonOut⟩
  · rintro ⟨rtsIn, rtsOut, xonIn, xonOut⟩
    ext x
    simp only [mem_getFlowControl, rtsIn, rtsOut, xonIn, xonOut]

theorem getFlowControl_set (dcb : DCB) (flowControls : Finset FlowControl) :
    (dcb.setFlowControl (some flowControls)).getFlowControl = flowControls := by
  ext x
  simp only [mem_getFlowControl, setFlowControl]
  cases x with
  | RTS_CTS_IN =>
      by_cases side : .RTS_CTS_IN ∈ flowControls
      · simp [side]
      · simp [side, RTS_CONTROL_HANDSHAKE, RTS_CONTROL_DISABLE]
  | RTS_CTS_OUT => simp
  | XON_XOFF_IN => simp
  | XON_XOFF_OUT => simp

/-- Every requested parameter reads back. -/
structure ReadsBack (r : Params) (dcb : DCB) : Prop where
  speed : ∀ speed, r.speed = some speed → dcb.getSpeed = .ok speed
  dataBits : ∀ dataBits, r.dataBits = some dataBits → dcb.getDatatBits = .ok dataBits
  stopBits : ∀ stopBits, r.stopBits = some stopBits → dcb.getStopBits = .ok stopBits
  parity : ∀ parity, r.parity = some parity → dcb.getParity = .ok parity
  flowControls : ∀ flowControls, r.flowControls = some flowControls →
    dcb.getFlowControl = flowControls

theorem complaint_none {α : Type} [DecidableEq α] {message : String} {requested : Option α}
    {reading : Except JavaException α} (reads : ∀ a, requested = some a → reading = .ok a) :
    complaint message requested reading = .ok "" := by
  cases requested with
  | none => rfl
  | some a =>
      rw [reads a rfl]
      exact if_pos rfl

theorem ReadsBack.verify (reads : ReadsBack r dcb) : dcb.verify r = .ok () := by
  have flowControls : ∀ set, r.flowControls = some set →
      (.ok dcb.getFlowControl : Except JavaException _) = .ok set :=
    fun set requested => congrArg Except.ok (reads.flowControls set requested)
  simp only [DCB.verify, complaint_none reads.speed, complaint_none reads.dataBits,
    complaint_none reads.stopBits, complaint_none reads.parity, complaint_none flowControls]
  rfl

/-- The `DCB` for a request: each field is made by the setter of its parameter. -/
def requested (dcb : DCB) (r : Params) : DCB where
  BaudRate := (dcb.setSpeed r.speed).BaudRate
  ByteSize := (dcb.setDataBits r.dataBits).ByteSize
  StopBits := r.stopBits.elim (dcb.setDataBits r.dataBits).StopBits STOPBITS
  Parity := (dcb.setParity r.parity).Parity
  fRtsControl := (dcb.setFlowControl r.flowControls).fRtsControl
  fOutxCtsFlow := (dcb.setFlowControl r.flowControls).fOutxCtsFlow
  fOutX := (dcb.setFlowControl r.flowControls).fOutX
  fInX := (dcb.setFlowControl r.flowControls).fInX

theorem setSpeed_setDataBits (dcb : DCB) (speed : Option Speed) (dataBits : Option DataBits) :
    (dcb.setSpeed speed).setDataBits dataBits =
      { dcb with BaudRate := (dcb.setSpeed speed).BaudRate
                 ByteSize := (dcb.setDataBits dataBits).ByteSize
                 StopBits := (dcb.setDataBits dataBits).StopBits } := by
  rcases dataBits with _ | dataBits
  · cases speed <;> rfl
  · cases speed <;> cases dataBits <;> rfl

theorem setDataBits_ByteSize (dcb : DCB) (dataBits : DataBits) :
    (dcb.setDataBits (some dataBits)).ByteSize = UInt8.ofNat dataBits.value := by
  cases dataBits <;> rfl

/-- Stop bits are refused for data bits they do not go with, and otherwise set as requested. -/
theorem setStopBits_cases (dcb : DCB) (stopBits : Option Spsw.StopBits) :
    dcb.setStopBits stopBits = .ok { dcb with StopBits := stopBits.elim dcb.StopBits STOPBITS } ∨
      ∃ m, dcb.setStopBits stopBits = .error (.illegalArgumentException m) := by
  cases stopBits with
  | none => exact .inl rfl
  | some stopBits =>
      by_cases five : dcb.ByteSize = 5
      · cases stopBits with
        | SB_1 => exact .inl rfl
        | SB_1_5 => exact .inl (if_pos five)
        | SB_2 => exact .inr ⟨_, if_pos five⟩
      · cases stopBits with
        | SB_1 => exact .inl rfl
        | SB_1_5 => exact .inr ⟨_, if_neg five⟩
        | SB_2 => exact .inl (if_neg five)

/-- `alter` refuses a request or makes the `DCB` for it. -/
theorem alter_cases (dcb : DCB) (r : Params) : dcb.alter r = .ok (dcb.requested r) ∨
    ∃ m, dcb.alter r = .error (.illegalArgumentException m) := by
  rw [alter, setSpeed_setDataBits]
  rcases setStopBits_cases _ r.stopBits with accepted | ⟨m, refused⟩
  · left
    rw [accepted, requested]
    cases r.parity <;> cases r.flowControls <;> rfl
  · right
    rw [refused]
    exact ⟨m, rfl⟩

theorem requested_readsBack (dcb : DCB) (r : Params) : ReadsBack r (dcb.requested r) := by
  refine ⟨fun speed some => ?_, fun dataBits some => ?_, fun stopBits some => ?_,
    fun parity some => ?_, fun flowControls some => ?_⟩
  · rw [getSpeed_iff, requested, some]
    rfl
  · rw [getDatatBits_iff, requested, some, setDataBits_ByteSize]
  · rw [getStopBits_iff, requested, some]
    rfl
  · rw [getParity_iff, requested, some]
    rfl
  · refine Eq.trans ?_ (getFlowControl_set dcb flowControls)
    rw [requested, some]
    rfl

end DCB

section Contract
variable {driver : CommDriver} {w : GenericWinSerialPortSocket} {r : Params}
  {s s' : CommStates} {dcb : DCB}

theorem getDCB_opened (opened : s w.hFile = some dcb) : w.getDCB s = .ok dcb s := by
  have read : GetCommState w.hFile s = .ok (.ok dcb) s := by
    apply get_bind.trans
    rw [opened]
    rfl
  exact bind_of_ok read

theorem getDCB_ok (returned : w.getDCB s = .ok dcb s') : s w.hFile = some dcb := by
  cases found : s w.hFile with
  | some current =>
      rw [getDCB_opened found] at returned
      cases returned
      rfl
  | none =>
      have read : GetCommState w.hFile s = .ok (.error ERROR_INVALID_HANDLE) s := by
        apply get_bind.trans
        rw [found]
        rfl
      rw [GenericWinSerialPortSocket.getDCB, bind_of_ok read] at returned
      cases returned

/-- The state after the driver has been given the `DCB` for the request. -/
def commanded (driver : CommDriver) (w : GenericWinSerialPortSocket) (r : Params) (s : CommStates)
    (dcb : DCB) : CommStates :=
  Function.update s w.hFile (some (driver dcb (dcb.requested r)).1)

theorem commanded_there :
    commanded driver w r s dcb w.hFile = some (driver dcb (dcb.requested r)).1 :=
  Function.update_self _ _ _

theorem SetCommState_opened (opened : s w.hFile = some dcb) :
    SetCommState driver w.hFile (dcb.requested r) s =
      .ok (match (driver dcb (dcb.requested r)).2 with
        | none => .ok ()
        | some errno => .error errno) (commanded driver w r s dcb) := by
  apply get_bind.trans
  rw [opened]
  cases reported : (driver dcb (dcb.requested r)).2 with
  | none =>
      simp only [reported]
      rfl
  | some errno =>
      simp only [reported]
      rfl

theorem setParams_winRefused (opened : s w.hFile = some dcb) {e : JavaException}
    (refused : dcb.alter r = .error e) : w.setParams driver r s = .error e s := by
  apply (bind_of_ok (getDCB_opened opened)).trans
  apply bind_of_error
  rw [refused]
  rfl

theorem setParams_winReported (opened : s w.hFile = some dcb)
    (accepted : dcb.alter r = .ok (dcb.requested r)) {errno : ℕ}
    (reported : (driver dcb (dcb.requested r)).2 = some errno) :
    w.setParams driver r s = .error (w.setCommStateException errno)
      (commanded driver w r s dcb) := by
  refine (bind_of_ok (getDCB_opened opened)).trans ?_
  have altered : settled (dcb.alter r) s = .ok (dcb.requested r) s := by rw [accepted]; rfl
  refine (bind_of_ok altered).trans ((bind_of_ok (SetCommState_opened opened)).trans ?_)
  rw [reported]
  rfl

/-- Whatever the driver stores, the checks pass. -/
theorem setParams_winStored (opened : s w.hFile = some dcb)
    (accepted : dcb.alter r = .ok (dcb.requested r))
    (silent : (driver dcb (dcb.requested r)).2 = none) :
    w.setParams driver r s = .ok () (commanded driver w r s dcb) := by
  refine (bind_of_ok (getDCB_opened opened)).trans ?_
  have altered : settled (dcb.alter r) s = .ok (dcb.requested r) s := by rw [accepted]; rfl
  refine (bind_of_ok altered).trans ((bind_of_ok (SetCommState_opened opened)).trans ?_)
  rw [silent]
  refine (bind_of_ok (getDCB_opened commanded_there)).trans ?_
  rw [(dcb.requested_readsBack r).verify]
  rfl

/-- Every requested parameter is what its getter reports. -/
structure WinGettersReport (w : GenericWinSerialPortSocket) (r : Params)
    (s : CommStates) : Prop where
  speed : ∀ speed, r.speed = some speed → w.getSpeed s = .ok speed s
  dataBits : ∀ dataBits, r.dataBits = some dataBits → w.getDatatBits s = .ok dataBits s
  stopBits : ∀ stopBits, r.stopBits = some stopBits → w.getStopBits s = .ok stopBits s
  parity : ∀ parity, r.parity = some parity → w.getParity s = .ok parity s
  flowControls : ∀ flowControls, r.flowControls = some flowControls →
    w.getFlowControl s = .ok flowControls s

theorem settled_ok_iff {α : Type} {x : Except JavaException α} {a : α} :
    settled x s = .ok a s ↔ x = .ok a := by
  cases x with
  | ok b =>
      constructor
      · rintro ⟨⟩
        rfl
      · rintro ⟨⟩
        rfl
  | error e =>
      constructor
      · rintro ⟨⟩
      · rintro ⟨⟩

theorem winGetter_iff {α : Type} (opened : s w.hFile = some dcb)
    (get : DCB → Except JavaException α) {a : α} :
    (w.getDCB >>= fun dcb => settled (get dcb)) s = .ok a s ↔ get dcb = .ok a := by
  rw [bind_of_ok (getDCB_opened opened)]
  exact settled_ok_iff

theorem winGettersReport_iff (opened : s w.hFile = some dcb) :
    WinGettersReport w r s ↔ DCB.ReadsBack r dcb := by
  have flow : ∀ set, w.getFlowControl s = .ok set s ↔ dcb.getFlowControl = set := by
    intro set
    apply (winGetter_iff opened fun dcb => .ok dcb.getFlowControl).trans
    exact ⟨Except.ok.inj, congrArg _⟩
  constructor
  · rintro ⟨speed, dataBits, stopBits, parity, flowControls⟩
    exact ⟨fun a some => (winGetter_iff opened DCB.getSpeed).mp (speed a some),
      fun a some => (winGetter_iff opened DCB.getDatatBits).mp (dataBits a some),
      fun a some => (winGetter_iff opened DCB.getStopBits).mp (stopBits a some),
      fun a some => (winGetter_iff opened DCB.getParity).mp (parity a some),
      fun a some => (flow a).mp (flowControls a some)⟩
  · rintro ⟨speed, dataBits, stopBits, parity, flowControls⟩
    exact ⟨fun a some => (winGetter_iff opened DCB.getSpeed).mpr (speed a some),
      fun a some => (winGetter_iff opened DCB.getDatatBits).mpr (dataBits a some),
      fun a some => (winGetter_iff opened DCB.getStopBits).mpr (stopBits a some),
      fun a some => (winGetter_iff opened DCB.getParity).mpr (parity a some),
      fun a some => (flow a).mpr (flowControls a some)⟩

end Contract

/-- The fields of the requested parameters are stored as given. -/
structure StoredAsGiven (r : Params) (given stored : DCB) : Prop where
  speed : r.speed ≠ none → stored.BaudRate = given.BaudRate
  dataBits : r.dataBits ≠ none → stored.ByteSize = given.ByteSize
  stopBits : r.stopBits ≠ none → stored.StopBits = given.StopBits
  parity : r.parity ≠ none → stored.Parity = given.Parity
  flowControls : r.flowControls ≠ none →
    (stored.fRtsControl = RTS_CONTROL_HANDSHAKE ↔ given.fRtsControl = RTS_CONTROL_HANDSHAKE) ∧
      stored.fOutxCtsFlow = given.fOutxCtsFlow ∧ stored.fInX = given.fInX ∧
        stored.fOutX = given.fOutX

theorem storedAsGiven_iff {r : Params} {given stored : DCB} (reads : DCB.ReadsBack r given) :
    DCB.ReadsBack r stored ↔ StoredAsGiven r given stored := by
  constructor
  · rintro ⟨speed, dataBits, stopBits, parity, flowControls⟩
    refine ⟨fun some => ?_, fun some => ?_, fun some => ?_, fun some => ?_, fun some => ?_⟩
    · obtain ⟨a, some⟩ := Option.ne_none_iff_exists'.mp some
      rw [DCB.getSpeed_iff.mp (speed a some), DCB.getSpeed_iff.mp (reads.speed a some)]
    · obtain ⟨a, some⟩ := Option.ne_none_iff_exists'.mp some
      rw [DCB.getDatatBits_iff.mp (dataBits a some),
        DCB.getDatatBits_iff.mp (reads.dataBits a some)]
    · obtain ⟨a, some⟩ := Option.ne_none_iff_exists'.mp some
      rw [DCB.getStopBits_iff.mp (stopBits a some), DCB.getStopBits_iff.mp (reads.stopBits a some)]
    · obtain ⟨a, some⟩ := Option.ne_none_iff_exists'.mp some
      rw [DCB.getParity_iff.mp (parity a some), DCB.getParity_iff.mp (reads.parity a some)]
    · obtain ⟨a, some⟩ := Option.ne_none_iff_exists'.mp some
      rw [← DCB.getFlowControl_eq_iff, flowControls a some, reads.flowControls a some]
  · rintro ⟨speed, dataBits, stopBits, parity, flowControls⟩
    refine ⟨fun a some => ?_, fun a some => ?_, fun a some => ?_,
      fun a some => ?_, fun a some => ?_⟩
    · rw [DCB.getSpeed_iff, speed (Option.ne_none_iff_exists'.mpr ⟨a, some⟩)]
      exact DCB.getSpeed_iff.mp (reads.speed a some)
    · rw [DCB.getDatatBits_iff, dataBits (Option.ne_none_iff_exists'.mpr ⟨a, some⟩)]
      exact DCB.getDatatBits_iff.mp (reads.dataBits a some)
    · rw [DCB.getStopBits_iff, stopBits (Option.ne_none_iff_exists'.mpr ⟨a, some⟩)]
      exact DCB.getStopBits_iff.mp (reads.stopBits a some)
    · rw [DCB.getParity_iff, parity (Option.ne_none_iff_exists'.mpr ⟨a, some⟩)]
      exact DCB.getParity_iff.mp (reads.parity a some)
    · rw [← reads.flowControls a some, DCB.getFlowControl_eq_iff]
      exact flowControls (Option.ne_none_iff_exists'.mpr ⟨a, some⟩)

/-- A normal return tells what the device has exactly where the driver, unless it reports
an error, keeps the fields of the request as it was given them. -/
theorem setParams_detects_iff (w : GenericWinSerialPortSocket) (driver : CommDriver) (r : Params)
    (s : CommStates) (dcb : DCB) (opened : s w.hFile = some dcb) :
    (∀ s', w.setParams driver r s = .ok () s' → WinGettersReport w r s') ↔
      ∀ given, dcb.alter r = .ok given → (driver dcb given).2 = none →
        StoredAsGiven r given (driver dcb given).1 := by
  rcases dcb.alter_cases r with accepted | ⟨m, refused⟩
  · have reports : WinGettersReport w r (commanded driver w r s dcb) ↔
        StoredAsGiven r (dcb.requested r) (driver dcb (dcb.requested r)).1 :=
      (winGettersReport_iff commanded_there).trans (storedAsGiven_iff (dcb.requested_readsBack r))
    constructor
    · intro detects given made silent
      rw [accepted] at made
      cases made
      exact reports.mp (detects _ (setParams_winStored opened accepted silent))
    · intro honest s' returned
      cases reported : (driver dcb (dcb.requested r)).2 with
      | none =>
          rw [setParams_winStored opened accepted reported] at returned
          cases returned
          exact reports.mpr (honest _ accepted reported)
      | some errno =>
          rw [setParams_winReported opened accepted reported] at returned
          cases returned
  · constructor
    · intro _ given made _
      rw [refused] at made
      cases made
    · intro _ s' returned
      rw [setParams_winRefused opened refused] at returned
      cases returned

def com1 : GenericWinSerialPortSocket := ⟨"COM1", 3⟩

/-- The device at `com1` has 9600 bps, 8 data bits and one stop bit. -/
def com1At9600 : CommStates := fun hFile =>
  if hFile = 3 then some ⟨9600, 8, ONESTOPBIT, PARITY .NONE, RTS_CONTROL_DISABLE, false,
    false, false⟩ else none

theorem setParams_detects_iff_exact : ∃ s',
    com1.setParams (fun _ given => (given, none))
      { speed := some ._19200_BPS } com1At9600 = .ok () s' ∧
      com1.getSpeed s' = .ok ._19200_BPS s' := by
  have returned : com1.setParams (fun _ given => (given, none))
    { speed := some ._19200_BPS } com1At9600 =
      .ok () _ := setParams_winStored rfl rfl rfl
  have detects :=
    setParams_detects_iff com1 (fun _ given => (given, none))
    { speed := some ._19200_BPS } com1At9600 _ rfl
  have stored : ∀ given : DCB, StoredAsGiven { speed := some ._19200_BPS } given given := fun _ =>
    ⟨fun _ => rfl, fun _ => rfl, fun _ => rfl, fun _ => rfl, fun _ => ⟨Iff.rfl, rfl, rfl, rfl⟩⟩
  exact ⟨_, returned, (detects.mpr (fun given _ _ => stored given) _ returned).speed _ rfl⟩

/-- A driver that keeps the settings it has goes unnoticed. -/
theorem setParams_undetected :
    ¬ ∀ s', com1.setParams (fun current _ => (current, none))
      { speed := some ._19200_BPS } com1At9600 =
      .ok () s' → WinGettersReport com1 { speed := some ._19200_BPS } s' := by
  intro detects
  have returned : com1.setParams (fun current _ => (current, none))
    { speed := some ._19200_BPS } com1At9600 =
      .ok () _ := setParams_winStored rfl rfl rfl
  have reports := (winGetter_iff commanded_there DCB.getSpeed).mp ((detects _ returned).speed _ rfl)
  exact absurd (DCB.getSpeed_iff.mp reports) (by decide)

end Spsw.Jnhw

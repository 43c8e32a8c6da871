import Spsw.Jni.SameDCB

/-!
# The native Windows socket is the same settings machine

The native Windows socket represents the settings of a port by the `DCB` that the other
Windows socket has, so it makes of every call what the abstract machine does. Neither of
the other sockets can be told from it.
-/
namespace Spsw.Jni
open Jnhw Stateful WinApiSettings

/-- The setters of the native Windows socket. -/
def WinSocket.perform (driver : CommDriver) (n : WinSocket) (call : SettingsCall) :
    Commanding Unit :=
  AbstractSerialPortSocket.perform n.portName (n.setParameters driver) n.getDatatBits call

/-- The five getters of the native Windows socket. -/
structure NativeReports (n : WinSocket) (s : CommStates) (x : PortSettings) : Prop where
  speed : n.getSpeed s = .ok x.speed s
  dataBits : n.getDatatBits s = .ok x.dataBits s
  stopBits : n.getStopBits s = .ok x.stopBits s
  parity : n.getParity s = .ok x.parity s
  flowControls : n.getFlowControl s = .ok x.flowControls s

section Reports
variable {n : WinSocket} {w : GenericWinSerialPortSocket} {s : CommStates} {x x' : PortSettings}
  {driver : CommDriver} {call : SettingsCall}

theorem keeps_settled {α : Type} (x : Except JavaException α) : Keeps (settled x) := by
  cases x with
  | ok a => exact keeps_pure a
  | error e => exact keeps_throw e

theorem keeps_getParameters (n : WinSocket) (mask : BitVec 32) : Keeps (n.getParameters mask) := by
  refine keeps_bind (fun s => ?_) fun dcb => keeps_settled _
  cases opened : s n.fd with
  | none => exact .inr ⟨_, getDCB_closed opened⟩
  | some dcb => exact .inl ⟨dcb, WinApiSettings.getDCB_opened opened⟩

/-- A getter leaves the device alone. -/
theorem keeps_getter {α : Type} (mask : BitVec 32) (decode : BitVec 32 → Except JavaException α) :
    Keeps (n.getParameters mask >>= fun bitset => settled (decode bitset)) :=
  keeps_bind (keeps_getParameters n mask) fun _ => keeps_settled _

theorem reading_eq_some {α : Type} {m : Commanding α} (keeps : Keeps m) {a : α} :
    reading m s = some a ↔ m s = .ok a s := by
  rcases keeps s with ⟨b, returned⟩ | ⟨e, thrown⟩
  · rw [reading, returned]
    constructor
    · rintro ⟨⟩
      rfl
    · rintro ⟨⟩
      rfl
  · rw [reading, thrown]
    constructor
    · rintro ⟨⟩
    · rintro ⟨⟩

theorem keeps_javaGetter {α : Type} (get : DCB → Except JavaException α) :
    Keeps (w.getDCB >>= fun dcb => settled (get dcb)) := by
  refine keeps_bind (fun s => ?_) fun dcb => keeps_settled _
  cases opened : s w.hFile with
  | none => exact .inr ⟨_, getDCB_shut opened⟩
  | some dcb => exact .inl ⟨dcb, Jnhw.getDCB_opened opened⟩

/-- Both Windows sockets report the same settings of a device. -/
theorem nativeReports_iff (same : n.fd = w.hFile) : NativeReports n s x ↔ WinReports w s x := by
  have alike : WinReadAlike n w s := by
    cases opened : s w.hFile with
    | none => exact winReadAlike_closed same opened
    | some dcb => exact winReadAlike_opened same opened
  have both : ∀ {α : Type} {f g : Commanding α} {a : α}, Keeps f → Keeps g →
      reading f s = reading g s →
      (f s = .ok a s ↔ g s = .ok a s) := by
    intro α f g a keeps keeps' read
    rw [← reading_eq_some keeps, read, reading_eq_some keeps']
  have speed := both (a := x.speed) (keeps_getter _ _) (keeps_javaGetter _) alike.speed
  have dataBits := both (a := x.dataBits) (keeps_getter _ _) (keeps_javaGetter _) alike.dataBits
  have stopBits := both (a := x.stopBits) (keeps_getter _ _) (keeps_javaGetter _) alike.stopBits
  have parity := both (a := x.parity) (keeps_getter _ _) (keeps_javaGetter _) alike.parity
  have flowControls :=
    both (a := x.flowControls) (keeps_getter FLOW_CONTROL_MASK fun bitset => .ok _)
    (keeps_javaGetter fun dcb => .ok _) alike.flowControls
  constructor
  · intro reports
    exact ⟨speed.mp reports.speed, dataBits.mp reports.dataBits, stopBits.mp reports.stopBits,
      parity.mp reports.parity, flowControls.mp reports.flowControls⟩
  · intro reports
    exact ⟨speed.mpr reports.speed, dataBits.mpr reports.dataBits, stopBits.mpr reports.stopBits,
      parity.mpr reports.parity, flowControls.mpr reports.flowControls⟩

/-- The parameter of a call is what its getter reports afterwards. -/
theorem report_params (applied : x.apply call = some x') (reports : WinReports w s x') :
    WinGettersReport w call.params s := by
  cases call with
  | setSpeed speed =>
      cases applied
      exact ⟨by rintro _ ⟨⟩; exact reports.speed, by rintro _ ⟨⟩, by rintro _ ⟨⟩, by rintro _ ⟨⟩,
        by rintro _ ⟨⟩⟩
  | setDataBits dataBits =>
      cases applied
      exact ⟨by rintro _ ⟨⟩, by rintro _ ⟨⟩; exact reports.dataBits, by rintro _ ⟨⟩,
        by rintro _ ⟨⟩, by rintro _ ⟨⟩⟩
  | setStopBits stopBits =>
      rw [PortSettings.apply] at applied
      split at applied
      · cases applied
        exact ⟨by rintro _ ⟨⟩, by rintro _ ⟨⟩, by rintro _ ⟨⟩; exact reports.stopBits,
          by rintro _ ⟨⟩, by rintro _ ⟨⟩⟩
      · cases applied
  | setParity parity =>
      cases applied
      exact ⟨by rintro _ ⟨⟩, by rintro _ ⟨⟩, by rintro _ ⟨⟩,
        by rintro _ ⟨⟩; exact reports.parity, by rintro _ ⟨⟩⟩
  | setFlowControl flowControls =>
      cases applied
      exact ⟨by rintro _ ⟨⟩, by rintro _ ⟨⟩, by rintro _ ⟨⟩, by rintro _ ⟨⟩,
        by rintro _ ⟨⟩; exact reports.flowControls⟩

theorem native_refines (allowed : SettingsCall → Prop) (exact : WinExact driver) (n : WinSocket) :
    Refines JavaException.IsIllegalArgument allowed (NativeReports n)
      (n.perform driver) PortSettings.apply := by
  let w : GenericWinSerialPortSocket := ⟨n.portName, n.fd⟩
  have java := win_refines allowed exact w
  constructor
  · intro call x x' s allowed reports applied
    obtain ⟨s', returned, reports'⟩ :=
      java.accepts call x x' s allowed ((nativeReports_iff (w := w) rfl).mp reports) applied
    rw [perform_win] at returned
    have native := ((setAlike driver (n := n) (w := w) rfl call.params s).returns s').mpr
      ⟨returned, report_params applied reports'⟩
    exact ⟨s', AbstractSerialPortSocket.perform_ok native,
      (nativeReports_iff (w := w) rfl).mpr reports'⟩
  · intro call x s _ reports none
    obtain ⟨dcb, opened, holds⟩ := winReports_iff.mp ((nativeReports_iff (w := w) rfl).mp reports)
    rcases dcb.alter_cases call.params with accepted | ⟨m, refused⟩
    · obtain ⟨e, refused⟩ := (alter_unfit holds).mpr none
      rw [accepted] at refused
      cases refused
    · have refused : n.setParameters driver (toBitSet call.params) s = _ :=
        setParameters_refused opened refused
      obtain ⟨text, thrown⟩ : ∃ text,
        n.perform driver call s = .error (.illegalArgumentException text) s :=
        AbstractSerialPortSocket.perform_refused refused ⟨_, reports.dataBits⟩
      exact ⟨_, ⟨text, rfl⟩, thrown⟩

end Reports

/-- Whatever is called, the native Windows socket can be told neither from the other Windows socket
nor, on calls that its platform supports, from a POSIX socket. -/
theorem native_lockstep (driver : CommDriver) (exact : WinExact driver) (n : WinSocket)
    (calls : List SettingsCall) (s : CommStates) (x : PortSettings)
    (reports : NativeReports n s x) :
    (∀ (driver' : CommDriver) (w : GenericWinSerialPortSocket) (t : CommStates), WinExact driver' →
      WinReports w t x →
      Lockstep JavaException.IsIllegalArgument
        (fun s t => ∃ x, NativeReports n s x ∧ WinReports w t x)
        (n.perform driver) (w.perform driver') calls s t) ∧
    ∀ (p : Platform) (driver' : Driver) (c : PosixConfiguration) (t : Descriptors),
      p.Lawful → p.Documented → p.CMSPAR.isSome = true → Exact driver' →
      (∀ call ∈ calls, p.Supports call) → PosixReports p c t x →
      Lockstep JavaException.IsIllegalArgument
        (fun s t => ∃ x, NativeReports n s x ∧ PosixReports p c t x)
        (n.perform driver) (c.perform p driver') calls s t := by
  constructor
  · intro driver' w t exact' reports'
    exact (native_refines (fun _ => True) exact n).lockstep (win_refines _ exact' w)
      (fun x _ _ left right => ⟨x, left, right⟩) calls (fun _ _ => trivial) reports reports'
  · intro p driver' c t lawful documented marks exact' supported reports'
    exact (native_refines p.Supports exact n).lockstep
      (posix_refines lawful documented marks exact' c) (fun x _ _ left right =>
      ⟨x, left, right⟩) calls supported reports reports'

theorem native_lockstep_com3 :
    Lockstep JavaException.IsIllegalArgument
      (fun s t => ∃ x, NativeReports com3 s x ∧ WinReports com1 t x)
      (com3.perform fun _ given => (given, none)) (com1.perform fun _ given => (given, none))
      [.setStopBits .SB_2, .setDataBits .DB_5, .setStopBits .SB_2] com1At9600 com1At9600 := by
  have reports : NativeReports com3 com1At9600 defaults :=
    (nativeReports_iff (w := com1) rfl).mpr com1_defaults
  exact (native_lockstep (fun _ given => (given, none)) (fun _ _ =>
    rfl) com3 _ com1At9600 defaults reports).1
    _ com1 com1At9600 (fun _ _ => rfl) com1_defaults

end Spsw.Jni

import Spsw.Api.PortSettings
import Spsw.Interaction.Lockstep
import Spsw.Jnhw.WinSetParams

/-!
# One settings machine behind two sockets

The settings a port reports are those of one abstract machine. On POSIX the stop bits
are read off one flag and the size of a character, on Windows they are a field that
is fixed along with the size; both represent the machine, so neither can be told from
the other by the setters and getters.
-/
namespace Spsw

def SettingsCall.params : SettingsCall → Jnhw.Params
  | .setSpeed speed => { speed := some speed }
  | .setDataBits dataBits => { dataBits := some dataBits }
  | .setStopBits stopBits => { stopBits := some stopBits }
  | .setParity parity => { parity := some parity }
  | .setFlowControl flowControls => { flowControls := some flowControls }

end Spsw

namespace Spsw.Jnhw
open Flags Stateful

/-- The setter of a POSIX socket, which calls `setParams` of its configuration. -/
def PosixConfiguration.perform (p : Platform) (driver : Driver) (c : PosixConfiguration)
    (call : SettingsCall) : Configuring Unit :=
  c.setParams p driver call.params

def GenericWinSerialPortSocket.perform (driver : CommDriver) (w : GenericWinSerialPortSocket) :
    SettingsCall → Commanding Unit
  | .setSpeed speed => w.setSpeed driver speed
  | .setDataBits dataBits => w.setDataBits driver dataBits
  | .setStopBits stopBits => w.setStopBits driver stopBits
  | .setParity parity => w.setParity driver parity
  | .setFlowControl flowControls => w.setFlowControl driver flowControls

/-- The five getters of the POSIX socket. -/
structure PosixReports (p : Platform) (c : PosixConfiguration)
    (s : Descriptors) (x : PortSettings) : Prop where
  speed : c.getSpeed p s = .ok x.speed s
  dataBits : c.getDatatBits p s = .ok x.dataBits s
  stopBits : c.getStopBits p s = .ok x.stopBits s
  parity : c.getParity p s = .ok x.parity s
  flowControls : c.getFlowControl p s = .ok x.flowControls s

/-- The five getters of the Windows socket. -/
structure WinReports (w : GenericWinSerialPortSocket) (s : CommStates)
    (x : PortSettings) : Prop where
  speed : w.getSpeed s = .ok x.speed s
  dataBits : w.getDatatBits s = .ok x.dataBits s
  stopBits : w.getStopBits s = .ok x.stopBits s
  parity : w.getParity s = .ok x.parity s
  flowControls : w.getFlowControl s = .ok x.flowControls s

section Posix
variable {p : Platform} {c : PosixConfiguration} {s : Descriptors}
  {termios termios' : StructTermios} {x x' : PortSettings} {call : SettingsCall}

/-- The settings of a port, as fields of its structure. -/
structure Holds (p : Platform) (termios : StructTermios) (x : PortSettings) : Prop where
  speed : p.getSpeed termios = .ok x.speed
  dataBits : p.getDatatBits termios = .ok x.dataBits
  stopBits : p.getStopBits termios = .ok x.stopBits
  parity : p.getParity termios = x.parity
  flowControls : p.getFlowControl termios = x.flowControls

theorem posixGetter_iff {α : Type} (opened : s c.fd = some termios)
    (get : StructTermios → Except JavaException α) {a : α} :
    (c.getTermios >>= fun termios => outcome (get termios)) s = .ok a s ↔ get termios = .ok a := by
  rw [getter_opened opened get]
  constructor
  · exact outcome_ok
  · intro same
    rw [same]
    rfl

theorem posixReports_iff : PosixReports p c s x ↔ ∃ termios, s c.fd = some termios ∧
    Holds p termios x := by
  have parity : ∀ termios, s c.fd = some termios →
      (c.getParity p s = .ok x.parity s ↔ p.getParity termios = x.parity) := fun termios opened =>
    (posixGetter_iff opened fun termios => .ok (p.getParity termios)).trans
      ⟨Except.ok.inj, congrArg _⟩
  have flowControls : ∀ termios, s c.fd = some termios →
      (c.getFlowControl p s = .ok x.flowControls s ↔ p.getFlowControl termios = x.flowControls) :=
    fun termios opened =>
      (posixGetter_iff opened fun termios => .ok (p.getFlowControl termios)).trans
        ⟨Except.ok.inj, congrArg _⟩
  constructor
  · intro reports
    obtain ⟨termios, s', read, -⟩ := bind_ok reports.speed
    obtain ⟨opened, -⟩ := getTermios_ok read
    exact ⟨termios, opened, (posixGetter_iff opened p.getSpeed).mp reports.speed,
      (posixGetter_iff opened p.getDatatBits).mp reports.dataBits,
      (posixGetter_iff opened p.getStopBits).mp reports.stopBits,
      (parity termios opened).mp reports.parity,
        (flowControls termios opened).mp reports.flowControls⟩
  · rintro ⟨termios, opened, holds⟩
    exact ⟨(posixGetter_iff opened p.getSpeed).mpr holds.speed,
      (posixGetter_iff opened p.getDatatBits).mpr holds.dataBits,
      (posixGetter_iff opened p.getStopBits).mpr holds.stopBits,
      (parity termios opened).mpr holds.parity,
        (flowControls termios opened).mpr holds.flowControls⟩

theorem getDatatBits_field {dataBits : DataBits} (reads : p.getDatatBits termios = .ok dataBits) :
    termios.c_cflag &&& p.CSIZE = p.CS dataBits := by
  simp only [Platform.getDatatBits] at reads
  split at reads
  · next size => cases reads; exact size
  split at reads
  · next size => cases reads; exact size
  split at reads
  · next size => cases reads; exact size
  split at reads
  · next size => cases reads; exact size
  · cases reads

theorem five_dataBits (lawful : p.Lawful) {dataBits : DataBits}
    (size : termios.c_cflag &&& p.CSIZE = p.CS dataBits) :
    termios.c_cflag &&& p.CSIZE = p.CS5 ↔ dataBits = .DB_5 := by
  rw [size]
  exact ⟨lawful.distinct dataBits .DB_5, fun five => by rw [five]; rfl⟩

/-- The stop bits follow the data bits when `CSTOPB` stays. -/
theorem getStopBits_adapt (lawful : p.Lawful) {dataBits : DataBits} {stopBits : StopBits}
    (size : termios'.c_cflag &&& p.CSIZE = p.CS dataBits)
    (stop : Agree p.CSTOPB termios'.c_cflag termios.c_cflag)
    (reads : p.getStopBits termios = .ok stopBits) :
    p.getStopBits termios' = .ok (stopBits.adapt dataBits) := by
  have five := five_dataBits lawful size
  simp only [Platform.getStopBits, show _ &&& p.CSTOPB = _ from stop, five] at reads ⊢
  split at reads
  · next one =>
      cases reads
      exact if_pos one
  split at reads
  · next one set =>
      have long : stopBits ≠ .SB_1 := by
        split at reads
        · cases reads
          decide
        · cases reads
          decide
      rw [if_neg one, if_pos set, StopBits.adapt, if_neg long, DataBits.long]
      split
      · rfl
      · rfl
  · cases reads

/-- The calls both systems are to treat alike: on this platform, and with RTS/CTS in both
directions or in none. -/
def Platform.Supports (p : Platform) (call : SettingsCall) : Prop :=
  call.TwoSided ∧ ∀ speed, call = .setSpeed speed → p.B speed ≠ none

/-- `setParams` refuses the stop bits that do not fit. -/
theorem refused_iff (lawful : p.Lawful) (supported : p.Supports call)
    (holds : Holds p termios x) : p.Refused call.params termios ↔ x.apply call = none := by
  have five := five_dataBits lawful (getDatatBits_field holds.dataBits)
  constructor
  · intro refused
    cases refused with
    | undefinedSpeed speed requested undefined =>
        cases call with
        | setSpeed speed' =>
            cases requested
            exact absurd undefined (supported.2 speed rfl)
        | _ => cases requested
    | notFive requested other =>
        cases call with
        | setStopBits stopBits =>
            cases requested
            exact dif_neg (mt five.mpr other)
        | _ => cases requested
    | five requested size =>
        cases call with
        | setStopBits stopBits =>
            cases requested
            exact dif_neg (not_not.mpr (five.mp size))
        | _ => cases requested
    | oneSided flowControls requested oneSided =>
        cases call with
        | setFlowControl flowControls' =>
            cases requested
            exact absurd supported.1 oneSided
        | _ => cases requested
  · intro none
    cases call with
    | setStopBits stopBits =>
        have unfit : ¬ stopBits.Fits x.dataBits := by
          intro fits
          rw [PortSettings.apply, dif_pos fits] at none
          cases none
        cases stopBits with
        | SB_1 => exact absurd trivial unfit
        | SB_1_5 => exact .notFive rfl (mt five.mp unfit)
        | SB_2 => exact .five rfl (five.mpr (not_not.mp unfit))
    | _ => cases none

theorem Holds.applied (lawful : p.Lawful) (holds : Holds p termios x)
    (reads : ReadsBack p call.params termios')
    (untouched : Untouched p call.params termios termios') (applied : x.apply call = some x') :
    Holds p termios' x' := by
  have speed : call.params.speed = none → p.getSpeed termios' = p.getSpeed termios := by
    intro unrequested
    obtain ⟨inSpeed, outSpeed⟩ := untouched.speed unrequested
    simp only [Platform.getSpeed, inSpeed, outSpeed]
  have stopBits : call.params.dataBits = none → call.params.stopBits = none →
      p.getStopBits termios' = p.getStopBits termios := fun data stop =>
    getStopBits_congr (untouched.dataBits data) (untouched.stopBits stop)
  have dataBits : call.params.dataBits = none → p.getDatatBits termios' = .ok x.dataBits :=
      fun data =>
    getDatatBits_ok lawful (Eq.trans (untouched.dataBits data) (getDatatBits_field holds.dataBits))
  have parity := fun unrequested => (untouched.parity unrequested).trans holds.parity
  have flowControls :=
    fun unrequested => (untouched.flowControls unrequested).trans holds.flowControls
  cases call with
  | setSpeed speed' =>
      cases applied
      exact ⟨reads.speed _ rfl, dataBits rfl, (stopBits rfl rfl).trans holds.stopBits, parity rfl,
        flowControls rfl⟩
  | setDataBits dataBits' =>
      cases applied
      have size := reads.dataBits _ rfl
      exact ⟨(speed rfl).trans holds.speed, size,
        getStopBits_adapt lawful (getDatatBits_field size) (untouched.stopBits rfl) holds.stopBits,
        parity rfl, flowControls rfl⟩
  | setStopBits stopBits' =>
      rw [PortSettings.apply] at applied
      split at applied
      · cases applied
        exact ⟨(speed rfl).trans holds.speed, dataBits rfl, reads.stopBits _ rfl, parity rfl,
          flowControls rfl⟩
      · cases applied
  | setParity parity' =>
      cases applied
      exact ⟨(speed rfl).trans holds.speed, dataBits rfl, (stopBits rfl rfl).trans holds.stopBits,
        reads.parity _ rfl, flowControls rfl⟩
  | setFlowControl flowControls' =>
      cases applied
      exact ⟨(speed rfl).trans holds.speed, dataBits rfl, (stopBits rfl rfl).trans holds.stopBits,
        parity rfl, reads.flowControls _ rfl⟩

theorem posix_refines (lawful : p.Lawful) (documented : p.Documented)
    (marks : p.CMSPAR.isSome = true) {driver : Driver} (exact : Exact driver)
    (c : PosixConfiguration) :
    Refines JavaException.IsIllegalArgument p.Supports (PosixReports p c)
      (c.perform p driver) PortSettings.apply := by
  constructor
  · intro call x x' s supported reports applied
    obtain ⟨termios, opened, holds⟩ := posixReports_iff.mp reports
    have accepted : ¬ p.Refused call.params termios := by
      rw [refused_iff lawful supported holds, applied]
      exact Option.some_ne_none x'
    have provides : ∀ parity, call.params.parity = some parity → p.Provides parity :=
      fun _ _ _ => .inl marks
    obtain ⟨termios', returned, untouched⟩ :=
      setParams_accepted lawful documented exact opened accepted provides
    obtain ⟨stored, there, reads⟩ := setParams_ok returned
    cases (Function.update_self _ _ _).symm.trans there
    exact ⟨_, returned, posixReports_iff.mpr ⟨_, there,
      holds.applied lawful reads untouched applied⟩⟩
  · intro call x s supported reports refused
    obtain ⟨termios, opened, holds⟩ := posixReports_iff.mp reports
    obtain ⟨e, thrown⟩ := alter_refuses (c := c) (s := s) lawful documented
      ((refused_iff lawful supported holds).mpr refused)
    exact ⟨e, throws_alter _ _ _ thrown,
      (bind_of_ok (getTermios_opened opened)).trans (bind_of_error thrown)⟩

end Posix

section Windows
variable {w : GenericWinSerialPortSocket} {s : CommStates} {dcb : DCB} {x x' : PortSettings}
  {call : SettingsCall}

/-- The settings of a port, as fields of its `DCB`. -/
structure DCB.Holds (dcb : DCB) (x : PortSettings) : Prop where
  speed : dcb.BaudRate = UInt32.ofNat x.speed.value
  dataBits : dcb.ByteSize = UInt8.ofNat x.dataBits.value
  stopBits : dcb.StopBits = STOPBITS x.stopBits
  parity : dcb.Parity = PARITY x.parity
  flowControls : dcb.getFlowControl = x.flowControls

theorem winReports_iff : WinReports w s x ↔ ∃ dcb, s w.hFile = some dcb ∧ dcb.Holds x := by
  have flowControls : ∀ dcb, s w.hFile = some dcb →
      (w.getFlowControl s = .ok x.flowControls s ↔ dcb.getFlowControl = x.flowControls) :=
        fun dcb opened =>
    (winGetter_iff opened fun dcb => .ok dcb.getFlowControl).trans ⟨Except.ok.inj, congrArg _⟩
  constructor
  · intro reports
    obtain ⟨dcb, s', read, -⟩ := bind_ok reports.speed
    have opened := getDCB_ok read
    exact ⟨dcb, opened, DCB.getSpeed_iff.mp ((winGetter_iff opened DCB.getSpeed).mp reports.speed),
      DCB.getDatatBits_iff.mp ((winGetter_iff opened DCB.getDatatBits).mp reports.dataBits),
      DCB.getStopBits_iff.mp ((winGetter_iff opened DCB.getStopBits).mp reports.stopBits),
      DCB.getParity_iff.mp ((winGetter_iff opened DCB.getParity).mp reports.parity),
      (flowControls dcb opened).mp reports.flowControls⟩
  · rintro ⟨dcb, opened, holds⟩
    exact ⟨(winGetter_iff opened DCB.getSpeed).mpr (DCB.getSpeed_iff.mpr holds.speed),
      (winGetter_iff opened DCB.getDatatBits).mpr (DCB.getDatatBits_iff.mpr holds.dataBits),
      (winGetter_iff opened DCB.getStopBits).mpr (DCB.getStopBits_iff.mpr holds.stopBits),
      (winGetter_iff opened DCB.getParity).mpr (DCB.getParity_iff.mpr holds.parity),
      (flowControls dcb opened).mpr holds.flowControls⟩

theorem perform_win (driver : CommDriver) (w : GenericWinSerialPortSocket) (call : SettingsCall) :
    w.perform driver call = w.setParams driver call.params := by
  cases call <;> rfl

theorem five_ByteSize (holds : dcb.Holds x) : dcb.ByteSize = 5 ↔ x.dataBits = .DB_5 := by
  rw [holds.dataBits]
  cases x.dataBits <;> decide

/-- The stop bits are fixed along with the data bits. -/
theorem setDataBits_adapt (holds : dcb.Holds x) (dataBits : DataBits) :
    (dcb.setDataBits (some dataBits)).StopBits = STOPBITS (x.stopBits.adapt dataBits) := by
  have stop := holds.stopBits
  cases dataBits <;> simp only [DCB.setDataBits, stop] <;> cases x.stopBits <;> decide

theorem DCB.Holds.applied (holds : dcb.Holds x) (applied : x.apply call = some x') :
    (dcb.requested call.params).Holds x' := by
  cases call with
  | setDataBits dataBits =>
      cases applied
      exact ⟨holds.speed, DCB.setDataBits_ByteSize dcb dataBits, setDataBits_adapt holds dataBits,
        holds.parity, holds.flowControls⟩
  | setStopBits stopBits =>
      rw [PortSettings.apply] at applied
      split at applied
      · cases applied
        exact ⟨holds.speed, holds.dataBits, rfl, holds.parity, holds.flowControls⟩
      · cases applied
  | setSpeed speed =>
      cases applied
      exact ⟨rfl, holds.dataBits, holds.stopBits, holds.parity, holds.flowControls⟩
  | setParity parity =>
      cases applied
      exact ⟨holds.speed, holds.dataBits, holds.stopBits, rfl, holds.flowControls⟩
  | setFlowControl flowControls =>
      cases applied
      exact ⟨holds.speed, holds.dataBits, holds.stopBits, holds.parity,
        DCB.getFlowControl_set dcb flowControls⟩

theorem setStopBits_unfit {dataBits : DataBits} (five : dcb.ByteSize = 5 ↔ dataBits = .DB_5)
    (stopBits : StopBits) :
    (∃ e, dcb.setStopBits (some stopBits) = .error e) ↔ ¬ stopBits.Fits dataBits := by
  by_cases size : dcb.ByteSize = 5
  · have data := five.mp size
    subst data
    cases stopBits <;> simp [DCB.setStopBits, size, StopBits.Fits]
  · have data := mt five.mpr size
    cases stopBits <;> simp [DCB.setStopBits, size, StopBits.Fits, data]

/-- `alter` refuses the stop bits that do not fit. -/
theorem alter_unfit (holds : dcb.Holds x) :
    (∃ e, dcb.alter call.params = .error e) ↔ x.apply call = none := by
  cases call with
  | setStopBits stopBits =>
      have unfit := setStopBits_unfit (five_ByteSize holds) stopBits
      rw [PortSettings.apply]
      constructor
      · rintro ⟨e, refused⟩
        refine dif_neg (unfit.mp ?_)
        rcases DCB.setStopBits_cases dcb (some stopBits) with accepted | ⟨m, thrown⟩
        · change (dcb.setStopBits (some stopBits) >>= fun set => pure _) = _ at refused
          rw [accepted] at refused
          cases refused
        · exact ⟨_, thrown⟩
      · intro none
        obtain ⟨e, thrown⟩ := unfit.mpr fun fits => by
          rw [dif_pos fits] at none
          cases none
        refine ⟨e, ?_⟩
        change (dcb.setStopBits (some stopBits) >>= fun set => pure _) = _
        rw [thrown]
        rfl
  | _ =>
      constructor
      · rintro ⟨e, ⟨⟩⟩
      · rintro ⟨⟩

/-- A driver that stores exactly what it is given. -/
def WinExact (driver : CommDriver) : Prop := ∀ current given, driver current given = (given, none)

theorem win_refines (allowed : SettingsCall → Prop) {driver : CommDriver} (exact : WinExact driver)
    (w : GenericWinSerialPortSocket) :
    Refines JavaException.IsIllegalArgument allowed (WinReports w)
      (w.perform driver) PortSettings.apply := by
  constructor
  · intro call x x' s _ reports applied
    obtain ⟨dcb, opened, holds⟩ := winReports_iff.mp reports
    have accepted : dcb.alter call.params = .ok (dcb.requested call.params) := by
      rcases dcb.alter_cases call.params with accepted | ⟨m, refused⟩
      · exact accepted
      · rw [(alter_unfit holds).mp ⟨_, refused⟩] at applied
        cases applied
    have stores := exact dcb (dcb.requested call.params)
    refine ⟨_, (perform_win driver w call).symm ▸ setParams_winStored opened accepted
      (by rw [stores]), ?_⟩
    refine winReports_iff.mpr ⟨_, commanded_there, ?_⟩
    rw [stores]
    exact holds.applied applied
  · intro call x s _ reports none
    obtain ⟨dcb, opened, holds⟩ := winReports_iff.mp reports
    obtain ⟨e, refused⟩ := (alter_unfit holds).mpr none
    refine ⟨e, ?_, (perform_win driver w call).symm ▸ setParams_winRefused opened refused⟩
    rcases dcb.alter_cases call.params with accepted | ⟨m, thrown⟩
    · rw [accepted] at refused
      cases refused
    · rw [thrown] at refused
      cases refused
      exact ⟨m, rfl⟩

end Windows

/-- The getters of both sockets report the same settings, and the stop bits of the `DCB` go
with its data bits. -/
structure Agreeing (p : Platform) (c : PosixConfiguration) (w : GenericWinSerialPortSocket)
    (s : Descriptors) (t : CommStates) : Prop where
  settings : ∃ x, PosixReports p c s x ∧ WinReports w t x
  stopBits : ∀ dcb, t w.hFile = some dcb → ¬ (dcb.StopBits = ONE5STOPBITS ∧ 6 ≤ dcb.ByteSize) ∧
    ¬ (dcb.StopBits = TWOSTOPBITS ∧ dcb.ByteSize = 5)

theorem DCB.Holds.stopBits_fit {dcb : DCB} {x : PortSettings} (holds : dcb.Holds x) :
    ¬ (dcb.StopBits = ONE5STOPBITS ∧ 6 ≤ dcb.ByteSize) ∧
      ¬ (dcb.StopBits = TWOSTOPBITS ∧ dcb.ByteSize = 5) := by
  have fits := x.fits
  rw [holds.stopBits, holds.dataBits]
  generalize x.stopBits = stopBits at fits ⊢
  generalize x.dataBits = dataBits at fits ⊢
  cases stopBits <;> cases dataBits <;> revert fits <;> decide

theorem agreeing_of_reports {p : Platform} {c : PosixConfiguration} {w : GenericWinSerialPortSocket}
    {s : Descriptors} {t : CommStates} {x : PortSettings} (posix : PosixReports p c s x)
    (win : WinReports w t x) : Agreeing p c w s t := by
  obtain ⟨dcb, opened, holds⟩ := winReports_iff.mp win
  refine ⟨⟨x, posix, win⟩, fun dcb' there => ?_⟩
  cases opened.symm.trans there
  exact holds.stopBits_fit

/-- The POSIX and the Windows socket are one settings machine. -/
theorem sockets_lockstep (p : Platform) (lawful : p.Lawful) (documented : p.Documented)
    (marks : p.CMSPAR.isSome = true) (driver : Driver) (exact : Exact driver)
    (winDriver : CommDriver) (winExact : WinExact winDriver) (c : PosixConfiguration)
    (w : GenericWinSerialPortSocket) (calls : List SettingsCall)
    (supported : ∀ call ∈ calls, p.Supports call) (s : Descriptors) (t : CommStates)
    (x : PortSettings) (posix : PosixReports p c s x) (win : WinReports w t x) :
    Lockstep JavaException.IsIllegalArgument (Agreeing p c w)
      (c.perform p driver) (w.perform winDriver) calls s t :=
  (posix_refines lawful documented marks exact c).lockstep (win_refines p.Supports winExact w)
    (fun _ _ _ => agreeing_of_reports) calls supported posix win

/-- With a flag for `MARK` and `SPACE`, but without some of the speeds. -/
def marked : Platform := { freeBSD with CMSPAR := some 0x40000000 }

theorem marked_lawful : marked.Lawful := by
  refine ⟨by
    decide, by decide, freeBSD_lawful.some, freeBSD_lawful.inputSome, ?_, freeBSD_lawful.within,
    freeBSD_lawful.distinct, freeBSD_lawful.speeds⟩
  rintro m (defined | defined)
  · cases defined
    decide
  · cases defined

theorem marked_documented : marked.Documented := by
  refine ⟨fun termios _ value _ => ?_, fun _ _ _ _ _ => ⟨rfl, rfl⟩⟩
  exact ⟨{ termios with c_ispeed := value, c_ospeed := value }, rfl, rfl, rfl,
    agree_refl _ _, agree_refl _ _⟩

def defaults : PortSettings := ⟨._9600_BPS, .DB_8, .SB_1, .NONE, ∅, trivial⟩

theorem cuau0_defaults : PosixReports marked cuau0 at9600 defaults := by
  refine posixReports_iff.mpr ⟨_, rfl, ?_⟩
  have speed : marked.B ._9600_BPS = some 9600 := rfl
  refine ⟨?_, rfl, rfl, rfl, rfl⟩
  exact (getSpeed_same rfl).trans (speed_t2speed_defined marked_lawful.speeds speed)

theorem com1_defaults : WinReports com1 com1At9600 defaults :=
  winReports_iff.mpr ⟨_, rfl, rfl, rfl, rfl, rfl, rfl⟩

theorem sockets_lockstep_marked :
    Lockstep JavaException.IsIllegalArgument (Agreeing marked cuau0 com1)
      (cuau0.perform marked fun _ given => (given, none))
        (com1.perform fun _ given => (given, none)) [.setStopBits .SB_2, .setDataBits .DB_5,
        .setStopBits .SB_2] at9600 com1At9600 := by
  refine sockets_lockstep marked marked_lawful marked_documented rfl _ (fun _ _ =>
    rfl) _ (fun _ _ => rfl) cuau0 com1 _ ?_ at9600 com1At9600 defaults cuau0_defaults com1_defaults
  intro call member
  simp only [List.mem_cons, List.not_mem_nil, or_false] at member
  rcases member with rfl | rfl | rfl
  · exact ⟨trivial, by rintro _ ⟨⟩⟩
  · exact ⟨trivial, by rintro _ ⟨⟩⟩
  · exact ⟨trivial, by rintro _ ⟨⟩⟩

/-- A speed that the platform does not define is refused on POSIX and set on Windows. -/
theorem undefined_speed_differs :
    marked.Lawful ∧ marked.Documented ∧ marked.CMSPAR.isSome = true ∧
      PosixReports marked cuau0 at9600 defaults ∧ WinReports com1 com1At9600 defaults ∧
      ¬ Lockstep JavaException.IsIllegalArgument (Agreeing marked cuau0 com1)
        (cuau0.perform marked fun _ given => (given, none))
          (com1.perform fun _ given => (given, none))
          [.setSpeed ._576000_BPS] at9600 com1At9600 := by
  have refused : marked.Refused (SettingsCall.setSpeed ._576000_BPS).params
      ⟨0, 0, 0x300, 0, fun _ => 0, 9600, 9600⟩ := .undefinedSpeed ._576000_BPS rfl rfl
  obtain ⟨e, thrown⟩ := setParams_refused (c := cuau0) (s := at9600) marked_lawful marked_documented
    (fun _ given => (given, none)) rfl refused
  have returned : com1.setSpeed (fun _ given => (given, none)) ._576000_BPS com1At9600 = .ok () _ :=
    setParams_winStored rfl rfl rfl
  refine ⟨marked_lawful, marked_documented, rfl, cuau0_defaults, com1_defaults, ?_⟩
  rintro ⟨-, ⟨s', t', accepted, -⟩ | ⟨e, e', -, -, -, rejected, -⟩⟩
  · cases thrown.symm.trans accepted
  · cases returned.symm.trans rejected

end Spsw.Jnhw

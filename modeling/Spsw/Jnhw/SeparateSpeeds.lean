import Spsw.Jnhw.SetParams

/-!
# Separate speeds

`setInSpeed` and `setOutSpeed` check the structure they altered and never store it,
so the device keeps its speeds. A sequence of calls is as its caller expects only
where such a call asks for the speed the device already has.
-/
namespace Spsw.Jnhw
open Stateful

/-- Each function on speeds changes the fields it names and no other, and they read back. -/
structure Platform.SeparateSpeeds (p : Platform) : Prop where
  distinct : p.Distinct
  cfsetispeed : ∀ termios speed value, p.B speed = some value → ∃ termios',
    p.cfsetispeed termios value = .ok termios' ∧ p.cfgetispeed termios' = value ∧
      p.cfgetospeed termios' = p.cfgetospeed termios
  cfsetospeed : ∀ termios speed value, p.B speed = some value → ∃ termios',
    p.cfsetospeed termios value = .ok termios' ∧ p.cfgetospeed termios' = value ∧
      p.cfgetispeed termios' = p.cfgetispeed termios
  cfsetspeed : ∀ termios speed value, p.B speed = some value → ∃ termios',
    p.cfsetspeed termios value = .ok termios' ∧ p.cfgetispeed termios' = value ∧
      p.cfgetospeed termios' = value

inductive SpeedCall where
  | setInSpeed (speed : Speed)
  | setOutSpeed (speed : Speed)
  | setSpeed (speed : Speed)
  deriving DecidableEq, Repr

/-- The speeds most recently set, if any were. -/
structure SetSpeeds where
  inSpeed : Option Speed := none
  outSpeed : Option Speed := none
  deriving DecidableEq, Repr

namespace SpeedCall

def perform (p : Platform) (driver : Driver) (c : PosixConfiguration) : SpeedCall → Configuring Unit
  | .setInSpeed speed => c.setInSpeed p speed
  | .setOutSpeed speed => c.setOutSpeed p speed
  | .setSpeed speed => c.setSpeed p driver speed

def speed : SpeedCall → Speed
  | .setInSpeed speed => speed
  | .setOutSpeed speed => speed
  | .setSpeed speed => speed

def record (speeds : SetSpeeds) : SpeedCall → SetSpeeds
  | .setInSpeed speed => { speeds with inSpeed := some speed }
  | .setOutSpeed speed => { speeds with outSpeed := some speed }
  | .setSpeed speed => ⟨some speed, some speed⟩

/-- The direction a call does not set reads as before. -/
def LeavesOther (p : Platform) (c : PosixConfiguration) (s s' : Descriptors) : SpeedCall → Prop
  | .setInSpeed _ => reading (c.getOutSpeed p) s' = reading (c.getOutSpeed p) s
  | .setOutSpeed _ => reading (c.getInSpeed p) s' = reading (c.getInSpeed p) s
  | .setSpeed _ => True

/-- A call for one direction asks for the speed the device has, or for one that is undefined. -/
def Idle (p : Platform) (c : PosixConfiguration) (s : Descriptors) : SpeedCall → Prop
  | .setInSpeed speed => ∀ termios, s c.fd = some termios → p.B speed ≠ none →
      p.getInSpeed termios = .ok speed
  | .setOutSpeed speed => ∀ termios, s c.fd = some termios → p.B speed ≠ none →
      p.getOutSpeed termios = .ok speed
  | .setSpeed _ => True

end SpeedCall

/-- The getters report the speeds recorded. -/
structure Reports (p : Platform) (c : PosixConfiguration) (s : Descriptors)
    (speeds : SetSpeeds) : Prop where
  inSpeed : ∀ speed, speeds.inSpeed = some speed → c.getInSpeed p s = .ok speed s
  outSpeed : ∀ speed, speeds.outSpeed = some speed → c.getOutSpeed p s = .ok speed s

/-- After each call that returns, the getters report the speeds most recently set. -/
def Honoured (p : Platform) (driver : Driver) (c : PosixConfiguration) :
    List SpeedCall → SetSpeeds → Descriptors → Prop
  | [], _, _ => True
  | call :: calls, speeds, s =>
      match call.perform p driver c s with
      | .ok () s' => Reports p c s' (call.record speeds) ∧ call.LeavesOther p c s s' ∧
          Honoured p driver c calls (call.record speeds) s'
      | .error _ s' => Honoured p driver c calls speeds s'

/-- Every call for one direction in the sequence is idle. -/
def AllIdle (p : Platform) (driver : Driver) (c : PosixConfiguration) :
    List SpeedCall → Descriptors → Prop
  | [], _ => True
  | call :: calls, s => call.Idle p c s ∧
      match call.perform p driver c s with
      | .ok () s' => AllIdle p driver c calls s'
      | .error _ s' => AllIdle p driver c calls s'

section Calls
variable {p : Platform} {driver : Driver} {c : PosixConfiguration} {s s' : Descriptors}
  {termios termios' : StructTermios} {speed : Speed}

/-- What the setters for one direction do: they alter a structure, read it, and drop it. -/
theorem setDirection_opened {call : StructTermios → ℤ → Except Errno StructTermios}
    {name what : String} (get : StructTermios → Except JavaException Speed) {value : ℤ}
    (opened : s c.fd = some termios) (defined : p.B speed = some value)
    (accepted : call termios value = .ok termios') (reads : get termios' = .ok speed) :
    (do
      let termios ← c.getTermios
      let termios ← c.cfset p call name termios speed
      outcome (PosixConfiguration.expectSpeed what speed (get termios))) s = .ok () s := by
  refine (bind_of_ok (getTermios_opened opened)).trans
    ((bind_of_ok (cfset_defined defined accepted)).trans ?_)
  rw [PosixConfiguration.expectSpeed, reads]
  change outcome (if speed = speed then _ else _) s = _
  rw [if_pos rfl]
  rfl

theorem setDirection_otherwise {call : StructTermios → ℤ → Except Errno StructTermios}
    {name what : String} {get : StructTermios → Except JavaException Speed}
    (failing : s c.fd = none ∨ p.B speed = none) :
    ∃ e, (do
      let termios ← c.getTermios
      let termios ← c.cfset p call name termios speed
      outcome (PosixConfiguration.expectSpeed what speed (get termios))) s = .error e s := by
  cases found : s c.fd with
  | none => exact ⟨_, bind_of_error (getTermios_closed found)⟩
  | some termios =>
      have undefined : p.B speed = none := failing.resolve_left (by simp [found])
      obtain ⟨e, thrown⟩ := cfset_undefined (p := p) (c := c) (s := s) undefined
      exact ⟨e, (bind_of_ok (getTermios_opened found)).trans (bind_of_error thrown)⟩

theorem setInSpeed_opened (separate : p.SeparateSpeeds) (opened : s c.fd = some termios)
    (defined : p.B speed ≠ none) : c.setInSpeed p speed s = .ok () s := by
  obtain ⟨value, constant⟩ := Option.ne_none_iff_exists'.mp defined
  obtain ⟨termios', accepted, read, -⟩ := separate.cfsetispeed termios speed value constant
  apply setDirection_opened p.getInSpeed opened constant accepted
  rw [Platform.getInSpeed, read]
  exact speed_t2speed_defined separate.distinct constant

theorem setOutSpeed_opened (separate : p.SeparateSpeeds) (opened : s c.fd = some termios)
    (defined : p.B speed ≠ none) : c.setOutSpeed p speed s = .ok () s := by
  obtain ⟨value, constant⟩ := Option.ne_none_iff_exists'.mp defined
  obtain ⟨termios', accepted, read, -⟩ := separate.cfsetospeed termios speed value constant
  apply setDirection_opened p.getOutSpeed opened constant accepted
  rw [Platform.getOutSpeed, read]
  exact speed_t2speed_defined separate.distinct constant

theorem setSpeed_opened (separate : p.SeparateSpeeds) (exact : Exact driver)
    (opened : s c.fd = some termios) (defined : p.B speed ≠ none) :
    ∃ s', c.setSpeed p driver speed s = .ok () s' := by
  obtain ⟨value, constant⟩ := Option.ne_none_iff_exists'.mp defined
  obtain ⟨termios', accepted, inSpeed, outSpeed⟩ := separate.cfsetspeed termios speed value constant
  have altered : c.alter p { speed := some speed } termios s = .ok termios' s :=
    bind_of_ok (cfset_defined constant accepted)
  have reads : ReadsBack p { speed := some speed } termios' := by
    refine ⟨fun speed' same => ?_, fun _ none => ?_, fun _ none => ?_,
      fun _ none => ?_, fun _ none => ?_⟩
    · cases same
      rw [getSpeed_same (inSpeed.trans outSpeed.symm), Platform.getInSpeed, inSpeed]
      exact speed_t2speed_defined separate.distinct constant
    · cases none
    · cases none
    · cases none
    · cases none
  exact ⟨_, setParams_altered exact opened altered reads⟩

theorem setSpeed_otherwise (failing : s c.fd = none ∨ p.B speed = none) :
    ∃ e, c.setSpeed p driver speed s = .error e s := by
  cases found : s c.fd with
  | none => exact ⟨_, bind_of_error (getTermios_closed found)⟩
  | some termios =>
      have undefined : p.B speed = none := failing.resolve_left (by simp [found])
      obtain ⟨e, thrown⟩ := setBothSpeeds_undefined (c := c) (s := s) termios undefined
      exact ⟨e, (bind_of_ok (getTermios_opened found)).trans (bind_of_error (bind_of_error thrown))⟩

theorem perform_opened (separate : p.SeparateSpeeds) (exact : Exact driver) (call : SpeedCall)
    (opened : s c.fd = some termios) (defined : p.B call.speed ≠ none) :
    ∃ s', call.perform p driver c s = .ok () s' := by
  cases call with
  | setInSpeed speed => exact ⟨s, setInSpeed_opened separate opened defined⟩
  | setOutSpeed speed => exact ⟨s, setOutSpeed_opened separate opened defined⟩
  | setSpeed speed => exact setSpeed_opened separate exact opened defined

/-- On a closed device, or for a speed that is undefined, a call throws and leaves everything. -/
theorem perform_otherwise (driver : Driver) (call : SpeedCall)
    (failing : s c.fd = none ∨ p.B call.speed = none) :
    ∃ e, call.perform p driver c s = .error e s := by
  cases call with
  | setInSpeed speed => exact setDirection_otherwise failing
  | setOutSpeed speed => exact setDirection_otherwise failing
  | setSpeed speed => exact setSpeed_otherwise failing

theorem idle_otherwise (call : SpeedCall) (failing : s c.fd = none ∨ p.B call.speed = none) :
    call.Idle p c s := by
  cases call with
  | setInSpeed speed =>
      intro termios opened defined
      rw [opened] at failing
      exact absurd (failing.resolve_left (by simp)) defined
  | setOutSpeed speed =>
      intro termios opened defined
      rw [opened] at failing
      exact absurd (failing.resolve_left (by simp)) defined
  | setSpeed speed => trivial

theorem perform_ok {call : SpeedCall} (returned : call.perform p driver c s = .ok () s') :
    (∃ termios, s c.fd = some termios) ∧ p.B call.speed ≠ none := by
  by_contra other
  have failing : s c.fd = none ∨ p.B call.speed = none := by
    by_contra working
    rw [not_or] at working
    exact other ⟨Option.ne_none_iff_exists'.mp working.1, working.2⟩
  obtain ⟨e, thrown⟩ := perform_otherwise driver call failing
  rw [thrown] at returned
  cases returned

theorem keeps_setDirection {call : StructTermios → ℤ → Except Errno StructTermios}
    {name what : String} {get : StructTermios → Except JavaException Speed} :
    Keeps (do
      let termios ← c.getTermios
      let termios ← c.cfset p call name termios speed
      outcome (PosixConfiguration.expectSpeed what speed (get termios))) :=
  keeps_bind keeps_getTermios fun _ => keeps_bind (keeps_cfset _ _ _ _) fun _ => keeps_outcome _

theorem getter_ok_iff {get : StructTermios → Except JavaException Speed}
    (opened : s c.fd = some termios) :
    (c.getTermios >>= fun termios => outcome (get termios)) s = .ok speed s ↔
    get termios = .ok speed := by
  rw [getter_opened opened get]
  exact ⟨outcome_ok, fun reads => by rw [reads]; rfl⟩

end Calls

section Runs
variable {p : Platform} {driver : Driver} {c : PosixConfiguration} {s s' : Descriptors}
  {speeds : SetSpeeds} {call : SpeedCall}

theorem leavesOther (returned : call.perform p driver c s = .ok () s') :
    call.LeavesOther p c s s' := by
  cases call with
  | setInSpeed speed =>
      have same : s' = s := keeps_setDirection.of_ok returned
      rw [same]
      rfl
  | setOutSpeed speed =>
      have same : s' = s := keeps_setDirection.of_ok returned
      rw [same]
      rfl
  | setSpeed speed => trivial

/-- After a call that returned the getters report its speed just if the call was idle. -/
theorem reports_iff (reports : Reports p c s speeds)
    (returned : call.perform p driver c s = .ok () s') :
    Reports p c s' (call.record speeds) ↔ call.Idle p c s := by
  obtain ⟨⟨termios, opened⟩, defined⟩ := perform_ok returned
  cases call with
  | setInSpeed speed =>
      have same : s' = s := keeps_setDirection.of_ok returned
      subst same
      constructor
      · intro after termios' opened' _
        exact (getter_ok_iff opened').mp (after.inSpeed speed rfl)
      · intro idle
        refine ⟨fun speed' same => ?_, reports.outSpeed⟩
        cases same
        exact (getter_ok_iff opened).mpr (idle termios opened defined)
  | setOutSpeed speed =>
      have same : s' = s := keeps_setDirection.of_ok returned
      subst same
      constructor
      · intro after termios' opened' _
        exact (getter_ok_iff opened').mp (after.outSpeed speed rfl)
      · intro idle
        refine ⟨reports.inSpeed, fun speed' same => ?_⟩
        cases same
        exact (getter_ok_iff opened).mpr (idle termios opened defined)
  | setSpeed speed =>
      refine iff_of_true ?_ trivial
      obtain ⟨stored, there, reads⟩ := setParams_ok returned
      have read := reads.speed speed rfl
      have equal := getSpeed_ok read
      rw [getSpeed_same equal] at read
      refine ⟨fun speed' same => ?_, fun speed' same => ?_⟩
      · cases same
        exact (getter_ok_iff there).mpr read
      · cases same
        apply (getter_ok_iff there).mpr
        rw [Platform.getOutSpeed, ← equal]
        exact read

theorem honoured_iff (separate : p.SeparateSpeeds) (exact : Exact driver) (calls : List SpeedCall)
    (reports : Reports p c s speeds) :
    Honoured p driver c calls speeds s ↔ AllIdle p driver c calls s := by
  induction calls generalizing s speeds with
  | nil => exact Iff.rfl
  | cons call calls ih =>
      by_cases failing : s c.fd = none ∨ p.B call.speed = none
      · obtain ⟨e, thrown⟩ := perform_otherwise driver call failing
        simp only [Honoured, AllIdle, thrown, ih reports, idle_otherwise call failing, true_and]
      · rw [not_or] at failing
        obtain ⟨termios, opened⟩ := Option.ne_none_iff_exists'.mp failing.1
        obtain ⟨s', returned⟩ := perform_opened separate exact call opened failing.2
        simp only [Honoured, AllIdle, returned, leavesOther returned, true_and]
        constructor
        · rintro ⟨after, rest⟩
          exact ⟨(reports_iff reports returned).mp after, (ih after).mp rest⟩
        · rintro ⟨idle, rest⟩
          have after := (reports_iff reports returned).mpr idle
          exact ⟨after, (ih after).mpr rest⟩

end Runs

/-- The getters follow a sequence of calls just if each call for one direction is idle. -/
theorem separateSpeeds_iff (p : Platform) (separate : p.SeparateSpeeds) (driver : Driver)
    (exact : Exact driver) (c : PosixConfiguration) (calls : List SpeedCall) (s : Descriptors) :
    Honoured p driver c calls {} s ↔ AllIdle p driver c calls s := by
  refine honoured_iff separate exact calls ⟨fun speed none => ?_, fun speed none => ?_⟩
  · cases none
  · cases none

theorem freeBSD_separateSpeeds : freeBSD.SeparateSpeeds :=
  ⟨freeBSD_lawful.speeds,
    fun termios _ value _ => ⟨{ termios with c_ispeed := value }, rfl, rfl, rfl⟩,
    fun termios _ value _ => ⟨{ termios with c_ospeed := value }, rfl, rfl, rfl⟩,
    fun termios _ value _ => ⟨{ termios with c_ispeed := value, c_ospeed := value }, rfl, rfl, rfl⟩⟩

theorem separateSpeeds_iff_same :
    Honoured freeBSD (fun _ given => (given, none)) cuau0 [.setInSpeed ._9600_BPS] {} at9600 := by
  refine (separateSpeeds_iff freeBSD freeBSD_separateSpeeds _ (fun _ _ => rfl) _ _ _).mpr ⟨?_, ?_⟩
  · intro termios opened _
    cases opened
    rfl
  · split
    · trivial
    · trivial

/-- `setInSpeed` returns, and the device still has its old speed. -/
theorem setInSpeed_lost :
    ¬ Honoured freeBSD (fun _ given => (given, none)) cuau0
      [.setInSpeed ._115200_BPS] {} at9600 := by
  intro honoured
  have opened : at9600 cuau0.fd = some ⟨0, 0, 0x300, 0, fun _ => 0, 9600, 9600⟩ := rfl
  have returned : cuau0.setInSpeed freeBSD ._115200_BPS at9600 = .ok () at9600 :=
    setInSpeed_opened freeBSD_separateSpeeds opened (by decide)
  simp only [Honoured, SpeedCall.perform, returned] at honoured
  have read := (getter_ok_iff opened).mp (honoured.1.inSpeed ._115200_BPS rfl)
  cases read

end Spsw.Jnhw

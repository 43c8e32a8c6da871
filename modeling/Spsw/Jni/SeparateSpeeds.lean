import Spsw.Jni.TermiosSettings
import Spsw.Jnhw.SeparateSpeeds

/-!
# Separate speeds of the native library

`setInSpeed0` and `setOutSpeed0` store the structure and read the device back. The
speed that `setOutSpeed0` compares with its argument is the input speed, so a
sequence of calls goes through only where each output speed is the input speed of
the moment.
-/
namespace Spsw.Jni
open Jnhw Stateful

/-- The driver takes both speeds of the structure as they are. -/
def StoresSpeeds (p : Platform) (driver : Driver) : Prop :=
  ∀ current given, (driver current given).2 = none ∧
    p.cfgetispeed (driver current given).1 = p.cfgetispeed given ∧
    p.cfgetospeed (driver current given).1 = p.cfgetospeed given

inductive DirectionCall where
  | setInSpeed (speed : Speed)
  | setOutSpeed (speed : Speed)
  deriving DecidableEq, Repr

namespace DirectionCall

def perform (p : Platform) (driver : Driver) (n : TermiosSocket) : DirectionCall → Configuring Unit
  | .setInSpeed speed => n.setInSpeed p driver speed
  | .setOutSpeed speed => n.setOutSpeed p driver speed

def speed : DirectionCall → Speed
  | .setInSpeed speed => speed
  | .setOutSpeed speed => speed

def record (speeds : SetSpeeds) : DirectionCall → SetSpeeds
  | .setInSpeed speed => { speeds with inSpeed := some speed }
  | .setOutSpeed speed => { speeds with outSpeed := some speed }

end DirectionCall

/-- The getters report the speeds recorded. -/
structure Reports (p : Platform) (n : TermiosSocket) (s : Descriptors)
    (speeds : SetSpeeds) : Prop where
  inSpeed : ∀ speed, speeds.inSpeed = some speed → n.getInSpeed p s = .ok speed s
  outSpeed : ∀ speed, speeds.outSpeed = some speed → n.getOutSpeed p s = .ok speed s

/-- Every call returns, and after it the getters report the speeds most recently set. -/
def Followed (p : Platform) (driver : Driver) (n : TermiosSocket) :
    List DirectionCall → SetSpeeds → Descriptors → Prop
  | [], _, _ => True
  | call :: calls, speeds, s => ∃ s', call.perform p driver n s = .ok () s' ∧
      Reports p n s' (call.record speeds) ∧ Followed p driver n calls (call.record speeds) s'

/-- Each output speed is the input speed set before it, and first `inSpeed`. -/
def OutSpeedsFollowIn (p : Platform) : Option ℤ → List DirectionCall → Prop
  | _, [] => True
  | _, .setInSpeed speed :: calls => OutSpeedsFollowIn p (p.B speed) calls
  | inSpeed, .setOutSpeed speed :: calls => p.B speed = inSpeed ∧ OutSpeedsFollowIn p inSpeed calls

section Speeds
variable {p : Platform}

theorem speed2speed_t_SPEED {speed : Speed} {value : ℤ} (defined : p.B speed = some value) :
    speed2speed_t p (SPEED speed &&& SPEED_MASK) = .ok value := by
  rw [speed2speed_t, select_speed, Option.bind_some, defined]

/-- Reading a speed gives its bits, or complains. -/
theorem speed_t2Speed_cases (value : ℤ) :
    (∃ speed, p.B speed = some value ∧ speed_t2Speed p value = .ok (SPEED speed)) ∨
      (∀ speed, p.B speed ≠ some value) ∧
        ∃ m, speed_t2Speed p value = .error (.illegalArgumentException m) := by
  unfold speed_t2Speed
  cases found : Speed.values.find? fun s => p.B s = some value with
  | some speed => exact .inl ⟨speed, by simpa using List.find?_some found, rfl⟩
  | none =>
      refine .inr ⟨fun speed constant => ?_, _, rfl⟩
      have every := List.find?_eq_none.mp found speed (Speed.mem_values speed)
      simp [constant] at every

theorem speed_t2Speed_defined (distinct : p.Distinct) {speed : Speed} {value : ℤ}
    (defined : p.B speed = some value) : speed_t2Speed p value = .ok (SPEED speed) := by
  rcases speed_t2Speed_cases (p := p) value with ⟨speed', constant, read⟩ | ⟨undefined, -⟩
  · rw [read, distinct speed' speed value constant defined]
  · exact absurd defined (undefined speed)

end Speeds

section Calls
variable {p : Platform} {driver : Driver} {n : TermiosSocket} {s : Descriptors}
  {settings altered : StructTermios} {speed : Speed} {value : ℤ}

/-- What the device holds once `altered` has been given to it. -/
def stored (driver : Driver) (n : TermiosSocket) (s : Descriptors)
    (settings altered : StructTermios) :
    Descriptors :=
  Function.update s n.fd (some (driver settings altered).1)

theorem stored_there : stored driver n s settings altered n.fd = some (driver settings altered).1 :=
  Function.update_self _ _ _

/-- A setter returns if the speed it reads back is the one requested, and else complains;
either way the device has been given the altered structure. -/
theorem setOneSpeed_opened (name cfsetName what : String)
    {cfset : StructTermios → ℤ → Except Errno StructTermios} (cfget : StructTermios → ℤ)
    (distinct : p.Distinct) (opened : s n.fd = some settings) (defined : p.B speed = some value)
    (accepted : cfset settings value = .ok altered) (silent : (driver settings altered).2 = none) :
    (cfget (driver settings altered).1 = value →
      n.setOneSpeed p driver name cfsetName what cfset cfget (SPEED speed) s =
        .ok () (stored driver n s settings altered)) ∧
    (cfget (driver settings altered).1 ≠ value → ∃ m,
      n.setOneSpeed p driver name cfsetName what cfset cfget (SPEED speed) s =
        .error (.illegalArgumentException m) (stored driver n s settings altered)) := by
  have stores : driver settings altered = ((driver settings altered).1, none) :=
    Prod.ext rfl silent
  have converted : outcome (speed2speed_t p (SPEED speed &&& SPEED_MASK)) s = .ok value s := by
    rw [speed2speed_t_SPEED defined]
    rfl
  have read : ∀ message, n.getSettings message (stored driver n s settings altered) =
      .ok (driver settings altered).1 (stored driver n s settings altered) :=
    fun message => getSettings_opened stored_there
  have start : n.setOneSpeed p driver name cfsetName what cfset cfget (SPEED speed) s =
      (do
        let read ← outcome (speed_t2Speed p (cfget (driver settings altered).1))
        if SPEED speed = read then pure ()
        else throw (.illegalArgumentException ("Could not set " ++ what ++ "!")) : Configuring Unit)
          (stored driver n s settings altered) := by
    refine (bind_of_ok (getSettings_opened opened)).trans ((bind_of_ok converted).trans ?_)
    rw [accepted]
    apply (bind_of_ok (tcsetattr_opened opened stores)).trans
    exact bind_of_ok (read _)
  rw [start]
  constructor
  · intro same
    rw [same, speed_t2Speed_defined distinct defined]
    change (if SPEED speed = SPEED speed then _ else _ : Configuring Unit) _ = _
    rw [if_pos rfl]
    rfl
  · intro differs
    rcases speed_t2Speed_cases (p := p) (cfget (driver settings altered).1) with
      ⟨speed', constant, bits⟩ | ⟨-, m, complaint⟩
    · have other : SPEED speed ≠ SPEED speed' := by
        intro same
        rw [← SPEED_injective same, defined] at constant
        exact differs (Option.some.inj constant).symm
      rw [bits]
      refine ⟨"Could not set " ++ what ++ "!", ?_⟩
      change (if SPEED speed = SPEED speed' then _ else _ : Configuring Unit) _ = _
      rw [if_neg other]
      rfl
    · rw [complaint]
      exact ⟨m, rfl⟩

theorem relabel_ok {m : Configuring Unit} {message : String} {s' : Descriptors}
    (returned : m s = .ok () s') :
    TermiosSocket.relabel m message s = .ok () s' :=
  tryCatch_of_ok returned

theorem relabel_refused {m : Configuring Unit} {message text : String} {s' : Descriptors}
    (thrown : m s = .error (.illegalArgumentException text) s') :
    TermiosSocket.relabel m message s = .error (.illegalArgumentException message) s' := by
  rw [TermiosSocket.relabel, tryCatch_of_error thrown]
  rfl

/-- `setInSpeed` returns, and changes the input speed alone. -/
theorem setInSpeed_opened (separate : p.SeparateSpeeds) (stores : StoresSpeeds p driver)
    (opened : s n.fd = some settings) (defined : p.B speed = some value) :
    ∃ settings', n.setInSpeed p driver speed s = .ok () (Function.update s n.fd (some settings')) ∧
      p.cfgetispeed settings' = value ∧ p.cfgetospeed settings' = p.cfgetospeed settings := by
  obtain ⟨altered, accepted, inSpeed, outSpeed⟩ := separate.cfsetispeed settings speed value defined
  obtain ⟨silent, storedIn, storedOut⟩ := stores settings altered
  have set :=
    setOneSpeed_opened "setInSpeed0" "cfsetispeed" "inSpeed" p.cfgetispeed separate.distinct opened
    defined accepted silent
  exact ⟨_, relabel_ok (set.1 (storedIn.trans inSpeed)), storedIn.trans inSpeed,
    storedOut.trans outSpeed⟩

/-- `setOutSpeed` changes the output speed alone, but returns only if the input speed is
the one requested. -/
theorem setOutSpeed_opened (separate : p.SeparateSpeeds) (stores : StoresSpeeds p driver)
    (opened : s n.fd = some settings) (defined : p.B speed = some value) :
    ∃ settings', p.cfgetispeed settings' = p.cfgetispeed settings ∧
      p.cfgetospeed settings' = value ∧
      (p.cfgetispeed settings = value →
        n.setOutSpeed p driver speed s = .ok () (Function.update s n.fd (some settings'))) ∧
      (p.cfgetispeed settings ≠ value → ∃ m, n.setOutSpeed p driver speed s =
        .error (.illegalArgumentException m) (Function.update s n.fd (some settings'))) := by
  obtain ⟨altered, accepted, outSpeed, inSpeed⟩ := separate.cfsetospeed settings speed value defined
  obtain ⟨silent, storedIn, storedOut⟩ := stores settings altered
  have set :=
    setOneSpeed_opened "setOutSpeed0" "cfsetospeed" "outSpeed" p.cfgetispeed separate.distinct
    opened defined accepted silent
  have kept := storedIn.trans inSpeed
  rw [kept] at set
  refine ⟨_, kept, storedOut.trans outSpeed, fun same => relabel_ok (set.1 same), fun differs => ?_⟩
  obtain ⟨text, thrown⟩ := set.2 differs
  exact ⟨_, relabel_refused thrown⟩

theorem getInSpeed_opened (distinct : p.Distinct) (opened : s n.fd = some settings)
    (defined : p.B speed = some (p.cfgetispeed settings)) : n.getInSpeed p s = .ok speed s := by
  have bits : n.getInSpeed0 p s = .ok (SPEED speed) s := by
    apply (bind_of_ok (getSettings_opened opened)).trans
    rw [speed_t2Speed_defined distinct defined]
    rfl
  apply (bind_of_ok bits).trans
  rw [speedFromBitSet_SPEED]
  rfl

theorem getOutSpeed_opened (distinct : p.Distinct) (opened : s n.fd = some settings)
    (defined : p.B speed = some (p.cfgetospeed settings)) : n.getOutSpeed p s = .ok speed s := by
  have bits : n.getOutSpeed0 p s = .ok (SPEED speed) s := by
    apply (bind_of_ok (getSettings_opened opened)).trans
    rw [speed_t2Speed_defined distinct defined]
    rfl
  apply (bind_of_ok bits).trans
  rw [speedFromBitSet_SPEED]
  rfl

/-- The recorded speeds are those of the device. -/
structure Recorded (p : Platform) (speeds : SetSpeeds) (settings : StructTermios) : Prop where
  inSpeed : ∀ speed, speeds.inSpeed = some speed → p.B speed = some (p.cfgetispeed settings)
  outSpeed : ∀ speed, speeds.outSpeed = some speed → p.B speed = some (p.cfgetospeed settings)

theorem Recorded.reports {speeds : SetSpeeds} (recorded : Recorded p speeds settings)
    (distinct : p.Distinct) (opened : s n.fd = some settings) : Reports p n s speeds :=
  ⟨fun speed set => getInSpeed_opened distinct opened (recorded.inSpeed speed set),
    fun speed set => getOutSpeed_opened distinct opened (recorded.outSpeed speed set)⟩

theorem Recorded.setIn {speeds : SetSpeeds} {settings' : StructTermios}
    (recorded : Recorded p speeds settings) (constant : p.B speed = some value)
    (inSpeed : p.cfgetispeed settings' = value)
    (outSpeed : p.cfgetospeed settings' = p.cfgetospeed settings) :
    Recorded p (DirectionCall.record speeds (.setInSpeed speed)) settings' := by
  constructor
  · intro speed' set
    cases set
    rw [constant, inSpeed]
  · intro speed' set
    rw [outSpeed]
    exact recorded.outSpeed speed' set

theorem Recorded.setOut {speeds : SetSpeeds} {settings' : StructTermios}
    (recorded : Recorded p speeds settings) (constant : p.B speed = some value)
    (inSpeed : p.cfgetispeed settings' = p.cfgetispeed settings)
    (outSpeed : p.cfgetospeed settings' = value) :
    Recorded p (DirectionCall.record speeds (.setOutSpeed speed)) settings' := by
  constructor
  · intro speed' set
    rw [inSpeed]
    exact recorded.inSpeed speed' set
  · intro speed' set
    cases set
    rw [constant, outSpeed]

end Calls

theorem followed_iff {p : Platform} (separate : p.SeparateSpeeds) {driver : Driver}
    (stores : StoresSpeeds p driver) {n : TermiosSocket} (calls : List DirectionCall)
    (defined : ∀ call ∈ calls, p.B call.speed ≠ none) {speeds : SetSpeeds} {s : Descriptors}
    {settings : StructTermios} (opened : s n.fd = some settings)
    (recorded : Recorded p speeds settings) :
    Followed p driver n calls speeds s ↔
      OutSpeedsFollowIn p (some (p.cfgetispeed settings)) calls := by
  induction calls generalizing speeds s settings with
  | nil => exact Iff.rfl
  | cons call calls ih =>
      have defined' := fun call member => defined call (List.mem_cons_of_mem _ member)
      obtain ⟨value, constant⟩ := Option.ne_none_iff_exists'.mp (defined call List.mem_cons_self)
      cases call with
      | setInSpeed speed =>
          change p.B speed = some value at constant
          obtain ⟨settings', returned, inSpeed, outSpeed⟩ :=
            setInSpeed_opened (n := n) separate stores opened constant
          have there : Function.update s n.fd (some settings') n.fd = some settings' :=
            Function.update_self _ _ _
          have recorded' := recorded.setIn constant inSpeed outSpeed
          have rest := ih defined' there recorded'
          rw [inSpeed, ← constant] at rest
          constructor
          · rintro ⟨s', returned', -, after⟩
            change n.setInSpeed p driver speed s = _ at returned'
            rw [returned] at returned'
            cases returned'
            exact rest.mp after
          · intro follow
            exact ⟨_, returned, recorded'.reports separate.distinct there, rest.mpr follow⟩
      | setOutSpeed speed =>
          change p.B speed = some value at constant
          obtain ⟨settings', inSpeed, outSpeed, returns, throws⟩ :=
            setOutSpeed_opened (n := n) separate stores opened constant
          have there : Function.update s n.fd (some settings') n.fd = some settings' :=
            Function.update_self _ _ _
          have recorded' := recorded.setOut constant inSpeed outSpeed
          have rest := ih defined' there recorded'
          rw [inSpeed] at rest
          constructor
          · rintro ⟨s', returned', -, after⟩
            change n.setOutSpeed p driver speed s = _ at returned'
            by_cases same : p.cfgetispeed settings = value
            · rw [returns same] at returned'
              cases returned'
              exact ⟨by rw [constant, same], rest.mp after⟩
            · obtain ⟨m, thrown⟩ := throws same
              rw [thrown] at returned'
              cases returned'
          · rintro ⟨meets, follow⟩
            rw [constant] at meets
            have same : p.cfgetispeed settings = value := (Option.some.inj meets).symm
            exact ⟨_, returns same, recorded'.reports separate.distinct there, rest.mpr follow⟩

/-- A sequence of calls goes through just if every output speed is set to the input speed
of the moment. -/
theorem setSpeeds_iff (p : Platform) (separate : p.SeparateSpeeds) (driver : Driver)
    (stores : StoresSpeeds p driver) (n : TermiosSocket) (calls : List DirectionCall)
    (defined : ∀ call ∈ calls, p.B call.speed ≠ none) (s : Descriptors) (settings : StructTermios)
    (opened : s n.fd = some settings) :
    Followed p driver n calls {} s ↔ OutSpeedsFollowIn p (some (p.cfgetispeed settings)) calls := by
  refine followed_iff separate stores calls defined opened
    ⟨fun speed none => ?_, fun speed none => ?_⟩
  · cases none
  · cases none

def ttyu0 : TermiosSocket := ⟨"/dev/ttyu0", 3, .EAGAIN, Errno.getErrnoSymbol⟩

theorem exact_storesSpeeds : StoresSpeeds freeBSD (fun _ given => (given, none)) :=
  fun _ _ => ⟨rfl, rfl, rfl⟩

theorem setSpeeds_iff_both :
    Followed freeBSD (fun _ given => (given, none)) ttyu0
      [.setInSpeed ._19200_BPS, .setOutSpeed ._19200_BPS] {} at9600 := by
  refine (setSpeeds_iff freeBSD freeBSD_separateSpeeds _ exact_storesSpeeds _ _ ?_ _ _ rfl).mpr
    ⟨rfl, trivial⟩
  decide

/-- The output speed is stored, and its setter complains of the input speed. -/
theorem setOutSpeed_complains :
    ¬ Followed freeBSD (fun _ given => (given, none)) ttyu0
      [.setOutSpeed ._19200_BPS] {} at9600 := by
  rintro ⟨s', returned, -⟩
  have opened : at9600 ttyu0.fd = some _ := rfl
  have constant : freeBSD.B ._19200_BPS = some _ := rfl
  obtain ⟨settings', -, -, -, throws⟩ :=
    setOutSpeed_opened freeBSD_separateSpeeds exact_storesSpeeds opened constant
  obtain ⟨m, thrown⟩ := throws (by decide)
  change ttyu0.setOutSpeed freeBSD _ ._19200_BPS at9600 = _ at returned
  rw [thrown] at returned
  cases returned

end Spsw.Jni

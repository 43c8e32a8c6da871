import Spsw.Interaction.Stateful
import Spsw.Jnhw.PosixConfiguration

/-!
# What `setParams` alters

Each step of `alter` changes the flags of its own parameter and no others, so a
parameter that was not requested reads back as before. A request is refused on the
structure alone, before `tcsetattr`.
-/
namespace Spsw.Jnhw
open Flags Stateful

namespace Platform
variable (p : Platform)

/-- The flags of `c_cflag` that `setParams` may change. -/
def cflags : BitVec 32 :=
  p.CSIZE ||| p.CSTOPB ||| p.PARENB ||| p.PARODD ||| p.CRTSCTS ||| p.CMSPAR_OR_PAREXT

/-- The flags of `c_iflag` that `setParams` may change. -/
def iflags : BitVec 32 := p.INPCK ||| p.IXON ||| p.IXOFF

def Distinct : Prop :=
  ∀ speed speed' value, p.B speed = some value → p.B speed' = some value → speed = speed'

/-- The constants of a platform are what they are meant to be. -/
structure Lawful : Prop where
  apart : [p.CSIZE, p.CSTOPB, p.PARENB, p.PARODD, p.CRTSCTS, p.CMSPAR_OR_PAREXT].Pairwise Apart
  inputApart : [p.INPCK, p.IXON, p.IXOFF].Pairwise Apart
  some : ∀ m ∈ [p.CSIZE, p.CSTOPB, p.PARENB, p.PARODD, p.CRTSCTS], m ≠ 0#32
  inputSome : ∀ m ∈ [p.INPCK, p.IXON, p.IXOFF], m ≠ 0#32
  marks : ∀ m, p.CMSPAR = .some m ∨ p.PAREXT = .some m → m ≠ 0#32
  within : ∀ dataBits, Within (p.CS dataBits) p.CSIZE
  distinct : ∀ dataBits dataBits', p.CS dataBits = p.CS dataBits' → dataBits = dataBits'
  speeds : p.Distinct

/-- The functions on speeds are documented to set and read both speeds, apart from the
flags that `setParams` handles. -/
structure Documented : Prop where
  cfsetspeed : ∀ termios speed value, p.B speed = .some value →
    ∃ termios', p.cfsetspeed termios value = .ok termios' ∧ p.cfgetispeed termios' = value ∧
      p.cfgetospeed termios' = value ∧ Agree p.cflags termios'.c_cflag termios.c_cflag ∧
      Agree p.iflags termios'.c_iflag termios.c_iflag
  cfget : ∀ termios c_cflag c_iflag, Agree (~~~p.cflags) c_cflag termios.c_cflag →
    Agree (~~~p.iflags) c_iflag termios.c_iflag →
    p.cfgetispeed { termios with c_cflag := c_cflag, c_iflag := c_iflag } = p.cfgetispeed termios ∧
      p.cfgetospeed { termios with c_cflag := c_cflag, c_iflag := c_iflag } = p.cfgetospeed termios

/-- The data bits are 5 once the request is met. -/
def FiveDataBits (r : Params) (termios : StructTermios) : Prop :=
  match r.dataBits with
  | some dataBits => dataBits = .DB_5
  | none => termios.c_cflag &&& p.CSIZE = p.CS5

/-- The requests `setParams` refuses by itself. -/
inductive Refused (r : Params) (termios : StructTermios) : Prop
  | undefinedSpeed (speed : Speed) (requested : r.speed = some speed) (undefined : p.B speed = none)
  | notFive (requested : r.stopBits = some .SB_1_5) (other : ¬ p.FiveDataBits r termios)
  | five (requested : r.stopBits = some .SB_2) (five : p.FiveDataBits r termios)
  | oneSided (flowControls : Finset FlowControl) (requested : r.flowControls = some flowControls)
      (oneSided : ¬ (.RTS_CTS_IN ∈ flowControls ↔ .RTS_CTS_OUT ∈ flowControls))

end Platform

/-- The message of a method whose descriptor is that of no open device. -/
def PosixConfiguration.closedMessage (c : PosixConfiguration) : String :=
  if c.fd = INVALID_FD then PORT_IS_CLOSED else PORT_FD_INVALID

section Reading
variable {p : Platform} {c : PosixConfiguration} {s s' : Descriptors} {termios : StructTermios}

theorem keeps_outcome {α : Type} (x : Except JavaException α) : Keeps (outcome x) := by
  cases x with
  | ok a => exact keeps_pure a
  | error e => exact keeps_throw e

theorem outcome_ok {α : Type} {x : Except JavaException α} {a : α}
    (returned : outcome x s = .ok a s') :
    x = .ok a := by
  cases x with
  | ok b =>
      cases returned
      rfl
  | error e => cases returned

theorem keeps_formatMsg (nee : Errno) (text : String) : Keeps (c.formatMsg nee text) := by
  unfold PosixConfiguration.formatMsg PosixConfiguration.isFdValid
  split
  · exact keeps_pure _
  · apply keeps_bind (keeps_bind keeps_get fun _ => keeps_pure _)
    intro valid
    split
    · exact keeps_pure _
    · exact keeps_pure _

theorem throws_formatMsg (P : JavaException → Prop) (nee : Errno) (text : String) :
    Throws P (c.formatMsg nee text) := by
  unfold PosixConfiguration.formatMsg PosixConfiguration.isFdValid
  split
  · exact throws_pure _
  · refine throws_bind (throws_bind throws_get fun _ => throws_pure _) fun valid => ?_
    cases valid with
    | true => exact throws_pure _
    | false => exact throws_pure _

theorem keeps_getTermios : Keeps c.getTermios := by
  have keeps : Keeps (tcgetattr c.fd) := by
    apply keeps_bind keeps_get
    intro descriptors
    cases descriptors c.fd with
    | some termios => exact keeps_pure _
    | none => exact keeps_pure _
  apply keeps_bind keeps
  intro result
  cases result with
  | ok termios => exact keeps_pure _
  | error nee => exact keeps_bind (keeps_formatMsg _ _) fun _ => keeps_throw _

theorem getTermios_opened (opened : s c.fd = some termios) : c.getTermios s = .ok termios s :=
  bind_of_ok (tcgetattr_opened opened)

theorem formatMsg_closed (closed : s c.fd = none) (nee : Errno) (text : String) :
    c.formatMsg nee text s = .ok c.closedMessage s := by
  unfold PosixConfiguration.formatMsg PosixConfiguration.closedMessage
  split
  · rfl
  · have invalid : c.isFdValid s = .ok false s := by
      apply get_bind.trans
      rw [closed]
      rfl
    exact bind_of_ok invalid

theorem getTermios_closed (closed : s c.fd = none) :
    c.getTermios s = .error (.ioException c.closedMessage) s :=
  (bind_of_ok (tcgetattr_closed closed)).trans (bind_of_ok (formatMsg_closed closed _ _))

theorem getTermios_ok (returned : c.getTermios s = .ok termios s') :
    s c.fd = some termios ∧ s' = s := by
  refine ⟨?_, keeps_getTermios.of_ok returned⟩
  cases found : s c.fd with
  | some current =>
      rw [getTermios_opened found] at returned
      cases returned
      rfl
  | none =>
      obtain ⟨result, s₁, first, rest⟩ := bind_ok returned
      rw [tcgetattr_closed found] at first
      cases first
      obtain ⟨message, s₂, -, thrown⟩ := bind_ok rest
      cases thrown

end Reading

/-- The settings differ at most in the flags `M` of `c_cflag` and `I` of `c_iflag`. -/
structure Alters (M I : BitVec 32) (termios termios' : StructTermios) : Prop where
  c_cflag : Agree (~~~M) termios'.c_cflag termios.c_cflag
  c_iflag : Agree (~~~I) termios'.c_iflag termios.c_iflag
  rest : termios' = { termios with c_cflag := termios'.c_cflag, c_iflag := termios'.c_iflag }

section Steps
variable {p : Platform} {M I m : BitVec 32} {termios termios' termios'' : StructTermios}

theorem Alters.cflag (alters : Alters M I termios termios') (apart : Apart m M) :
    Agree m termios'.c_cflag termios.c_cflag :=
  alters.c_cflag.within apart.within_not

theorem Alters.iflag (alters : Alters M I termios termios') (apart : Apart m I) :
    Agree m termios'.c_iflag termios.c_iflag :=
  alters.c_iflag.within apart.within_not

theorem alters_refl (M I : BitVec 32) (termios : StructTermios) : Alters M I termios termios :=
  ⟨agree_refl _ _, agree_refl _ _, rfl⟩

theorem Alters.trans (first : Alters M I termios termios')
    (second : Alters M I termios' termios'') :
    Alters M I termios termios'' := by
  refine ⟨second.c_cflag.trans first.c_cflag, second.c_iflag.trans first.c_iflag, ?_⟩
  rw [second.rest, first.rest]

theorem Alters.mono {M' I' : BitVec 32} (alters : Alters M I termios termios')
    (withinM : Within M M') (withinI : Within I I') : Alters M' I' termios termios' :=
  ⟨alters.cflag withinM.apart_not, alters.iflag withinI.apart_not, alters.rest⟩

theorem alters_dataBits (lawful : p.Lawful) (termios : StructTermios) (dataBits : Option DataBits) :
    Alters p.CSIZE 0#32 termios (p.setDataBits termios dataBits) := by
  cases dataBits with
  | none => exact alters_refl _ _ _
  | some dataBits =>
      have field := lawful.within dataBits
      exact ⟨(agree_set field.apart_not _).trans (agree_clear (within_refl _).apart_not _),
        agree_refl _ _, rfl⟩

theorem alters_stopBits {stopBits : Option StopBits}
    (accepted : p.setStopBits termios stopBits = .ok termios') :
    Alters p.CSTOPB 0#32 termios termios' := by
  have whole := (within_refl p.CSTOPB).apart_not
  cases stopBits with
  | none =>
      cases accepted
      exact alters_refl _ _ _
  | some stopBits =>
      cases stopBits with
      | SB_1 =>
          cases accepted
          exact ⟨agree_clear whole _, agree_refl _ _, rfl⟩
      | SB_1_5 =>
          simp only [Platform.setStopBits] at accepted
          split at accepted
          · cases accepted
            exact ⟨agree_set whole _, agree_refl _ _, rfl⟩
          · cases accepted
      | SB_2 =>
          simp only [Platform.setStopBits] at accepted
          split at accepted
          · cases accepted
          · cases accepted
            exact ⟨agree_set whole _, agree_refl _ _, rfl⟩

theorem alters_parity (termios : StructTermios) (parity : Option Parity) :
    Alters (p.PARENB ||| p.PARODD ||| p.CMSPAR_OR_PAREXT) p.INPCK termios
      (p.setParity termios parity) := by
  have enable : Within p.PARENB (p.PARENB ||| p.PARODD ||| p.CMSPAR_OR_PAREXT) :=
    (within_left _ _).trans (within_left _ _)
  have odd : Within p.PARODD (p.PARENB ||| p.PARODD ||| p.CMSPAR_OR_PAREXT) :=
    (within_right _ _).trans (within_left _ _)
  have marks : Within p.CMSPAR_OR_PAREXT (p.PARENB ||| p.PARODD ||| p.CMSPAR_OR_PAREXT) :=
    within_right _ _
  have cleared := agree_clear (within_refl (p.PARENB ||| p.PARODD ||| p.CMSPAR_OR_PAREXT)).apart_not
    termios.c_cflag
  have input := (within_refl p.INPCK).apart_not
  cases parity with
  | none => exact alters_refl _ _ _
  | some parity =>
      cases parity with
      | NONE => exact ⟨cleared, agree_clear input _, rfl⟩
      | ODD =>
          exact ⟨(agree_set odd.apart_not _).trans ((agree_set enable.apart_not _).trans cleared),
            agree_set input _, rfl⟩
      | EVEN => exact ⟨(agree_set enable.apart_not _).trans cleared, agree_set input _, rfl⟩
      | MARK =>
          exact ⟨(agree_set marks.apart_not _).trans ((agree_set odd.apart_not _).trans
            ((agree_set enable.apart_not _).trans cleared)), agree_set input _, rfl⟩
      | SPACE =>
          exact ⟨(agree_set marks.apart_not _).trans ((agree_set enable.apart_not _).trans cleared),
            agree_set input _, rfl⟩

/-- The structure after an accepted set of flow controls. -/
def flowControlled (p : Platform) (termios : StructTermios) (flowControls : Finset FlowControl) :
    StructTermios :=
  let c_cflag := termios.c_cflag &&& ~~~p.CRTSCTS
  let c_iflag := termios.c_iflag &&& ~~~(p.IXON ||| p.IXOFF)
  let c_iflag := if .XON_XOFF_IN ∈ flowControls then c_iflag ||| p.IXOFF else c_iflag
  { termios with
    c_cflag := if .RTS_CTS_IN ∈ flowControls then c_cflag ||| p.CRTSCTS else c_cflag
    c_iflag := if .XON_XOFF_OUT ∈ flowControls then c_iflag ||| p.IXON else c_iflag }

theorem setFlowControl_twoSided {flowControls : Finset FlowControl}
    (twoSided : .RTS_CTS_IN ∈ flowControls ↔ .RTS_CTS_OUT ∈ flowControls) :
    p.setFlowControl termios (some flowControls) = .ok (flowControlled p termios flowControls) := by
  by_cases both : .RTS_CTS_IN ∈ flowControls
  · simp only [Platform.setFlowControl, flowControlled, if_pos both, if_pos (twoSided.mp both)]
    rfl
  · simp only [Platform.setFlowControl, flowControlled, if_neg both, if_neg (mt twoSided.mpr both)]
    rfl

theorem setFlowControl_oneSided (p : Platform) (termios : StructTermios)
    {flowControls : Finset FlowControl}
    (oneSided : ¬ (.RTS_CTS_IN ∈ flowControls ↔ .RTS_CTS_OUT ∈ flowControls)) :
    p.setFlowControl termios (some flowControls) =
      .error (.illegalArgumentException "Can only set RTS/CTS for both in and out") := by
  by_cases sideIn : .RTS_CTS_IN ∈ flowControls
  · have sideOut : .RTS_CTS_OUT ∉ flowControls :=
      fun sideOut => oneSided (iff_of_true sideIn sideOut)
    simp only [Platform.setFlowControl, if_pos sideIn, if_neg sideOut]
    rfl
  · have sideOut : .RTS_CTS_OUT ∈ flowControls := by
      by_contra sideOut
      exact oneSided (iff_of_false sideIn sideOut)
    simp only [Platform.setFlowControl, if_neg sideIn, if_pos sideOut]
    rfl

theorem alters_flowControlled (termios : StructTermios) (flowControls : Finset FlowControl) :
    Alters p.CRTSCTS (p.IXON ||| p.IXOFF) termios (flowControlled p termios flowControls) := by
  have hardware := (within_refl p.CRTSCTS).apart_not
  have software := (within_refl (p.IXON ||| p.IXOFF)).apart_not
  have on := (within_left p.IXON p.IXOFF).apart_not
  have off := (within_right p.IXON p.IXOFF).apart_not
  refine ⟨?_, ?_, rfl⟩
  · simp only [flowControlled]
    split
    · exact (agree_set hardware _).trans (agree_clear hardware _)
    · exact agree_clear hardware _
  · simp only [flowControlled]
    split
    · apply (agree_set on _).trans
      split
      · exact (agree_set off _).trans (agree_clear software _)
      · exact agree_clear software _
    · split
      · exact (agree_set off _).trans (agree_clear software _)
      · exact agree_clear software _

theorem alters_flowControl {flowControls : Option (Finset FlowControl)}
    (accepted : p.setFlowControl termios flowControls = .ok termios') :
    Alters p.CRTSCTS (p.IXON ||| p.IXOFF) termios termios' := by
  cases flowControls with
  | none =>
      cases accepted
      exact alters_refl _ _ _
  | some flowControls =>
      by_cases twoSided : .RTS_CTS_IN ∈ flowControls ↔ .RTS_CTS_OUT ∈ flowControls
      · rw [setFlowControl_twoSided twoSided] at accepted
        cases accepted
        exact alters_flowControlled _ _
      · rw [setFlowControl_oneSided p termios twoSided] at accepted
        cases accepted

/-- The flags of each parameter are apart from those of the others. -/
structure FieldsApart (p : Platform) : Prop where
  sizeStop : Apart p.CSIZE p.CSTOPB
  sizeParity : Apart p.CSIZE (p.PARENB ||| p.PARODD ||| p.CMSPAR_OR_PAREXT)
  sizeFlow : Apart p.CSIZE p.CRTSCTS
  stopParity : Apart p.CSTOPB (p.PARENB ||| p.PARODD ||| p.CMSPAR_OR_PAREXT)
  stopFlow : Apart p.CSTOPB p.CRTSCTS
  flowParity : Apart p.CRTSCTS (p.PARENB ||| p.PARODD ||| p.CMSPAR_OR_PAREXT)
  inputFlow : Apart (p.IXON ||| p.IXOFF) p.INPCK

theorem Platform.Lawful.fieldsApart (lawful : p.Lawful) : FieldsApart p := by
  have apart := lawful.apart
  have inputApart := lawful.inputApart
  simp only [List.pairwise_cons, List.mem_cons, List.not_mem_nil, or_false, forall_eq_or_imp,
    forall_eq] at apart inputApart
  obtain ⟨⟨sizeStop, sizeEnable, sizeOdd, sizeFlow, sizeMarks⟩,
    ⟨stopEnable, stopOdd, stopFlow, stopMarks⟩, ⟨-, enableFlow, -⟩, ⟨oddFlow, -⟩, flowMarks, -⟩ :=
      apart
  obtain ⟨⟨inputOn, inputOff⟩, -⟩ := inputApart
  exact ⟨sizeStop, (sizeEnable.or sizeOdd).or sizeMarks, sizeFlow,
    (stopEnable.or stopOdd).or stopMarks, stopFlow, (enableFlow.symm.or oddFlow.symm).or flowMarks,
    (inputOn.or inputOff).symm⟩

/-- The parameters of a request keep to the flags that `setParams` may change. -/
structure FieldsWithin (p : Platform) : Prop where
  size : Within p.CSIZE p.cflags
  stop : Within p.CSTOPB p.cflags
  parity : Within (p.PARENB ||| p.PARODD ||| p.CMSPAR_OR_PAREXT) p.cflags
  flow : Within p.CRTSCTS p.cflags
  input : Within p.INPCK p.iflags
  inputFlow : Within (p.IXON ||| p.IXOFF) p.iflags

theorem fieldsWithin (p : Platform) : FieldsWithin p := by
  have marks : Within p.CMSPAR_OR_PAREXT p.cflags := within_right _ _
  have flow : Within p.CRTSCTS p.cflags := (within_right _ _).trans (within_left _ _)
  have odd : Within p.PARODD p.cflags :=
    ((within_right _ _).trans (within_left _ _)).trans (within_left _ _)
  have first : Within (p.CSIZE ||| p.CSTOPB ||| p.PARENB) p.cflags :=
    ((within_left _ _).trans (within_left _ _)).trans (within_left _ _)
  have enable : Within p.PARENB p.cflags := (within_right _ _).trans first
  have stop : Within p.CSTOPB p.cflags := ((within_right _ _).trans (within_left _ _)).trans first
  have size : Within p.CSIZE p.cflags := ((within_left _ _).trans (within_left _ _)).trans first
  have off : Within p.IXOFF p.iflags := within_right _ _
  have on : Within p.IXON p.iflags := (within_right _ _).trans (within_left _ _)
  have input : Within p.INPCK p.iflags := (within_left _ _).trans (within_left _ _)
  exact ⟨size, stop, (enable.or odd).or marks, flow, input, on.or off⟩

end Steps

/-! What the getters read back after a step. -/
section ReadBack
variable {p : Platform} {termios termios' : StructTermios}

/-- The data bits of a field. -/
def dataBitsOf (p : Platform) (field : BitVec 32) : Option DataBits :=
  if field = p.CS5 then some .DB_5
  else if field = p.CS6 then some .DB_6
  else if field = p.CS7 then some .DB_7
  else if field = p.CS8 then some .DB_8
  else none

theorem getDatatBits_toOption (p : Platform) (termios : StructTermios) :
    (p.getDatatBits termios).toOption = dataBitsOf p (termios.c_cflag &&& p.CSIZE) := by
  simp only [Platform.getDatatBits, dataBitsOf]
  repeat' split
  all_goals simp only [Except.toOption]

theorem getDatatBits_congr (agree : Agree p.CSIZE termios'.c_cflag termios.c_cflag) :
    (p.getDatatBits termios').toOption = (p.getDatatBits termios).toOption := by
  rw [getDatatBits_toOption, getDatatBits_toOption, agree]

theorem getDatatBits_ok {dataBits : DataBits} (lawful : p.Lawful)
    (field : termios.c_cflag &&& p.CSIZE = p.CS dataBits) :
    p.getDatatBits termios = .ok dataBits := by
  have other : ∀ dataBits', p.CS dataBits = p.CS dataBits' ↔ dataBits = dataBits' :=
    fun dataBits' => ⟨lawful.distinct _ _, congrArg _⟩
  have other5 := other .DB_5
  have other6 := other .DB_6
  have other7 := other .DB_7
  have other8 := other .DB_8
  simp only [Platform.CS] at other5 other6 other7 other8 field
  cases dataBits with
  | DB_5 => simp [Platform.getDatatBits, field]
  | DB_6 => simp_all [Platform.getDatatBits]
  | DB_7 => simp_all [Platform.getDatatBits]
  | DB_8 => simp_all [Platform.getDatatBits]

theorem getStopBits_ok {stopBits : StopBits} (lawful : p.Lawful)
    (accepted : p.setStopBits termios (some stopBits) = .ok termios') :
    p.getStopBits termios' = .ok stopBits := by
  have size : Agree p.CSIZE termios'.c_cflag termios.c_cflag :=
    (alters_stopBits accepted).cflag (by have apart := lawful.apart; simp at apart; exact apart.1.1)
  have nonzero : p.CSTOPB ≠ 0#32 := lawful.some _ (by simp)
  cases stopBits with
  | SB_1 =>
      cases accepted
      simp [Platform.getStopBits, clear_under (within_refl _)]
  | SB_1_5 =>
      simp only [Platform.setStopBits] at accepted
      split at accepted
      · next five =>
          rw [← show _ &&& p.CSIZE = _ from size] at five
          cases accepted
          simp only [Platform.getStopBits, set_under, if_neg nonzero, if_pos five, ↓reduceIte]
      · cases accepted
  | SB_2 =>
      simp only [Platform.setStopBits] at accepted
      split at accepted
      · cases accepted
      · next other =>
          rw [← show _ &&& p.CSIZE = _ from size] at other
          cases accepted
          simp only [Platform.getStopBits, set_under, if_neg nonzero, if_neg other, ↓reduceIte]

theorem getStopBits_congr (size : Agree p.CSIZE termios'.c_cflag termios.c_cflag)
    (stop : Agree p.CSTOPB termios'.c_cflag termios.c_cflag) :
    p.getStopBits termios' = p.getStopBits termios := by
  simp only [Platform.getStopBits, show _ &&& p.CSIZE = _ from size,
    show _ &&& p.CSTOPB = _ from stop]

theorem getParity_congr
    (agree : Agree (p.PARENB ||| p.PARODD |||
    p.CMSPAR_OR_PAREXT) termios'.c_cflag termios.c_cflag) :
    p.getParity termios' = p.getParity termios := by
  have enable : _ &&& p.PARENB = _ := agree.within ((within_left _ _).trans (within_left _ _))
  have odd : _ &&& p.PARODD = _ := agree.within ((within_right _ _).trans (within_left _ _))
  have marks : _ &&& p.CMSPAR_OR_PAREXT = _ := agree.within (within_right _ _)
  simp only [Platform.getParity, enable, odd, marks]

/-- `MARK` and `SPACE` need a flag of their own. -/
def Platform.Provides (p : Platform) (parity : Parity) : Prop :=
  parity = .MARK ∨ parity = .SPACE → p.CMSPAR.isSome = true ∨ p.PAREXT.isSome = true

theorem marks_nonzero (lawful : p.Lawful)
    (defined : p.CMSPAR.isSome = true ∨ p.PAREXT.isSome = true) :
    p.CMSPAR_OR_PAREXT ≠ 0#32 := by
  unfold Platform.CMSPAR_OR_PAREXT
  cases cmspar : p.CMSPAR with
  | some value => exact lawful.marks _ (.inl cmspar)
  | none =>
      cases parext : p.PAREXT with
      | some value => exact lawful.marks _ (.inr parext)
      | none => simp [cmspar, parext] at defined

theorem getParity_set {parity : Parity} (lawful : p.Lawful) (provides : p.Provides parity) :
    p.getParity (p.setParity termios (some parity)) = parity := by
  have apart := lawful.apart
  simp only [List.pairwise_cons, List.mem_cons, List.not_mem_nil, or_false, forall_eq_or_imp,
    forall_eq] at apart
  obtain ⟨-, -, ⟨enableOdd, -, enableMarks⟩, ⟨-, oddMarks⟩, -⟩ := apart
  have enable : p.PARENB ≠ 0#32 := lawful.some _ (by simp)
  have odd : p.PARODD ≠ 0#32 := lawful.some _ (by simp)
  have noEnable :=
    clear_under ((within_left _ _).trans
    (within_left (p.PARENB ||| p.PARODD) p.CMSPAR_OR_PAREXT)) termios.c_cflag
  have noOdd :=
    clear_under ((within_right _ _).trans
    (within_left (p.PARENB ||| p.PARODD) p.CMSPAR_OR_PAREXT)) termios.c_cflag
  have noMarks :=
    clear_under (within_right (p.PARENB ||| p.PARODD) p.CMSPAR_OR_PAREXT) termios.c_cflag
  have under : ∀ a b m : BitVec 32, (a ||| b) &&& m = (a &&& m) ||| (b &&& m) := fun _ _ _ =>
    BitVec.and_or_distrib_right
  have oddEnable : p.PARODD &&& p.PARENB = 0#32 := enableOdd.symm
  have marksEnable : p.CMSPAR_OR_PAREXT &&& p.PARENB = 0#32 := enableMarks.symm
  have marksOdd : p.CMSPAR_OR_PAREXT &&& p.PARODD = 0#32 := oddMarks.symm
  have enableOdd : p.PARENB &&& p.PARODD = 0#32 := enableOdd
  have enableMarks : p.PARENB &&& p.CMSPAR_OR_PAREXT = 0#32 := enableMarks
  have oddMarks : p.PARODD &&& p.CMSPAR_OR_PAREXT = 0#32 := oddMarks
  cases parity with
  | NONE => simp only [Platform.setParity, Platform.getParity, noEnable, ↓reduceIte]
  | ODD =>
      simp only [Platform.setParity, Platform.getParity, under, noEnable, noOdd,
        noMarks, BitVec.and_self, oddEnable, enableOdd, enableMarks, oddMarks, BitVec.zero_or,
        BitVec.or_zero, if_neg enable, if_neg odd, ↓reduceIte]
  | EVEN =>
      simp only [Platform.setParity, Platform.getParity, under, noEnable, noOdd,
        noMarks, BitVec.and_self, enableOdd, enableMarks, BitVec.zero_or, if_neg enable, ↓reduceIte]
  | MARK =>
      have marks := marks_nonzero lawful (provides (.inl rfl))
      simp only [Platform.setParity, Platform.getParity, under, noEnable, noOdd,
        noMarks, BitVec.and_self, oddEnable, enableOdd, enableMarks, oddMarks, marksEnable,
        marksOdd, BitVec.zero_or, BitVec.or_zero, if_neg enable, if_neg odd, if_neg marks]
  | SPACE =>
      have marks := marks_nonzero lawful (provides (.inr rfl))
      simp only [Platform.setParity, Platform.getParity, under, noEnable, noOdd,
        noMarks, BitVec.and_self, enableOdd, enableMarks, marksEnable, marksOdd, BitVec.zero_or,
        BitVec.or_zero, if_neg enable, if_neg marks, ↓reduceIte]

theorem getFlowControl_congr (hardware : Agree p.CRTSCTS termios'.c_cflag termios.c_cflag)
    (software : Agree (p.IXON ||| p.IXOFF) termios'.c_iflag termios.c_iflag) :
    p.getFlowControl termios' = p.getFlowControl termios := by
  have on : _ &&& p.IXON = _ := software.within (within_left _ _)
  have off : _ &&& p.IXOFF = _ := software.within (within_right _ _)
  simp only [Platform.getFlowControl, show _ &&& p.CRTSCTS = _ from hardware, on, off]

theorem mem_given {x : FlowControl} {set : Finset FlowControl} {given : Prop} [Decidable given] :
    x ∈ (if given then set else ∅) ↔ given ∧ x ∈ set := by
  split
  · next holds => simp [holds]
  · next fails => simp [fails]

theorem getFlowControl_set {flowControls : Finset FlowControl} (lawful : p.Lawful)
    (twoSided : .RTS_CTS_IN ∈ flowControls ↔ .RTS_CTS_OUT ∈ flowControls) :
    p.getFlowControl (flowControlled p termios flowControls) = flowControls := by
  have inputApart := lawful.inputApart
  simp only [List.pairwise_cons, List.mem_cons, List.not_mem_nil, or_false, forall_eq_or_imp,
    forall_eq] at inputApart
  obtain ⟨-, onOff, -⟩ := inputApart
  have hardware : p.CRTSCTS ≠ 0#32 := lawful.some _ (by simp)
  have on : p.IXON ≠ 0#32 := lawful.inputSome _ (by simp)
  have off : p.IXOFF ≠ 0#32 := lawful.inputSome _ (by simp)
  have under : ∀ a b m : BitVec 32, (a ||| b) &&& m = (a &&& m) ||| (b &&& m) := fun _ _ _ =>
    BitVec.and_or_distrib_right
  have noHardware := clear_under (within_refl p.CRTSCTS) termios.c_cflag
  have noOn := clear_under (within_left p.IXON p.IXOFF) termios.c_iflag
  have noOff := clear_under (within_right p.IXON p.IXOFF) termios.c_iflag
  have offOn : p.IXOFF &&& p.IXON = 0#32 := Apart.symm onOff
  have onOff : p.IXON &&& p.IXOFF = 0#32 := onOff
  have readHardware : (flowControlled p termios flowControls).c_cflag &&& p.CRTSCTS = p.CRTSCTS ↔
      .RTS_CTS_IN ∈ flowControls := by
    by_cases side : .RTS_CTS_IN ∈ flowControls
    · simp only [flowControlled, side, ↓reduceIte, set_under]
    · simp only [flowControlled, side, ↓reduceIte, noHardware, iff_false]
      exact hardware.symm
  have readOff : (flowControlled p termios flowControls).c_iflag &&& p.IXOFF = p.IXOFF ↔
      .XON_XOFF_IN ∈ flowControls := by
    by_cases side : .XON_XOFF_IN ∈ flowControls
    · by_cases other : .XON_XOFF_OUT ∈ flowControls
      · simp only [flowControlled, side, other, ↓reduceIte, under, noOff, onOff, BitVec.and_self,
          BitVec.zero_or, BitVec.or_zero]
      · simp only [flowControlled, side, other, ↓reduceIte, set_under]
    · by_cases other : .XON_XOFF_OUT ∈ flowControls
      · simp only [flowControlled, side, other, ↓reduceIte, under, noOff, onOff,
          BitVec.or_self, iff_false]
        exact off.symm
      · simp only [flowControlled, side, other, ↓reduceIte, noOff, iff_false]
        exact off.symm
  have readOn : (flowControlled p termios flowControls).c_iflag &&& p.IXON = p.IXON ↔
      .XON_XOFF_OUT ∈ flowControls := by
    by_cases side : .XON_XOFF_OUT ∈ flowControls
    · simp only [flowControlled, side, ↓reduceIte, set_under]
    · by_cases other : .XON_XOFF_IN ∈ flowControls
      · simp only [flowControlled, side, other, ↓reduceIte, under, noOn, offOn,
          BitVec.or_self, iff_false]
        exact on.symm
      · simp only [flowControlled, side, other, ↓reduceIte, noOn, iff_false]
        exact on.symm
  ext x
  simp only [Platform.getFlowControl, Finset.mem_union, mem_given, readHardware, readOff, readOn]
  cases x with
  | RTS_CTS_IN => simp [FlowControl.getFC_RTS_CTS]
  | RTS_CTS_OUT => simp [FlowControl.getFC_RTS_CTS, twoSided]
  | XON_XOFF_IN => simp [FlowControl.getFC_RTS_CTS]
  | XON_XOFF_OUT => simp [FlowControl.getFC_RTS_CTS]

end ReadBack
end Spsw.Jnhw

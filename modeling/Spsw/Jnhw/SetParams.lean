import Spsw.Jnhw.Alterations

/-!
# The contract of `setParams`

Refused requests leave the device alone; a normal return means that every requested
parameter reads back; and with a driver that stores what it is given, every other
request succeeds and leaves the parameters it does not name as they were.
-/
namespace Spsw.Jnhw
open Flags Stateful

/-- Every requested parameter reads back. -/
structure ReadsBack (p : Platform) (r : Params) (termios : StructTermios) : Prop where
  speed : ∀ speed, r.speed = some speed → p.getSpeed termios = .ok speed
  dataBits : ∀ dataBits, r.dataBits = some dataBits → p.getDatatBits termios = .ok dataBits
  stopBits : ∀ stopBits, r.stopBits = some stopBits → p.getStopBits termios = .ok stopBits
  parity : ∀ parity, r.parity = some parity → p.getParity termios = parity
  flowControls : ∀ flowControls, r.flowControls = some flowControls →
    p.getFlowControl termios = flowControls

section Verify
variable {p : Platform} {r : Params} {termios : StructTermios}

theorem except_bind_ok {ε α β : Type} {x : Except ε α} {f : α → Except ε β} {b : β}
    (ok : (x >>= f) = .ok b) : ∃ a, x = .ok a ∧ f a = .ok b := by
  cases x with
  | ok a => exact ⟨a, rfl, ok⟩
  | error e => cases ok

theorem mismatch_nil {α : Type} [DecidableEq α] {what : String} {name : α → String}
    {requested : Option α} {reading : Except JavaException α} :
    Platform.mismatch what name requested reading = .ok [] ↔
      ∀ a, requested = some a → reading = .ok a := by
  cases requested with
  | none => simp [Platform.mismatch]
  | some a =>
      cases reading with
      | error e =>
          constructor
          · intro ok
            cases ok
          · intro reads
            cases reads a rfl
      | ok b =>
          by_cases same : b = a
          · simp only [same, Option.some.injEq, forall_eq', iff_true]
            change (if a = a then _ else _) = _
            rw [if_pos rfl]
            rfl
          · constructor
            · intro ok
              change (if b = a then _ else _) = _ at ok
              rw [if_neg same] at ok
              cases ok
            · intro reads
              cases reads a rfl
              exact absurd rfl same

theorem verify_iff : p.verify r termios = .ok () ↔ ReadsBack p r termios := by
  constructor
  · intro verified
    obtain ⟨parity, readParity, verified⟩ := except_bind_ok verified
    obtain ⟨speed, readSpeed, verified⟩ := except_bind_ok verified
    obtain ⟨stopBits, readStopBits, verified⟩ := except_bind_ok verified
    obtain ⟨dataBits, readDataBits, verified⟩ := except_bind_ok verified
    obtain ⟨flowControls, readFlowControls, verified⟩ := except_bind_ok verified
    have none : parity ++ speed ++ stopBits ++ dataBits ++ flowControls = [] := by
      by_contra complaints
      change (if parity ++ speed ++ stopBits ++ dataBits ++ flowControls = [] then _
        else _) = _ at verified
      rw [if_neg complaints] at verified
      cases verified
    simp only [List.append_eq_nil_iff] at none
    obtain ⟨⟨⟨⟨rfl, rfl⟩, rfl⟩, rfl⟩, rfl⟩ := none
    rw [mismatch_nil] at readParity readSpeed readStopBits readDataBits readFlowControls
    exact ⟨readSpeed, readDataBits, readStopBits,
      fun parity requested => Except.ok.inj (readParity parity requested),
      fun flowControls requested => Except.ok.inj (readFlowControls flowControls requested)⟩
  · intro reads
    have readParity : Platform.mismatch "parity" Parity.name r.parity
      (.ok (p.getParity termios)) = .ok [] :=
      mismatch_nil.mpr fun parity requested => congrArg Except.ok (reads.parity parity requested)
    have readFlowControls : Platform.mismatch "flowContrel" FlowControl.names r.flowControls
        (.ok (p.getFlowControl termios)) = .ok [] :=
      mismatch_nil.mpr fun flow requested => congrArg Except.ok (reads.flowControls flow requested)
    simp only [Platform.verify, readParity, readFlowControls, mismatch_nil.mpr reads.speed,
      mismatch_nil.mpr reads.stopBits, mismatch_nil.mpr reads.dataBits]
    rfl

end Verify

section Alter
variable {p : Platform} {c : PosixConfiguration} {r : Params} {s s' : Descriptors}
  {termios termios' : StructTermios}

theorem speed_t2speed_defined (distinct : p.Distinct) {speed : Speed} {value : ℤ}
    (defined : p.B speed = some value) : p.speed_t2speed value = .ok speed := by
  unfold Platform.speed_t2speed
  cases found : Speed.values.find? fun speed => p.B speed = some value with
  | none =>
      have every := List.find?_eq_none.mp found speed (Speed.mem_values speed)
      simp [defined] at every
  | some speed' =>
      have matching : p.B speed' = some value := by simpa using List.find?_some found
      rw [distinct speed' speed value matching defined]

theorem getSpeed_same (same : p.cfgetispeed termios = p.cfgetospeed termios) :
    p.getSpeed termios = p.getInSpeed termios :=
  if_neg (not_not.mpr same)

theorem getSpeed_ok {speed : Speed} (reads : p.getSpeed termios = .ok speed) :
    p.cfgetispeed termios = p.cfgetospeed termios := by
  by_contra differ
  rw [Platform.getSpeed, if_pos differ] at reads
  obtain ⟨inSpeed, -, reads⟩ := except_bind_ok reads
  obtain ⟨outSpeed, -, reads⟩ := except_bind_ok reads
  cases reads

theorem cfset_defined {call : StructTermios → ℤ → Except Errno StructTermios} {name : String}
    {speed : Speed} {value : ℤ} (defined : p.B speed = some value)
    (accepted : call termios value = .ok termios') :
    c.cfset p call name termios speed s = .ok termios' s := by
  have converted : outcome (p.speed2speed_t speed) s = .ok value s := by
    rw [Platform.speed2speed_t, defined]
    rfl
  apply (bind_of_ok converted).trans
  rw [accepted]
  rfl

theorem cfset_undefined {call : StructTermios → ℤ → Except Errno StructTermios} {name : String}
    {speed : Speed} (undefined : p.B speed = none) :
    ∃ e, c.cfset p call name termios speed s = .error e s := by
  have converted : outcome (p.speed2speed_t speed) s =
      .error (.illegalArgumentException ("No defined! posix.B" ++ toString speed.value)) s := by
    rw [Platform.speed2speed_t, undefined]
    rfl
  exact ⟨_, bind_of_error converted⟩

theorem setBothSpeeds_undefined (termios : StructTermios) {speed : Speed}
    (undefined : p.B speed = none) :
    ∃ e, c.setBothSpeeds p termios (some speed) s = .error e s :=
  cfset_undefined undefined

theorem keeps_cfset (call : StructTermios → ℤ → Except Errno StructTermios) (name : String)
    (termios : StructTermios) (speed : Speed) : Keeps (c.cfset p call name termios speed) := by
  apply keeps_bind (keeps_outcome _)
  intro value
  cases call termios value with
  | ok termios => exact keeps_pure _
  | error nee => exact keeps_bind (keeps_formatMsg _ _) fun _ => keeps_throw _

/-- What the first step of `alter` leaves for the others. -/
structure SpeedsSet (p : Platform) (requested : Option Speed) (termios termios' : StructTermios) :
    Prop where
  reads : ∀ speed, requested = some speed → p.getSpeed termios' = .ok speed
  kept : requested = none → termios' = termios
  c_cflag : Agree p.cflags termios'.c_cflag termios.c_cflag
  c_iflag : Agree p.iflags termios'.c_iflag termios.c_iflag

theorem setBothSpeeds_defined (lawful : p.Lawful) (documented : p.Documented)
    (termios : StructTermios) {speed : Option Speed}
    (defined : ∀ speed', speed = some speed' → p.B speed' ≠ none) :
    ∃ termios', c.setBothSpeeds p termios speed s = .ok termios' s ∧
      SpeedsSet p speed termios termios' := by
  cases speed with
  | none =>
      refine ⟨termios, rfl, fun speed same => ?_, fun _ => rfl, agree_refl _ _, agree_refl _ _⟩
      cases same
  | some speed =>
      obtain ⟨value, constant⟩ := Option.ne_none_iff_exists'.mp (defined speed rfl)
      obtain ⟨termios', accepted, inSpeed, outSpeed, cflag, iflag⟩ :=
        documented.cfsetspeed termios speed value constant
      refine ⟨termios', cfset_defined constant accepted, fun speed' same => ?_,
        fun same => ?_, cflag, iflag⟩
      · cases same
        rw [getSpeed_same (inSpeed.trans outSpeed.symm), Platform.getInSpeed, inSpeed]
        exact speed_t2speed_defined lawful.speeds constant
      · cases same

/-- What was not requested is as before. -/
structure Untouched (p : Platform) (r : Params) (termios termios' : StructTermios) : Prop where
  speed : r.speed = none → p.cfgetispeed termios' = p.cfgetispeed termios ∧
    p.cfgetospeed termios' = p.cfgetospeed termios
  dataBits : r.dataBits = none → Agree p.CSIZE termios'.c_cflag termios.c_cflag
  stopBits : r.stopBits = none → Agree p.CSTOPB termios'.c_cflag termios.c_cflag
  parity : r.parity = none → p.getParity termios' = p.getParity termios
  flowControls : r.flowControls = none → p.getFlowControl termios' = p.getFlowControl termios

theorem setStopBits_accepts {stopBits : Option StopBits}
    (five : stopBits = some .SB_1_5 → termios.c_cflag &&& p.CSIZE = p.CS5)
    (other : stopBits = some .SB_2 → termios.c_cflag &&& p.CSIZE ≠ p.CS5) :
    ∃ termios', p.setStopBits termios stopBits = .ok termios' := by
  cases stopBits with
  | none => exact ⟨_, rfl⟩
  | some stopBits =>
      cases stopBits with
      | SB_1 => exact ⟨_, rfl⟩
      | SB_1_5 => exact ⟨_, if_pos (five rfl)⟩
      | SB_2 => exact ⟨_, if_neg (other rfl)⟩

theorem setFlowControl_accepts {flowControls : Option (Finset FlowControl)}
    (twoSided : ∀ set, flowControls = some set → (.RTS_CTS_IN ∈ set ↔ .RTS_CTS_OUT ∈ set)) :
    ∃ termios', p.setFlowControl termios flowControls = .ok termios' := by
  cases flowControls with
  | none => exact ⟨_, rfl⟩
  | some set => exact ⟨_, setFlowControl_twoSided (twoSided set rfl)⟩

/-- Whether 5 data bits are set when the stop bits are checked. -/
theorem five_iff (lawful : p.Lawful) (size : Agree p.CSIZE termios'.c_cflag termios.c_cflag) :
    (p.setDataBits termios' r.dataBits).c_cflag &&& p.CSIZE = p.CS5 ↔ p.FiveDataBits r termios := by
  unfold Platform.FiveDataBits
  cases r.dataBits with
  | none => rw [← show _ &&& p.CSIZE = _ from size]; rfl
  | some dataBits =>
      simp only [Platform.setDataBits, put_under (lawful.within dataBits)]
      exact ⟨fun same => lawful.distinct dataBits .DB_5 same, fun same => by rw [same]; rfl⟩

/-- The steps of an `alter` that returns: `t₁` after the speeds, `t₃` after the stop bits. -/
structure Altered (p : Platform) (r : Params) (termios t₁ t₃ t₅ : StructTermios) : Prop where
  speeds : SpeedsSet p r.speed termios t₁
  stopBits : p.setStopBits (p.setDataBits t₁ r.dataBits) r.stopBits = .ok t₃
  flowControls : p.setFlowControl (p.setParity t₃ r.parity) r.flowControls = .ok t₅

section Steps
variable {t₁ t₃ t₅ : StructTermios}

/-- The steps after the first leave the speeds alone. -/
theorem Altered.speedsKept (altered : Altered p r termios t₁ t₃ t₅) (lawful : p.Lawful)
    (documented : p.Documented) :
    p.cfgetispeed t₅ = p.cfgetispeed t₁ ∧ p.cfgetospeed t₅ = p.cfgetospeed t₁ := by
  have within := fieldsWithin p
  have none : Within 0#32 p.iflags := BitVec.zero_and
  have alters₂ := (alters_dataBits lawful t₁ r.dataBits).mono within.size none
  have alters₃ := (alters_stopBits altered.stopBits).mono within.stop none
  have alters₄ := (alters_parity (p := p) t₃ r.parity).mono within.parity within.input
  have alters₅ := (alters_flowControl altered.flowControls).mono within.flow within.inputFlow
  have whole : Alters p.cflags p.iflags t₁ t₅ :=
    ((alters₂.trans alters₃).trans alters₄).trans alters₅
  rw [whole.rest]
  exact documented.cfget t₁ _ _ whole.c_cflag whole.c_iflag

theorem Altered.size (altered : Altered p r termios t₁ t₃ t₅) (lawful : p.Lawful) :
    Agree p.CSIZE t₅.c_cflag t₃.c_cflag ∧
      Agree p.CSIZE t₃.c_cflag (p.setDataBits t₁ r.dataBits).c_cflag := by
  have apart := lawful.fieldsApart
  have alters₄ := (alters_parity (p := p) t₃ r.parity).cflag apart.sizeParity
  have alters₅ := (alters_flowControl altered.flowControls).cflag apart.sizeFlow
  exact ⟨alters₅.trans alters₄, (alters_stopBits altered.stopBits).cflag apart.sizeStop⟩

theorem Altered.stop (altered : Altered p r termios t₁ t₃ t₅) (lawful : p.Lawful) :
    Agree p.CSTOPB t₅.c_cflag t₃.c_cflag := by
  have apart := lawful.fieldsApart
  have alters₄ := (alters_parity (p := p) t₃ r.parity).cflag apart.stopParity
  exact ((alters_flowControl altered.flowControls).cflag apart.stopFlow).trans alters₄

theorem Altered.parity (altered : Altered p r termios t₁ t₃ t₅) (lawful : p.Lawful) :
    p.getParity t₅ = p.getParity (p.setParity t₃ r.parity) :=
  getParity_congr
    ((alters_flowControl altered.flowControls).cflag lawful.fieldsApart.flowParity.symm)

theorem Altered.readsBack (altered : Altered p r termios t₁ t₃ t₅) (lawful : p.Lawful)
    (documented : p.Documented) (provides : ∀ parity, r.parity = some parity → p.Provides parity)
    (twoSided : ∀ set, r.flowControls = some set → (.RTS_CTS_IN ∈ set ↔ .RTS_CTS_OUT ∈ set)) :
    ReadsBack p r t₅ := by
  obtain ⟨size₅, size₃⟩ := altered.size lawful
  refine ⟨?_, ?_, ?_, ?_, ?_⟩
  · intro speed requested
    obtain ⟨inSpeed, outSpeed⟩ := altered.speedsKept lawful documented
    rw [← altered.speeds.reads speed requested]
    simp only [Platform.getSpeed, inSpeed, outSpeed]
  · intro dataBits requested
    rw [requested] at size₃
    exact getDatatBits_ok lawful
      (Eq.trans (size₅.trans size₃) (put_under (lawful.within dataBits) _))
  · intro stopBits requested
    have set₃ := altered.stopBits
    rw [requested] at set₃
    rw [getStopBits_congr size₅ (altered.stop lawful)]
    exact getStopBits_ok lawful set₃
  · intro parity requested
    rw [altered.parity lawful, requested]
    exact getParity_set lawful (provides parity requested)
  · intro flowControls requested
    have set₅ := altered.flowControls
    rw [requested, setFlowControl_twoSided (twoSided flowControls requested)] at set₅
    cases set₅
    exact getFlowControl_set lawful (twoSided flowControls requested)

theorem Altered.untouched (altered : Altered p r termios t₁ t₃ t₅) (lawful : p.Lawful)
    (documented : p.Documented) : Untouched p r termios t₅ := by
  have apart := lawful.fieldsApart
  have within := fieldsWithin p
  have alters₂ := alters_dataBits lawful t₁ r.dataBits
  have alters₃ := alters_stopBits altered.stopBits
  have alters₄ := alters_parity (p := p) t₃ r.parity
  obtain ⟨size₅, size₃⟩ := altered.size lawful
  refine ⟨?_, ?_, ?_, ?_, ?_⟩
  · intro unrequested
    have kept := altered.speedsKept lawful documented
    rw [altered.speeds.kept unrequested] at kept
    exact kept
  · intro unrequested
    rw [unrequested] at size₃
    exact (size₅.trans size₃).trans (altered.speeds.c_cflag.within within.size)
  · intro unrequested
    have set₃ := altered.stopBits
    rw [unrequested] at set₃
    cases set₃
    have stop₂ := alters₂.cflag apart.sizeStop.symm
    exact ((altered.stop lawful).trans stop₂).trans (altered.speeds.c_cflag.within within.stop)
  · intro unrequested
    rw [altered.parity lawful, unrequested]
    have parity₃ :=
      (alters₃.cflag apart.stopParity.symm).trans (alters₂.cflag apart.sizeParity.symm)
    exact getParity_congr (parity₃.trans (altered.speeds.c_cflag.within within.parity))
  · intro unrequested
    have set₅ := altered.flowControls
    rw [unrequested] at set₅
    cases set₅
    have flow₃ := (alters₃.cflag apart.stopFlow.symm).trans (alters₂.cflag apart.sizeFlow.symm)
    have input₃ : Agree (p.IXON ||| p.IXOFF) t₃.c_iflag t₁.c_iflag :=
      (alters₃.iflag (apart_zero _)).trans (alters₂.iflag (apart_zero _))
    have flow₄ := (alters₄.cflag apart.flowParity).trans flow₃
    have input₄ := (alters₄.iflag apart.inputFlow).trans input₃
    exact getFlowControl_congr (flow₄.trans (altered.speeds.c_cflag.within within.flow))
      (input₄.trans (altered.speeds.c_iflag.within within.inputFlow))

end Steps

/-- A request that is not refused is met on the structure, and nothing else is changed. -/
theorem alter_accepts (lawful : p.Lawful) (documented : p.Documented)
    (accepted : ¬ p.Refused r termios)
    (provides : ∀ parity, r.parity = some parity → p.Provides parity) :
    ∃ termios', c.alter p r termios s = .ok termios' s ∧ ReadsBack p r termios' ∧
      Untouched p r termios termios' := by
  have defined : ∀ speed, r.speed = some speed → p.B speed ≠ none :=
      fun speed requested undefined =>
    accepted (.undefinedSpeed speed requested undefined)
  have twoSided : ∀ set, r.flowControls = some set → (.RTS_CTS_IN ∈ set ↔ .RTS_CTS_OUT ∈ set) :=
    fun set requested => by_contra fun oneSided => accepted (.oneSided set requested oneSided)
  obtain ⟨t₁, set₁, speeds⟩ :=
    setBothSpeeds_defined (c := c) (s := s) lawful documented termios defined
  have size := five_iff (r := r) lawful (speeds.c_cflag.within (fieldsWithin p).size)
  have five : r.stopBits = some .SB_1_5 → _ := fun requested =>
    size.mpr (by_contra fun other => accepted (.notFive requested other))
  have other : r.stopBits = some .SB_2 → _ := fun requested five =>
    accepted (.five requested (size.mp five))
  obtain ⟨t₃, set₃⟩ := setStopBits_accepts five other
  obtain ⟨t₅, set₅⟩ : ∃ t₅, p.setFlowControl (p.setParity t₃ r.parity) r.flowControls = .ok t₅ :=
    setFlowControl_accepts twoSided
  have altered : Altered p r termios t₁ t₃ t₅ := ⟨speeds, set₃, set₅⟩
  refine ⟨t₅, ?_, altered.readsBack lawful documented provides twoSided,
    altered.untouched lawful documented⟩
  refine (bind_of_ok set₁).trans ?_
  rw [set₃]
  change outcome (p.setFlowControl (p.setParity t₃ r.parity) r.flowControls) s = _
  rw [set₅]
  rfl

/-- A refused request throws before anything is stored. -/
theorem alter_refuses (lawful : p.Lawful) (documented : p.Documented)
    (refused : p.Refused r termios) :
    ∃ e, c.alter p r termios s = .error e s := by
  by_cases undefined : ∃ speed, r.speed = some speed ∧ p.B speed = none
  · obtain ⟨speed, requested, undefined⟩ := undefined
    obtain ⟨e, first⟩ := setBothSpeeds_undefined (c := c) (s := s) termios undefined
    rw [← requested] at first
    exact ⟨e, bind_of_error first⟩
  · have defined : ∀ speed, r.speed = some speed → p.B speed ≠ none := fun speed requested none =>
      undefined ⟨speed, requested, none⟩
    obtain ⟨t₁, set₁, speeds⟩ :=
      setBothSpeeds_defined (c := c) (s := s) lawful documented termios defined
    have size := five_iff (r := r) lawful (speeds.c_cflag.within (fieldsWithin p).size)
    have rest : ∃ e, (do
        let termios ← outcome (p.setStopBits (p.setDataBits t₁ r.dataBits) r.stopBits)
        outcome (p.setFlowControl (p.setParity termios r.parity) r.flowControls)) s =
            .error e s := by
      cases refused with
      | undefinedSpeed speed requested none => exact absurd none (defined speed requested)
      | notFive requested other =>
          rw [requested]
          simp only [Platform.setStopBits, if_neg (mt size.mp other)]
          exact ⟨_, bind_of_error rfl⟩
      | five requested five =>
          rw [requested]
          simp only [Platform.setStopBits, if_pos (size.mpr five)]
          exact ⟨_, bind_of_error rfl⟩
      | oneSided flowControls requested oneSided =>
          cases p.setStopBits (p.setDataBits t₁ r.dataBits) r.stopBits with
          | error e => exact ⟨e, bind_of_error rfl⟩
          | ok t₃ =>
              have thrown : ∃ e, outcome
                  (p.setFlowControl (p.setParity t₃ r.parity) r.flowControls) s =
                  .error e s := by
                rw [requested, setFlowControl_oneSided p (p.setParity t₃ r.parity) oneSided]
                exact ⟨_, rfl⟩
              obtain ⟨e, thrown⟩ := thrown
              exact ⟨e, (bind_of_ok (show outcome (.ok t₃) s = .ok t₃ s from rfl)).trans thrown⟩
    obtain ⟨e, thrown⟩ := rest
    exact ⟨e, (bind_of_ok set₁).trans thrown⟩

theorem throws_setBothSpeeds (speed : Option Speed) :
    Throws JavaException.IsIllegalArgument (c.setBothSpeeds p termios speed) := by
  cases speed with
  | none => exact throws_pure _
  | some speed =>
      refine throws_bind ?_ fun speedValue => ?_
      · unfold Platform.speed2speed_t
        cases p.B speed with
        | none => exact throws_throw ⟨_, rfl⟩
        | some value => exact throws_pure _
      · cases p.cfsetspeed termios speedValue with
        | ok termios => exact throws_pure _
        | error nee => exact throws_bind (throws_formatMsg _ _ _) fun _ => throws_throw ⟨_, rfl⟩

theorem throws_setStopBits (stopBits : Option StopBits) :
    Throws JavaException.IsIllegalArgument (outcome (p.setStopBits termios stopBits)) := by
  rcases stopBits with _ | stopBits
  · exact throws_pure _
  · cases stopBits with
    | SB_1 => exact throws_pure _
    | SB_1_5 =>
        simp only [Platform.setStopBits]
        split
        · exact throws_pure _
        · exact throws_throw ⟨_, rfl⟩
    | SB_2 =>
        simp only [Platform.setStopBits]
        split
        · exact throws_throw ⟨_, rfl⟩
        · exact throws_pure _

theorem throws_setFlowControl (flowControls : Option (Finset FlowControl)) :
    Throws JavaException.IsIllegalArgument (outcome (p.setFlowControl termios flowControls)) := by
  cases flowControls with
  | none => exact throws_pure _
  | some set =>
      by_cases twoSided : .RTS_CTS_IN ∈ set ↔ .RTS_CTS_OUT ∈ set
      · rw [setFlowControl_twoSided twoSided]
        exact throws_pure _
      · rw [setFlowControl_oneSided p termios twoSided]
        exact throws_throw ⟨_, rfl⟩

/-- `alter` throws nothing else. -/
theorem throws_alter : Throws JavaException.IsIllegalArgument (c.alter p r termios) :=
  throws_bind (throws_setBothSpeeds _) fun _ =>
    throws_bind (throws_setStopBits _) fun _ => throws_setFlowControl _

end Alter

section Contract
variable {p : Platform} {driver : Driver} {c : PosixConfiguration} {r : Params} {s s' : Descriptors}
  {termios : StructTermios}

/-- After a normal return the device has settings that were verified. -/
theorem setParams_ok (returned : c.setParams p driver r s = .ok () s') :
    ∃ termios, s' c.fd = some termios ∧ ReadsBack p r termios := by
  obtain ⟨first, s₁, -, returned⟩ := bind_ok returned
  obtain ⟨altered, s₂, -, returned⟩ := bind_ok returned
  obtain ⟨result, s₃, -, returned⟩ := bind_ok returned
  cases result with
  | error nee => cases returned
  | ok =>
      obtain ⟨stored, s₄, read, verified⟩ := bind_ok returned
      obtain ⟨there, rfl⟩ := getTermios_ok read
      have same := (keeps_outcome _).of_ok verified
      subst same
      exact ⟨stored, there, verify_iff.mp (outcome_ok verified)⟩

theorem setParams_refused (lawful : p.Lawful) (documented : p.Documented) (driver : Driver)
    (opened : s c.fd = some termios) (refused : p.Refused r termios) :
    ∃ e, c.setParams p driver r s = .error e s := by
  obtain ⟨e, thrown⟩ := alter_refuses (c := c) (s := s) lawful documented refused
  exact ⟨e, (bind_of_ok (getTermios_opened opened)).trans (bind_of_error thrown)⟩

/-- A driver that stores exactly what it is given. -/
def Exact (driver : Driver) : Prop := ∀ current given, driver current given = (given, none)

theorem setParams_altered (exact : Exact driver) (opened : s c.fd = some termios)
    {termios' : StructTermios} (altered : c.alter p r termios s = .ok termios' s)
    (reads : ReadsBack p r termios') :
    c.setParams p driver r s = .ok () (Function.update s c.fd (some termios')) := by
  refine (bind_of_ok (getTermios_opened opened)).trans ((bind_of_ok altered).trans ?_)
  apply (bind_of_ok (tcsetattr_opened opened (exact termios termios'))).trans
  have there : Function.update s c.fd (some termios') c.fd = some termios' :=
    Function.update_self _ _ _
  apply (bind_of_ok (getTermios_opened there)).trans
  rw [verify_iff.mpr reads]
  rfl

theorem setParams_accepted (lawful : p.Lawful) (documented : p.Documented) (exact : Exact driver)
    (opened : s c.fd = some termios) (accepted : ¬ p.Refused r termios)
    (provides : ∀ parity, r.parity = some parity → p.Provides parity) :
    ∃ termios', c.setParams p driver r s = .ok () (Function.update s c.fd (some termios')) ∧
      Untouched p r termios termios' := by
  obtain ⟨termios', altered, reads, untouched⟩ :=
    alter_accepts (c := c) (s := s) lawful documented accepted provides
  exact ⟨termios', setParams_altered exact opened altered reads, untouched⟩

end Contract

section Getters
variable {p : Platform} {c : PosixConfiguration} {r : Params} {s s' : Descriptors}
  {termios termios' : StructTermios}

/-- Every requested parameter reads back through its getter. -/
structure GettersReport (p : Platform) (c : PosixConfiguration) (r : Params)
    (s : Descriptors) : Prop where
  speed : ∀ speed, r.speed = some speed → c.getSpeed p s = .ok speed s
  dataBits : ∀ dataBits, r.dataBits = some dataBits → c.getDatatBits p s = .ok dataBits s
  stopBits : ∀ stopBits, r.stopBits = some stopBits → c.getStopBits p s = .ok stopBits s
  parity : ∀ parity, r.parity = some parity → c.getParity p s = .ok parity s
  flowControls : ∀ flowControls, r.flowControls = some flowControls →
    c.getFlowControl p s = .ok flowControls s

/-- Every other parameter reads back as before, the stop bits as the same `CSTOPB`. -/
structure GettersKept (p : Platform) (c : PosixConfiguration) (r : Params) (s s' : Descriptors) :
    Prop where
  speed : r.speed = none → reading (c.getSpeed p) s' = reading (c.getSpeed p) s
  dataBits : r.dataBits = none → reading (c.getDatatBits p) s' = reading (c.getDatatBits p) s
  stopBits : r.stopBits = none → ∀ termios termios', s c.fd = some termios →
    s' c.fd = some termios' →
    termios'.c_cflag &&& p.CSTOPB = termios.c_cflag &&& p.CSTOPB
  parity : r.parity = none → reading (c.getParity p) s' = reading (c.getParity p) s
  flowControls : r.flowControls = none →
    reading (c.getFlowControl p) s' = reading (c.getFlowControl p) s

/-- What a getter makes of the settings of an open device. -/
theorem getter_opened {α : Type} (opened : s c.fd = some termios)
    (get : StructTermios → Except JavaException α) :
    (c.getTermios >>= fun termios => outcome (get termios)) s = outcome (get termios) s :=
  bind_of_ok (getTermios_opened opened)

theorem reading_outcome {α : Type} (x : Except JavaException α) (s : Descriptors) :
    reading (outcome x) s = x.toOption := by
  cases x with
  | ok a => rfl
  | error e => rfl

theorem reading_getter {α : Type} (opened : s c.fd = some termios)
    (get : StructTermios → Except JavaException α) :
    reading (c.getTermios >>= fun termios => outcome (get termios)) s = (get termios).toOption := by
  rw [← reading_outcome (get termios) s, reading, getter_opened opened get, reading]

theorem ReadsBack.getters (reads : ReadsBack p r termios) (opened : s c.fd = some termios) :
    GettersReport p c r s := by
  refine ⟨?_, ?_, ?_, ?_, ?_⟩
  · intro speed requested
    apply (getter_opened opened p.getSpeed).trans
    rw [reads.speed speed requested]
    rfl
  · intro dataBits requested
    apply (getter_opened opened p.getDatatBits).trans
    rw [reads.dataBits dataBits requested]
    rfl
  · intro stopBits requested
    apply (getter_opened opened p.getStopBits).trans
    rw [reads.stopBits stopBits requested]
    rfl
  · intro parity requested
    apply (getter_opened opened fun termios => .ok (p.getParity termios)).trans
    rw [reads.parity parity requested]
    rfl
  · intro flowControls requested
    apply (getter_opened opened fun termios => .ok (p.getFlowControl termios)).trans
    rw [reads.flowControls flowControls requested]
    rfl

theorem Untouched.getters (untouched : Untouched p r termios termios')
    (before : s c.fd = some termios) (after : s' c.fd = some termios') :
    GettersKept p c r s s' := by
  refine ⟨?_, ?_, ?_, ?_, ?_⟩
  · intro unrequested
    obtain ⟨inSpeed, outSpeed⟩ := untouched.speed unrequested
    refine (reading_getter after p.getSpeed).trans
      (Eq.trans ?_ (reading_getter before p.getSpeed).symm)
    simp only [Platform.getSpeed, inSpeed, outSpeed]
  · intro unrequested
    refine (reading_getter after p.getDatatBits).trans
      (Eq.trans ?_ (reading_getter before p.getDatatBits).symm)
    exact getDatatBits_congr (untouched.dataBits unrequested)
  · intro unrequested t t' first second
    rw [before] at first
    rw [after] at second
    cases first
    cases second
    exact untouched.stopBits unrequested
  · intro unrequested
    refine (reading_getter after fun termios => .ok (p.getParity termios)).trans
      (Eq.trans ?_ (reading_getter before fun termios => .ok (p.getParity termios)).symm)
    rw [untouched.parity unrequested]
  · intro unrequested
    refine (reading_getter after fun termios => .ok (p.getFlowControl termios)).trans
      (Eq.trans ?_ (reading_getter before fun termios => .ok (p.getFlowControl termios)).symm)
    rw [untouched.flowControls unrequested]

end Getters

/-- What `setParams` promises for every request, on an open device with any settings. -/
theorem setParams_contract (p : Platform) (lawful : p.Lawful) (documented : p.Documented)
    (c : PosixConfiguration) (r : Params) (s : Descriptors) (termios : StructTermios)
    (opened : s c.fd = some termios) :
    (p.Refused r termios → ∀ driver, ∃ e, c.setParams p driver r s = .error e s) ∧
      (∀ driver s', c.setParams p driver r s = .ok () s' → GettersReport p c r s') ∧
      (∀ driver, Exact driver → ¬ p.Refused r termios →
        (∀ parity, r.parity = some parity → p.Provides parity) →
        ∃ s', c.setParams p driver r s = .ok () s' ∧ GettersKept p c r s s') := by
  refine ⟨?_, ?_, ?_⟩
  · intro refused driver
    exact setParams_refused lawful documented driver opened refused
  · intro driver s' returned
    obtain ⟨stored, there, reads⟩ := setParams_ok returned
    exact reads.getters there
  · intro driver exact accepted provides
    obtain ⟨termios', returned, untouched⟩ :=
      setParams_accepted lawful documented exact opened accepted provides
    exact ⟨_, returned, untouched.getters opened (Function.update_self _ _ _)⟩

/-- FreeBSD: both speeds have a field of their own, and there is no flag for `MARK` and `SPACE`. -/
def freeBSD : Platform where
  CSIZE := 0x300
  CS5 := 0x0
  CS6 := 0x100
  CS7 := 0x200
  CS8 := 0x300
  CSTOPB := 0x400
  PARENB := 0x1000
  PARODD := 0x2000
  CMSPAR := none
  PAREXT := none
  CRTSCTS := 0x30000
  INPCK := 0x10
  IXON := 0x200
  IXOFF := 0x400
  B := fun speed =>
    if speed = ._576000_BPS ∨ speed = ._1152000_BPS then none else some speed.value
  standard := fun speed => by cases speed <;> decide
  cfgetispeed := StructTermios.c_ispeed
  cfgetospeed := StructTermios.c_ospeed
  cfsetispeed := fun termios speed => .ok { termios with c_ispeed := speed }
  cfsetospeed := fun termios speed => .ok { termios with c_ospeed := speed }
  cfsetspeed := fun termios speed => .ok { termios with c_ispeed := speed, c_ospeed := speed }

theorem freeBSD_lawful : freeBSD.Lawful := by
  refine ⟨by decide, by decide, by simp [freeBSD], by simp [freeBSD], ?_, ?_, ?_, ?_⟩
  · rintro m (defined | defined)
    · cases defined
    · cases defined
  · intro dataBits
    cases dataBits <;> decide
  · intro dataBits dataBits'
    cases dataBits <;> cases dataBits' <;> decide
  · intro speed speed' value first second
    have value_inj : (speed.value : ℤ) = speed'.value := by
      simp only [freeBSD] at first second
      split at first
      · cases first
      · split at second
        · cases second
        · exact (Option.some.inj first).trans (Option.some.inj second).symm
    exact Speed.value_injective (Int.ofNat_inj.mp value_inj)

theorem freeBSD_documented : freeBSD.Documented :=
  ⟨fun termios _ value _ => ⟨{ termios with c_ispeed := value, c_ospeed := value }, rfl, rfl, rfl,
    agree_refl _ _, agree_refl _ _⟩, fun _ _ _ _ _ => ⟨rfl, rfl⟩⟩

def cuau0 : PosixConfiguration := ⟨"/dev/cuau0", 3⟩

/-- The device at `cuau0` has 8 data bits and 9600 bps. -/
def at9600 : Descriptors := fun fd =>
  if fd = 3 then some ⟨0, 0, 0x300, 0, fun _ => 0, 9600, 9600⟩ else none

theorem setParams_contract_freeBSD :
    ∃ s', cuau0.setParams freeBSD (fun _ given => (given, none))
      { dataBits := some .DB_5, stopBits := some .SB_1_5 } at9600 = .ok () s' := by
  have contract := setParams_contract freeBSD freeBSD_lawful freeBSD_documented cuau0
    { dataBits := some .DB_5, stopBits := some .SB_1_5 } at9600 _ rfl
  have accepted : ¬ freeBSD.Refused { dataBits := some .DB_5, stopBits := some .SB_1_5 }
      ⟨0, 0, 0x300, 0, fun _ => 0, 9600, 9600⟩ := by
    rintro (⟨_, requested, _⟩ | ⟨_, other⟩ | ⟨requested, _⟩ | ⟨_, requested, _⟩)
    · cases requested
    · exact other rfl
    · cases requested
    · cases requested
  obtain ⟨s', returned, -⟩ :=
    contract.2.2 _ (fun _ _ => rfl) accepted fun _ requested => by cases requested
  exact ⟨s', returned⟩

end Spsw.Jnhw

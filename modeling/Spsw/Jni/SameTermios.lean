import Mathlib.Data.List.Sublists
import Spsw.Interaction.Oracle
import Spsw.Jni.SeparateSpeeds
import Spsw.Jni.TermiosCommon

/-!
# Both POSIX providers hand over the same termios

The parameters packed into one int come out of it as they went in, so each step of the
native `setParams` alters the structure as the step of `PosixConfiguration` does. Only
the flag for `MARK` and `SPACE` is looked for in another order.
-/
namespace Spsw.Jni
open Flags Jnhw Stateful Oracle

section Fields

theorem masks_apart :
    [SPEED_MASK, DATA_BITS_MASK, STOP_BITS_MASK, PARITY_MASK,
    FLOW_CONTROL_MASK].Pairwise Apart := by
  decide

theorem speed_within (speed : Option Speed) : Within (speed.elim 0#32 SPEED) SPEED_MASK := by
  rcases speed with _ | speed
  · rfl
  · cases speed <;> rfl

theorem dataBits_within (dataBits : Option DataBits) :
    Within (dataBits.elim 0#32 DATA_BITS) DATA_BITS_MASK := by
  rcases dataBits with _ | dataBits
  · rfl
  · cases dataBits <;> rfl

theorem stopBits_within (stopBits : Option StopBits) :
    Within (stopBits.elim 0#32 STOP_BITS) STOP_BITS_MASK := by
  rcases stopBits with _ | stopBits
  · rfl
  · cases stopBits <;> rfl

theorem parity_within (parity : Option Parity) : Within (parity.elim 0#32 PARITY) PARITY_MASK := by
  rcases parity with _ | parity
  · rfl
  · cases parity <;> rfl

/-- The flags for the flow controls of a list. -/
def packed (list : List FlowControl) : BitVec 32 :=
  if list = [] then FLOW_CONTROL_NONE else list.foldl (fun bitSet fc =>
    bitSet ||| FLOW_CONTROL fc) 0

theorem flowControlsToBitSet_packed (set : Finset FlowControl) :
    flowControlsToBitSet set = packed (FlowControl.values.filter (· ∈ set)) := by
  have empty : FlowControl.values.filter (· ∈ set) = [] ↔ set = ∅ := by
    rw [List.filter_eq_nil_iff, Finset.eq_empty_iff_forall_notMem]
    constructor
    · intro none fc
      simpa using none fc (by cases fc <;> decide)
    · intro none fc _
      simpa using none fc
  rw [flowControlsToBitSet, packed]
  simp only [empty]

/-- What the flags tell of the list. -/
structure Tells (list : List FlowControl) : Prop where
  within : Within (packed list) FLOW_CONTROL_MASK
  nonzero : packed list ≠ 0#32
  none : packed list = FLOW_CONTROL_NONE ↔ list = []
  mem : ∀ fc ∈ FlowControl.values, flowControlIn (packed list) fc = decide (fc ∈ list)

theorem packed_tells {list : List FlowControl} (sublist : list.Sublist FlowControl.values) :
    Tells list := by
  have every : ∀ list ∈ FlowControl.values.sublists, Within (packed list) FLOW_CONTROL_MASK ∧
      packed list ≠ 0#32 ∧
      (packed list = FLOW_CONTROL_NONE ↔ list = []) ∧
      ∀ fc ∈ FlowControl.values, flowControlIn (packed list) fc = decide (fc ∈ list) := by
    decide
  obtain ⟨within, nonzero, none, mem⟩ := every list (List.mem_sublists.mpr sublist)
  exact ⟨within, nonzero, none, mem⟩

theorem flowControls_within (flowControls : Option (Finset FlowControl)) :
    Within (flowControls.elim 0#32 flowControlsToBitSet) FLOW_CONTROL_MASK := by
  rcases flowControls with _ | set
  · rfl
  · have tells :=
      (packed_tells (List.filter_sublist (p := (· ∈ set)) (l := FlowControl.values))).within
    rw [← flowControlsToBitSet_packed] at tells
    exact tells

/-- Each field of the int is the parameter put there. -/
structure Packed (r : Params) (bits : BitVec 32) : Prop where
  speed : bits &&& SPEED_MASK = r.speed.elim 0#32 SPEED
  dataBits : bits &&& DATA_BITS_MASK = r.dataBits.elim 0#32 DATA_BITS
  stopBits : bits &&& STOP_BITS_MASK = r.stopBits.elim 0#32 STOP_BITS
  parity : bits &&& PARITY_MASK = r.parity.elim 0#32 PARITY
  flowControls : bits &&& FLOW_CONTROL_MASK = r.flowControls.elim 0#32 flowControlsToBitSet

theorem toBitSet_packed (r : Params) : Packed r (toBitSet r) := by
  have apart := masks_apart
  simp only [List.pairwise_cons, List.mem_cons, List.not_mem_nil, or_false, forall_eq_or_imp,
    forall_eq] at apart
  obtain ⟨⟨speedData, speedStop, speedParity, speedFlow⟩, ⟨dataStop, dataParity, dataFlow⟩,
    ⟨stopParity, stopFlow⟩, parityFlow, -⟩ := apart
  have speed := speed_within r.speed
  have data := dataBits_within r.dataBits
  have stop := stopBits_within r.stopBits
  have parity := parity_within r.parity
  have flow := flowControls_within r.flowControls
  have under : ∀ a b m : BitVec 32, (a ||| b) &&& m = (a &&& m) ||| (b &&& m) := fun _ _ _ =>
    BitVec.and_or_distrib_right
  constructor
  · simp only [toBitSet, under, show _ &&& SPEED_MASK = _ from speed, data.and_apart speedData.symm,
      stop.and_apart speedStop.symm, parity.and_apart speedParity.symm,
        flow.and_apart speedFlow.symm, BitVec.or_zero]
  · simp only [toBitSet, under, speed.and_apart speedData, show _ &&& DATA_BITS_MASK = _ from data,
      stop.and_apart dataStop.symm, parity.and_apart dataParity.symm, flow.and_apart dataFlow.symm,
      BitVec.or_zero, BitVec.zero_or]
  · simp only [toBitSet, under, speed.and_apart speedStop, data.and_apart dataStop,
      show _ &&& STOP_BITS_MASK = _ from stop, parity.and_apart stopParity.symm,
      flow.and_apart stopFlow.symm, BitVec.or_zero, BitVec.zero_or]
  · simp only [toBitSet, under, speed.and_apart speedParity, data.and_apart dataParity,
      stop.and_apart stopParity, show _ &&& PARITY_MASK = _ from parity,
        flow.and_apart parityFlow.symm, BitVec.or_zero, BitVec.zero_or]
  · simp only [toBitSet, under, speed.and_apart speedFlow, data.and_apart dataFlow,
      stop.and_apart stopFlow, parity.and_apart parityFlow,
        show _ &&& FLOW_CONTROL_MASK = _ from flow, BitVec.zero_or]

end Fields

section Steps
variable {p : Platform} {n : TermiosSocket} {settings : StructTermios}
  {r : Params} {bits : BitVec 32}

/-- The flag is the same wherever it is looked for first. -/
theorem parityExtension_eq (single : p.CMSPAR = none ∨ p.PAREXT = none) :
    parityExtension p = p.CMSPAR_OR_PAREXT := by
  unfold parityExtension Platform.CMSPAR_OR_PAREXT
  rcases single with none | none
  · rw [none]
    cases p.PAREXT <;> rfl
  · rw [none]
    cases p.CMSPAR <;> rfl

theorem setDataBitsBits_eq (packed : Packed r bits) :
    setDataBitsBits p settings bits = .ok (p.setDataBits settings r.dataBits) := by
  rw [setDataBitsBits, packed.dataBits]
  rcases r.dataBits with _ | dataBits
  · rfl
  · cases dataBits <;> rfl

theorem setStopBitsBits_eq (packed : Packed r bits) :
    setStopBitsBits p settings bits = p.setStopBits settings r.stopBits := by
  rw [setStopBitsBits, packed.stopBits]
  rcases r.stopBits with _ | stopBits
  · rfl
  · cases stopBits <;> rfl

theorem setParityBits_eq (single : p.CMSPAR = none ∨ p.PAREXT = none) (packed : Packed r bits) :
    setParityBits p settings bits = .ok (p.setParity settings r.parity) := by
  rw [setParityBits, packed.parity, parityExtension_eq single]
  rcases r.parity with _ | parity
  · rfl
  · cases parity with
    | NONE => rfl
    | EVEN => rfl
    | ODD =>
        simp only [Platform.setParity, BitVec.or_assoc]
        rfl
    | MARK =>
        simp only [Platform.setParity, BitVec.or_assoc]
        rfl
    | SPACE =>
        simp only [Platform.setParity, BitVec.or_assoc]
        rfl

theorem setFlowControlBits_eq (packed : Packed r bits) :
    setFlowControlBits p settings bits = p.setFlowControl settings r.flowControls := by
  rw [setFlowControlBits, packed.flowControls]
  rcases r.flowControls with _ | set
  · rfl
  · have tells := packed_tells (List.filter_sublist (p := (· ∈ set)) (l := FlowControl.values))
    have mem : ∀ fc, flowControlIn (flowControlsToBitSet set) fc = decide (fc ∈ set) := by
      intro fc
      have member : fc ∈ FlowControl.values := by cases fc <;> decide
      rw [flowControlsToBitSet_packed, tells.mem fc member]
      simp [member]
    have nonzero := tells.nonzero
    rw [← flowControlsToBitSet_packed] at nonzero
    simp only [Option.elim_some, if_neg nonzero, mem, decide_eq_true_eq,
      Bool.or_eq_true, Bool.and_eq_true]
    by_cases none : flowControlsToBitSet set = FLOW_CONTROL_NONE
    · have empty := none
      rw [flowControlsToBitSet_packed, tells.none, List.filter_eq_nil_iff] at empty
      have absent : ∀ fc, fc ∉ set := fun fc => by simpa using empty fc (by cases fc <;> decide)
      simp only [if_pos none, Platform.setFlowControl, if_neg (absent _)]
      rfl
    · simp only [if_neg none, Platform.setFlowControl]
      by_cases sideIn : FlowControl.RTS_CTS_IN ∈ set
      · by_cases sideOut : FlowControl.RTS_CTS_OUT ∈ set
        · simp only [sideIn, sideOut, or_self, and_self, ↓reduceIte]
        · simp only [sideIn, sideOut, or_false, and_false, ↓reduceIte]
      · by_cases sideOut : FlowControl.RTS_CTS_OUT ∈ set
        · simp only [sideIn, sideOut, or_true, false_and, ↓reduceIte]
        · simp only [sideIn, sideOut, or_self, ↓reduceIte]

/-- What both make of the structure once the speeds are set. -/
def afterSpeeds (p : Platform) (r : Params) (termios : StructTermios) :
    Except JavaException StructTermios := do
  let termios ← p.setStopBits (p.setDataBits termios r.dataBits) r.stopBits
  p.setFlowControl (p.setParity termios r.parity) r.flowControls

theorem alter_eq (single : p.CMSPAR = none ∨ p.PAREXT = none) (packed : Packed r bits) :
    alter p n settings bits = setSpeedBits p n settings bits >>= afterSpeeds p r := by
  simp only [alter, setDataBitsBits_eq packed, setStopBitsBits_eq packed,
    setParityBits_eq single packed, setFlowControlBits_eq packed]
  rfl

theorem afterSpeeds_cases (p : Platform) (r : Params) (termios : StructTermios) :
    (∃ given, afterSpeeds p r termios = .ok given) ∨
      ∃ m, afterSpeeds p r termios = .error (.illegalArgumentException m) := by
  have refuses : ∀ {x : Except JavaException StructTermios} {e : JavaException},
      Throws JavaException.IsIllegalArgument (outcome x) → x = .error e →
        JavaException.IsIllegalArgument e := by
    intro x e throws refused
    refine throws (fun _ => none) e (fun _ => none) ?_
    rw [refused]
    rfl
  unfold afterSpeeds
  cases stop : p.setStopBits (p.setDataBits termios r.dataBits) r.stopBits with
  | error e =>
      obtain ⟨m, rfl⟩ := refuses (throws_setStopBits r.stopBits) stop
      exact .inr ⟨m, rfl⟩
  | ok termios =>
      cases flow : p.setFlowControl (p.setParity termios r.parity) r.flowControls with
      | error e =>
          obtain ⟨m, rfl⟩ := refuses (throws_setFlowControl r.flowControls) flow
          exact .inr ⟨m, flow⟩
      | ok given => exact .inl ⟨given, flow⟩

variable {c : PosixConfiguration} {s : Descriptors}

/-- The constants of the platform are speeds it can set. -/
def AcceptsSpeeds (p : Platform) : Prop :=
  ∀ termios speed value, p.B speed = some value →
    ∃ termios', p.cfsetspeed termios value = .ok termios'

theorem setSpeedBits_cases (settings : StructTermios) (accepts : AcceptsSpeeds p)
    (packed : Packed r bits) :
    (∃ termios, setSpeedBits p n settings bits = .ok termios ∧
      c.setBothSpeeds p settings r.speed s = .ok termios s) ∨
    ∃ m m', setSpeedBits p n settings bits = .error (.illegalArgumentException m) ∧
      c.setBothSpeeds p settings r.speed s = .error (.illegalArgumentException m') s := by
  rw [setSpeedBits, packed.speed]
  rcases r.speed with _ | speed
  · exact .inl ⟨settings, rfl, rfl⟩
  · have nonzero : SPEED speed ≠ 0#32 := by cases speed <;> decide
    have own : SPEED speed &&& SPEED_MASK = SPEED speed := speed_within (some speed)
    have selected := select_speed speed
    rw [own] at selected
    rw [Option.elim_some, if_neg nonzero]
    cases defined : p.B speed with
    | some value =>
        obtain ⟨termios, accepted⟩ := accepts settings speed value defined
        refine .inl ⟨termios, ?_, cfset_defined defined accepted⟩
        rw [speed2speed_t, selected, Option.bind_some, defined]
        simp only [bind, Except.bind, accepted]
        rfl
    | none =>
        refine .inr ⟨"Speed not supported", "No defined! posix.B" ++ toString speed.value, ?_, ?_⟩
        · rw [speed2speed_t, selected, Option.bind_some, defined]
          rfl
        · apply bind_of_error
          rw [Platform.speed2speed_t, defined]
          rfl

/-- Both refuse the request on the structure, or make the same of it. -/
theorem alter_alike (settings : StructTermios) (single : p.CMSPAR = none ∨ p.PAREXT = none)
    (accepts : AcceptsSpeeds p) (packed : Packed r bits) :
    (∃ given, alter p n settings bits = .ok given ∧ c.alter p r settings s = .ok given s) ∨
    ∃ m m', alter p n settings bits = .error (.illegalArgumentException m) ∧
      c.alter p r settings s = .error (.illegalArgumentException m') s := by
  rw [alter_eq single packed]
  rcases setSpeedBits_cases (n := n) (c := c) (s := s) settings accepts packed with
    ⟨termios, native, java⟩ | ⟨m, m', native, java⟩
  · rw [native]
    have rest : c.alter p r settings s = outcome (afterSpeeds p r termios) s := by
      refine (bind_of_ok java).trans ?_
      unfold afterSpeeds
      cases p.setStopBits (p.setDataBits termios r.dataBits) r.stopBits <;> rfl
    rw [rest]
    rcases afterSpeeds_cases p r termios with ⟨given, made⟩ | ⟨m, refused⟩
    · exact .inl ⟨given, made, by rw [made]; rfl⟩
    · exact .inr ⟨m, m, refused, by rw [refused]; rfl⟩
  · rw [native]
    exact .inr ⟨m, m', rfl, bind_of_error java⟩

end Steps

/-- A computation that takes a driver, with the settings of the device and the structure handed
to `tcsetattr` as one question. -/
def onPairs {β : Type} (f : Driver → β) :
    (StructTermios × StructTermios → StructTermios × Option Errno) → β :=
  fun oracle => f fun current given => oracle (current, given)

/-- Both refuse without a call of `tcsetattr`, or both hand the same structure to it. -/
inductive Alike (s : Descriptors)
    (f g : Driver → EStateM.Result JavaException Descriptors Unit) : Prop
  | refused (first : ∃ m, ∀ driver, f driver = .error (.illegalArgumentException m) s)
      (second : ∃ m, ∀ driver, g driver = .error (.illegalArgumentException m) s)
  | handed (asks : ∃ q, Asks (onPairs f) q) (same : ∀ q, Asks (onPairs f) q ↔ Asks (onPairs g) q)

section Handing
variable {s : Descriptors} {fd : ℤ} {current given : StructTermios}

/-- All that is seen of the driver is what it makes of the structure handed over, and an
error it reports leaves what it stored. -/
theorem asks_tcsetattr (opened : s fd = some current) {rest : Except Errno Unit → Configuring Unit}
    (reported : ∀ s', ∃ e, rest (.error .EBADF) s' = .error e s')
    {f : Driver → EStateM.Result JavaException Descriptors Unit}
    (handed : ∀ driver, f driver = (tcsetattr driver fd given >>= rest) s) :
    Asks (onPairs f) (current, given) := by
  refine ⟨fun answer => f fun _ _ => answer, fun oracle => ?_, ?_⟩
  · have seen : ∀ driver, tcsetattr driver fd given s =
        tcsetattr (fun _ _ => driver current given) fd given s := by
      intro driver
      refine get_bind.trans (Eq.trans ?_ get_bind.symm)
      rw [opened]
    have first := seen fun current given => oracle (current, given)
    simp only [onPairs, handed]
    change EStateM.bind _ _ s = EStateM.bind _ _ s
    simp only [EStateM.bind, first]
  · let other : StructTermios := { given with c_ispeed := given.c_ispeed + 1 }
    refine ⟨(given, some .EBADF), (other, some .EBADF), ?_⟩
    have after : ∀ stored : StructTermios, ∃ e, f (fun _ _ => (stored, some .EBADF)) =
        .error e (Function.update s fd (some stored)) := by
      intro stored
      have answered : tcsetattr (fun _ _ => (stored, some .EBADF)) fd given s =
          .ok (.error .EBADF) (Function.update s fd (some stored)) := by
        apply get_bind.trans
        rw [opened]
        rfl
      obtain ⟨e, thrown⟩ := reported (Function.update s fd (some stored))
      exact ⟨e, (handed _).trans ((bind_of_ok answered).trans thrown)⟩
    intro same
    obtain ⟨e, first⟩ := after given
    obtain ⟨e', second⟩ := after other
    injection first.symm.trans (same.trans second) with _ states
    have there := congrFun states fd
    rw [Function.update_self, Function.update_self] at there
    have speeds := congrArg StructTermios.c_ispeed (Option.some.inj there)
    change given.c_ispeed = given.c_ispeed + 1 at speeds
    omega

end Handing

section Providers
variable {p : Platform} {c : PosixConfiguration} {n : TermiosSocket} {r : Params} {s : Descriptors}
  {current settings : StructTermios} {bits : BitVec 32}

/-- The two `setParams` on a structure already read. -/
theorem setParams_alike (single : p.CMSPAR = none ∨ p.PAREXT = none) (accepts : AcceptsSpeeds p)
    (packed : Packed r bits) (same : n.fd = c.fd) (opened : s c.fd = some current) :
    Alike s (fun driver => n.setParams p driver settings bits s)
      (fun driver => c.setParamsOn p driver settings r s) := by
  rcases alter_alike (n := n) (c := c) (s := s) settings single accepts packed with
    ⟨given, native, java⟩ | ⟨m, m', native, java⟩
  · have nativeMade : outcome (alter p n settings bits) s = .ok given s := by
      rw [native]
      rfl
    have nativeAsks : Asks (onPairs fun driver => n.setParams p driver settings bits s)
      (current, given) :=
      asks_tcsetattr (same ▸ opened) (fun s' => ⟨_, rfl⟩) fun driver => bind_of_ok nativeMade
    have javaAsks : Asks (onPairs fun driver => c.setParamsOn p driver settings r s)
      (current, given) :=
      asks_tcsetattr opened (fun s' => ⟨_, rfl⟩) fun driver => bind_of_ok java
    exact .handed ⟨_, nativeAsks⟩ (nativeAsks.iff javaAsks)
  · refine .refused ⟨m, fun driver => bind_of_error ?_⟩ ⟨m', fun driver => bind_of_error java⟩
    rw [native]
    rfl

theorem rawMode_eq (p : Platform) (raw : RawFlags) (settings : StructTermios) :
    rawMode p raw settings = p.rawMode raw settings := by
  simp only [rawMode, Platform.rawMode, BitVec.or_assoc]

/-- Both opens, on the descriptor they obtained. -/
theorem openParams_alike (single : p.CMSPAR = none ∨ p.PAREXT = none) (accepts : AcceptsSpeeds p)
    (raw : RawFlags) (packed : Packed r bits) (same : n.fd = c.fd)
    (opened : s c.fd = some current) :
    Alike s (fun driver => n.openParams p raw driver bits s) (fun driver =>
      c.openParams p raw driver r s) := by
  have javaRead : ∀ driver, c.openParams p raw driver r s =
      c.setParamsOn p driver (p.rawMode raw current) r s :=
    fun driver => bind_of_ok (tcgetattr_opened opened)
  have opened' : s n.fd = some current := same ▸ opened
  by_cases some : bits = NO_PARAMS_TO_SET
  · have nativeAsks : Asks (onPairs fun driver => n.openParams p raw driver bits s) (current,
        p.rawMode raw current) := by
      apply asks_tcsetattr opened'
      case handed =>
        intro driver
        refine (bind_of_ok (tcgetattr_opened opened')).trans ?_
        simp only [rawMode_eq]
        exact congrFun (if_neg (not_not_intro some)) s
      case reported => exact fun s' => ⟨_, rfl⟩
    have unaltered : alter p n (p.rawMode raw current) bits = .ok (p.rawMode raw current) := by
      rw [some]
      rfl
    rcases alter_alike (n := n) (c := c) (s := s) (p.rawMode raw current) single accepts packed with
      ⟨given, native, java⟩ | ⟨m, m', native, java⟩
    · cases unaltered.symm.trans native
      have javaAsks : Asks (onPairs fun driver => c.openParams p raw driver r s) (current,
        p.rawMode raw current) :=
        asks_tcsetattr opened (fun s' => ⟨_, rfl⟩) fun driver =>
          (javaRead driver).trans (bind_of_ok java)
      exact .handed ⟨_, nativeAsks⟩ (nativeAsks.iff javaAsks)
    · cases unaltered.symm.trans native
  · have nativeRead : ∀ driver, n.openParams p raw driver bits s =
        n.setParams p driver (p.rawMode raw current) bits s := by
      intro driver
      refine (bind_of_ok (tcgetattr_opened opened')).trans ?_
      simp only [rawMode_eq, some, ne_eq, not_false_eq_true, ↓reduceIte]
    simp only [javaRead, nativeRead]
    exact setParams_alike single accepts packed same opened

end Providers

/-- For every request both providers either refuse before `tcsetattr` or hand over the same
termios, on an open port and while one is opened. -/
theorem providers_alike (p : Platform) (single : p.CMSPAR = none ∨ p.PAREXT = none)
    (accepts : AcceptsSpeeds p) (raw : RawFlags) (n : TermiosSocket) (c : PosixConfiguration)
    (same : n.fd = c.fd) (r : Params) (s : Descriptors) (current : StructTermios)
    (opened : s c.fd = some current) :
    Alike s (fun driver => n.setParameters p driver (toBitSet r) s) (fun driver =>
      c.setParams p driver r s) ∧
      Alike s (fun driver => n.openParams p raw driver (toBitSet r) s)
        (fun driver => c.openParams p raw driver r s) := by
  constructor
  · have nativeRead : ∀ driver, n.setParameters p driver (toBitSet r) s =
        n.setParams p driver current (toBitSet r) s :=
      fun driver => bind_of_ok (getSettings_opened (same ▸ opened))
    have javaRead : ∀ driver, c.setParams p driver r s = c.setParamsOn p driver current r s :=
      fun driver => bind_of_ok (getTermios_opened opened)
    simp only [nativeRead, javaRead]
    exact setParams_alike single accepts (toBitSet_packed r) same opened
  · exact openParams_alike single accepts raw (toBitSet_packed r) same opened

theorem providers_alike_9600 :
    Alike at9600 (fun driver =>
      ttyu0.setParameters freeBSD driver (toBitSet { speed := some ._9600_BPS }) at9600)
      (fun driver => cuau0.setParams freeBSD driver { speed := some ._9600_BPS } at9600) :=
  (providers_alike freeBSD (.inl rfl) (fun _ _ _ _ => ⟨_, rfl⟩)
    ⟨1, 2, 8, 0x20, 0x40, 0x80, 0x100, 1, 8, 0x10, 0x100, 0x80, 0x400, 0x800,
      0x8000, 0x4000, 16, 17⟩ ttyu0 cuau0 rfl { speed := some ._9600_BPS } at9600 _ rfl).1

end Spsw.Jni

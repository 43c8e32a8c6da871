import Spsw.Api.Exceptions
import Spsw.Interaction.Lockstep

/-!
# The timeouts of a port

The three timeouts a user sets are either all accepted or all refused, and the getters
tell those accepted last. The sockets for POSIX keep the two overall ones as `poll`
takes them, which has another number for waiting for ever.
-/
namespace Spsw
open JavaException (illegalArgumentException)
open Stateful

/-- Milliseconds, `0` for ever. -/
structure Timeouts where
  interByteReadTimeout : Int32
  overallReadTimeout : Int32
  overallWriteTimeout : Int32
  nonneg : 0 ≤ interByteReadTimeout ∧ 0 ≤ overallReadTimeout ∧ 0 ≤ overallWriteTimeout

/-- The arguments of a call of `setTimeouts`. -/
structure SetTimeouts where
  interByteReadTimeout : Int32
  overallReadTimeout : Int32
  overallWriteTimeout : Int32
  deriving DecidableEq

/-- What a call makes of the timeouts; `none` when it is refused. -/
def Timeouts.apply (call : SetTimeouts) (_ : Timeouts) : Option Timeouts :=
  if nonneg : 0 ≤ call.interByteReadTimeout ∧ 0 ≤ call.overallReadTimeout ∧
      0 ≤ call.overallWriteTimeout then
    some ⟨call.interByteReadTimeout, call.overallReadTimeout, call.overallWriteTimeout, nonneg⟩
  else none

/-- The timeouts of a port as it is opened. -/
def Timeouts.initial : Timeouts := ⟨100, 0, 0, by decide⟩

/-- The methods of a socket that are about timeouts. -/
structure TimeoutSocket (σ : Type) where
  setTimeouts : Int32 → Int32 → Int32 → EStateM JavaException σ Unit
  getInterByteReadTimeout : EStateM JavaException σ Int32
  getOverallReadTimeout : EStateM JavaException σ Int32
  getOverallWriteTimeout : EStateM JavaException σ Int32

namespace TimeoutSocket
variable {σ : Type} (k : TimeoutSocket σ)

def perform (call : SetTimeouts) : EStateM JavaException σ Unit :=
  k.setTimeouts call.interByteReadTimeout call.overallReadTimeout call.overallWriteTimeout

/-- What the three getters return. -/
structure Reports (s : σ) (x : Timeouts) : Prop where
  interByteReadTimeout : k.getInterByteReadTimeout s = .ok x.interByteReadTimeout s
  overallReadTimeout : k.getOverallReadTimeout s = .ok x.overallReadTimeout s
  overallWriteTimeout : k.getOverallWriteTimeout s = .ok x.overallWriteTimeout s

/-- Through any sequence of calls, with any arguments, the getters tell what was accepted last. -/
def KeepsTimeouts : Prop :=
  ∀ calls s x, k.Reports s x →
    Follows JavaException.IsIllegalArgument k.Reports k.perform Timeouts.apply calls s x

theorem keepsTimeouts_of_refines
    (refines : Refines JavaException.IsIllegalArgument (fun _ => True) k.Reports k.perform
      Timeouts.apply) :
    k.KeepsTimeouts := fun calls _ _ start => refines.follows calls start

end TimeoutSocket

/-- The checks at the start of every `setTimeouts`. -/
def checkTimeouts (interByteReadTimeout overallReadTimeout overallWriteTimeout : Int32) :
    Except JavaException Unit :=
  if overallWriteTimeout < 0 then
    .error (illegalArgumentException "setTimeouts: overallWriteTimeout must >= 0")
  else if overallReadTimeout < 0 then
    .error (illegalArgumentException "setTimeouts: overallReadTimeout must >= 0")
  else if interByteReadTimeout < 0 then
    .error (illegalArgumentException "setReadTimeouts: interByteReadTimeout must >= 0")
  else .ok ()

theorem checkTimeouts_accepts {call : SetTimeouts} {x x' : Timeouts}
    (applied : x.apply call = some x') :
    checkTimeouts call.interByteReadTimeout call.overallReadTimeout call.overallWriteTimeout =
        .ok () ∧
      x'.interByteReadTimeout = call.interByteReadTimeout ∧
      x'.overallReadTimeout = call.overallReadTimeout ∧
      x'.overallWriteTimeout = call.overallWriteTimeout := by
  rw [Timeouts.apply] at applied
  split at applied
  · next nonneg =>
      cases applied
      refine ⟨?_, rfl, rfl, rfl⟩
      rw [checkTimeouts, if_neg (Int32.not_lt.mpr nonneg.2.2), if_neg (Int32.not_lt.mpr nonneg.2.1),
        if_neg (Int32.not_lt.mpr nonneg.1)]
  · cases applied

theorem checkTimeouts_refuses {call : SetTimeouts} {x : Timeouts} (none : x.apply call = none) :
    ∃ m, checkTimeouts call.interByteReadTimeout call.overallReadTimeout call.overallWriteTimeout =
      .error (.illegalArgumentException m) := by
  unfold checkTimeouts
  split
  · exact ⟨_, rfl⟩
  split
  · exact ⟨_, rfl⟩
  split
  · exact ⟨_, rfl⟩
  · next write read interByte =>
      rw [Timeouts.apply, dif_pos ⟨Int32.not_lt.mp interByte, Int32.not_lt.mp read,
        Int32.not_lt.mp write⟩] at none
      cases none

def INFINITE_TIMEOUT : Int32 := 0

def POLL_INFINITE_TIMEOUT : Int32 := -1

/-- The fields of a socket for POSIX. -/
structure PollTimeouts where
  interByteReadTimeout : Int32 := 100
  pollReadTimeout : Int32 := -1
  pollWriteTimeout : Int32 := -1
  deriving DecidableEq

namespace PollTimeouts

/-- The fields for the arguments of `setTimeouts`. -/
def of (interByteReadTimeout overallReadTimeout overallWriteTimeout : Int32) : PollTimeouts where
  interByteReadTimeout := interByteReadTimeout
  pollReadTimeout :=
    if overallReadTimeout = INFINITE_TIMEOUT then POLL_INFINITE_TIMEOUT else overallReadTimeout
  pollWriteTimeout :=
    if overallWriteTimeout = INFINITE_TIMEOUT then POLL_INFINITE_TIMEOUT else overallWriteTimeout

def setTimeouts (interByteReadTimeout overallReadTimeout overallWriteTimeout : Int32) :
    EStateM JavaException PollTimeouts Unit :=
  match checkTimeouts interByteReadTimeout overallReadTimeout overallWriteTimeout with
  | .error e => throw e
  | .ok () => set (of interByteReadTimeout overallReadTimeout overallWriteTimeout)

/-- What a getter makes of a timeout for `poll`. -/
def overall (pollTimeout : Int32) : Int32 :=
  if pollTimeout = POLL_INFINITE_TIMEOUT then INFINITE_TIMEOUT else pollTimeout

/-- The two sockets of the Java provider and the one of the native provider. -/
def socket : TimeoutSocket PollTimeouts where
  setTimeouts := setTimeouts
  getInterByteReadTimeout := do
    let fields ← get
    pure fields.interByteReadTimeout
  getOverallReadTimeout := do
    let fields ← get
    pure (overall fields.pollReadTimeout)
  getOverallWriteTimeout := do
    let fields ← get
    pure (overall fields.pollWriteTimeout)

/-- No timeout that is accepted is the number that `poll` takes for ever. -/
theorem overall_poll {timeout : Int32} (nonneg : 0 ≤ timeout) :
    overall (if timeout = INFINITE_TIMEOUT then POLL_INFINITE_TIMEOUT else timeout) = timeout := by
  unfold overall
  split
  · next infinite => exact (if_pos rfl).trans infinite.symm
  · next finite =>
      apply if_neg
      rintro rfl
      exact absurd nonneg (by decide)

theorem refines : Refines JavaException.IsIllegalArgument (fun _ => True) socket.Reports socket.perform
    Timeouts.apply := by
  constructor
  · intro call x x' s _ _ applied
    obtain ⟨passes, interByte, read, write⟩ := checkTimeouts_accepts applied
    obtain ⟨-, nonnegRead, nonnegWrite⟩ := x'.nonneg
    rw [read] at nonnegRead
    rw [write] at nonnegWrite
    refine ⟨of call.interByteReadTimeout call.overallReadTimeout call.overallWriteTimeout,
      ?_, ?_, ?_, ?_⟩
    · change setTimeouts _ _ _ s = _
      rw [setTimeouts, passes]
      rfl
    · exact congrArg (fun t => EStateM.Result.ok t _) interByte.symm
    · exact congrArg (fun t => EStateM.Result.ok t _) ((overall_poll nonnegRead).trans read.symm)
    · exact congrArg (fun t => EStateM.Result.ok t _) ((overall_poll nonnegWrite).trans write.symm)
  · intro call x s _ _ none
    obtain ⟨m, refused⟩ := checkTimeouts_refuses none
    refine ⟨_, ⟨m, rfl⟩, ?_⟩
    change setTimeouts _ _ _ s = _
    rw [setTimeouts, refused]
    rfl

end PollTimeouts
end Spsw

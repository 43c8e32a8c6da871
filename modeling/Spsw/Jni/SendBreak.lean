import Spsw.Interaction.Counted
import Spsw.Jnhw.SocketOperations
import Spsw.Jni.TermiosSettings
import Spsw.Jni.WinApiIO

/-!
# Breaks

`sendBreak` of both providers switches the break on, sleeps, and switches it off again:
the native library sleeps by `usleep`, or by `Sleep` on Windows, the other provider by
`Thread.sleep`.
-/
namespace Spsw.Jni.SendBreak
open Interaction
open Interaction.Program (Returns)
open Interaction.Method (raise assign locals tryFinally tryCatch)
open Jnhw (Errno INVALID_FD)
open Jnhw.PosixSerialPortSocket (Ioctl)

inductive Request where
  | getFd
  | ioctl (fd : ℤ) (request : Ioctl)
  | usleep (usec : BitVec 32)
  | begin
  | interrupted
  | channelClosed

@[reducible] def Answer : Request → Type
  | .getFd => ℤ
  | .ioctl _ _ | .usleep _ => Except Errno Unit
  | .begin => Unit
  | .interrupted | .channelClosed => Bool

@[reducible] def system : Signature := ⟨Request, Answer⟩

/-- The local variable is `completed`. -/
abbrev Action (α : Type) := Method system Bool JavaException α

def ask (e : Request) : Action (Answer e) :=
  (Method.request e fun r => r : Method system Bool JavaException (Answer e))

variable (errnoText : Errno → String)

def throw_ClosedOrNativeException (errno : Errno) (message : String) : Action Unit := do
  let fd ← ask .getFd
  if fd = INVALID_FD then raise (.ioException PORT_IS_CLOSED)
  else raise (.ioException (message ++ ": Unknown port error " ++ errnoText errno))

/-- The factor 1000 is applied to a `uint32_t`. -/
def sendBreak0 (duration : ℤ) : Action Unit :=
  if duration ≤ 0 then raise (.illegalArgumentException "sendBreak duration must be grater than 0")
  else do
    let fd ← ask .getFd
    let set ← ask (.ioctl fd .TIOCSBRK)
    match set with
    | .error errno => throw_ClosedOrNativeException errnoText errno "Can't sendBreak"
    | .ok () => do
        let slept ← ask (.usleep (BitVec.ofInt 32 duration * 1000))
        match slept with
        | .error _ => raise (.runtimeException "Error sendBreak usleep failed")
        | .ok () => do
            let cleared ← ask (.ioctl fd .TIOCCBRK)
            match cleared with
            | .error errno => throw_ClosedOrNativeException errnoText errno "Can't sendBreak"
            | .ok () => pure ()

/-- `end(completed)` -/
def endBlocking : Action Unit := do
  let completed ← locals
  let interrupted ← ask .interrupted
  if interrupted = true then raise .closedByInterruptException
  else if completed = true then pure ()
  else do
    let closed ← ask .channelClosed
    if closed = true then raise .asynchronousCloseException else pure ()

/-- `sendBreak` of `AbstractSerialPortSocket`. -/
def sendBreak (duration : ℤ) : Action Unit := do
  assign fun _ => false
  tryFinally
    (tryCatch
      (do
        let _ ← ask .begin
        sendBreak0 errnoText duration
        assign fun _ => true)
      fun e =>
        if e.isIOException = true then do
          assign fun _ => true
          raise e
        else raise e)
    endBlocking

/-- What counts for a break. -/
inductive BreakDeed where
  | switchedOn (fd : ℤ)
  | slept (micros : ℤ) (through : Bool)
  | finds (fd : ℤ)
  | switchesOff (fd : ℤ)
  deriving DecidableEq

/-- Once the break is on, time is let pass and it is switched off on the same descriptor, and no
other time is asked for than the duration. -/
structure HoldsBreak (duration : ℤ) (done : List BreakDeed) : Prop where
  exact : ∀ micros through, .slept micros through ∈ done → micros = 1000 * duration
  holds : ∀ before after fd, done = before ++ .switchedOn fd :: after →
    ∃ micros through, .slept micros through ∈ after
  ends : ∀ before after fd, done = before ++ .switchedOn fd :: after → .switchesOff fd ∈ after

/-- The system calls of the native library. -/
def native : Event system → Option BreakDeed
  | ⟨.ioctl fd .TIOCSBRK, .ok ()⟩ => some (.switchedOn fd)
  | ⟨.ioctl fd .TIOCCBRK, _⟩ => some (.switchesOff fd)
  | ⟨.usleep usec, .ok ()⟩ => some (.slept usec.toNat true)
  | ⟨.usleep usec, .error _⟩ => some (.slept usec.toNat false)
  | _ => none

/-- The calls of the other provider, and what it finds in the field `fd`. A sleep that is
interrupted is not slept through. -/
def java : Event Jnhw.PosixSerialPortSocket.kernel → Option BreakDeed
  | ⟨.ioctl fd .TIOCSBRK, .ok ()⟩ => some (.switchedOn fd)
  | ⟨.ioctl fd .TIOCCBRK, _⟩ => some (.switchesOff fd)
  | ⟨.sleep millis, interrupted⟩ => some (.slept (1000 * millis) !interrupted)
  | ⟨.get .fd, fd⟩ => some (.finds fd)
  | _ => none

/-- When the sleep is over the field still names the descriptor on which the break is: neither
`close()` nor an interruption, which closes the channel too, has cleared it. -/
def StillNamed (done : List BreakDeed) : Prop :=
  ∀ before after micros through fd fd',
    done = before ++ .slept micros through :: .finds fd' :: after →
    .switchedOn fd ∈ before → fd' = fd

section Breaks
variable {duration micros : ℤ} {through : Bool} {fd : ℤ} {done before after : List BreakDeed}

/-- No break is switched on, and no time let pass. -/
def Calm (done : List BreakDeed) : Prop :=
  ∀ deed ∈ done, (∃ fd, deed = .finds fd) ∨ ∃ fd, deed = .switchesOff fd

theorem Calm.dark (calm : Calm done) (fd : ℤ) : .switchedOn fd ∉ done := by
  intro member
  rcases calm _ member with ⟨fd', same⟩ | ⟨fd', same⟩ <;> cases same

theorem Calm.awake (calm : Calm done) (micros : ℤ) (through : Bool) :
    .slept micros through ∉ done := by
  intro member
  rcases calm _ member with ⟨fd', same⟩ | ⟨fd', same⟩ <;> cases same

theorem calm_nil : Calm [] := fun _ member => absurd member List.not_mem_nil

theorem Calm.cons {deed : BreakDeed}
    (first : (∃ fd, deed = .finds fd) ∨ ∃ fd, deed = .switchesOff fd) (calm : Calm done) :
    Calm (deed :: done) :=
  List.forall_mem_cons.mpr ⟨first, calm⟩

theorem holds_calm (calm : Calm done) : HoldsBreak duration done := by
  constructor
  case exact => exact fun micros through member => absurd member (calm.awake micros through)
  case holds =>
    rintro before after fd rfl
    exact absurd (List.mem_append_right before List.mem_cons_self) (calm.dark fd)
  case ends =>
    rintro before after fd rfl
    exact absurd (List.mem_append_right before List.mem_cons_self) (calm.dark fd)

theorem stillNamed_calm (calm : Calm done) : StillNamed done := by
  rintro before after micros through fd fd' rfl on
  exact absurd (List.mem_append_left _ on) (calm.dark fd)

/-- Of a break that is switched on once. -/
theorem holds_iff (first : Calm before) (rest : Calm after) :
    HoldsBreak duration (before ++ .switchedOn fd :: .slept micros through :: after) ↔
      micros = 1000 * duration ∧ .switchesOff fd ∈ after := by
  have split : ∀ before' after' fd', before ++ .switchedOn fd :: .slept micros through :: after =
      before' ++ .switchedOn fd' :: after' → fd = fd' ∧
        .slept micros through :: after = after' := by
    intro before' after' fd' same
    have dark : .switchedOn fd' ∉ .slept micros through :: after := by simp [rest.dark fd']
    obtain ⟨-, here, rest⟩ := (List.append_cons_inj_of_notMem (first.dark fd') dark).mp same
    exact ⟨BreakDeed.switchedOn.inj here, rest⟩
  constructor
  · intro holds
    refine ⟨holds.exact micros through (by simp), ?_⟩
    simpa using holds.ends before _ fd rfl
  · rintro ⟨exact, off⟩
    constructor
    case exact =>
      intro micros' through' member
      simp only [List.mem_append, first.awake, List.mem_cons, rest.awake, reduceCtorEq,
        BreakDeed.slept.injEq, false_or, or_false] at member
      exact member.1.trans exact
    case holds =>
      intro before' after' fd' same
      rw [← (split before' after' fd' same).2]
      exact ⟨micros, through, List.mem_cons_self⟩
    case ends =>
      intro before' after' fd' same
      obtain ⟨rfl, rfl⟩ := split before' after' fd' same
      exact List.mem_cons_of_mem _ off

theorem stillNamed_iff {fd' : ℤ} (first : Calm before) (rest : Calm after) :
    StillNamed (before ++ .switchedOn fd :: .slept micros through :: .finds fd' :: after) ↔
      fd' = fd := by
  have regroup : before ++ .switchedOn fd :: .slept micros through :: .finds fd' :: after =
      (before ++ [.switchedOn fd]) ++ .slept micros through :: .finds fd' :: after := by simp
  rw [regroup]
  constructor
  · intro named
    exact named _ _ _ _ _ _ rfl (by simp)
  · rintro rfl before' after' micros' through' on found same member
    have early : .slept micros' through' ∉ before ++ [.switchedOn fd'] := by
      simp [first.awake micros' through']
    have late : .slept micros' through' ∉ .finds fd' :: after := by
      simp [rest.awake micros' through']
    obtain ⟨rfl, -, tail⟩ := (List.append_cons_inj_of_notMem early late).mp same
    have here : on = fd' := by simpa [first.dark on] using member
    rw [here]
    exact BreakDeed.finds.inj (List.cons.inj tail).1.symm

end Breaks

section Native
open Interaction.Method (Does Idle does_pure does_raise does_locals does_assign does_request
  does_request_bind does_bind does_after does_tryFinally does_tryCatch)
variable {errnoText : Errno → String} {duration : ℤ} {α : Type}
  {post : List BreakDeed → Except JavaException α → Prop}

theorem idle_ask {e : Request} (other : ∀ r, native ⟨e, r⟩ = none) : Idle native (ask e) := by
  refine does_request fun r => ?_
  rw [other r]
  rfl

theorem throw_idle (errno : Errno) (message : String) :
    Idle native (throw_ClosedOrNativeException errnoText errno message) := by
  refine Idle.bind (idle_ask fun _ => rfl) fun fd => ?_
  split
  · exact does_raise rfl
  · exact does_raise rfl

theorem endBlocking_idle : Idle native endBlocking := by
  refine Idle.bind (does_locals fun _ => rfl) fun completed =>
    Idle.bind (idle_ask fun _ => rfl) fun interrupted => ?_
  split
  · exact does_raise rfl
  · split
    · exact does_pure rfl
    · refine Idle.bind (idle_ask fun _ => rfl) fun closed => ?_
      split
      · exact does_raise rfl
      · exact does_pure rfl

/-- What the native library asks `usleep` for. -/
def asked (duration : ℤ) : ℤ := (BitVec.ofInt 32 duration * 1000).toNat

/-- A run that switches the break on ends with it, unless the sleep fails. -/
inductive NativeBreak (duration : ℤ) : List BreakDeed → Prop
  | off : NativeBreak duration []
  | leftOn (fd : ℤ) : NativeBreak duration [.switchedOn fd, .slept (asked duration) false]
  | ended (fd : ℤ) : NativeBreak duration [.switchedOn fd,
      .slept (asked duration) true, .switchesOff fd]

theorem sendBreak0_does (duration : ℤ) :
    Does native (sendBreak0 errnoText duration) fun done _ => NativeBreak duration done := by
  rw [sendBreak0]
  split
  · exact does_raise .off
  refine does_after (idle_ask fun _ => rfl) (fun _ => .off) fun fd =>
    does_request_bind fun set => ?_
  cases set with
  | error errno =>
      refine (throw_idle errno _).mono ?_
      rintro _ x rfl
      exact .off
  | ok on =>
      refine does_request_bind fun slept => ?_
      cases slept with
      | error errno => exact does_raise (.leftOn fd)
      | ok through =>
          refine does_request_bind fun cleared => ?_
          cases cleared with
          | error errno =>
              refine (throw_idle errno _).mono ?_
              rintro _ x rfl
              exact .ended fd
          | ok off => exact does_pure (.ended fd)

theorem sendBreak_does (duration : ℤ) :
    Does native (sendBreak errnoText duration) fun done _ => NativeBreak duration done := by
  have called : Does native (do
      let _ ← ask .begin
      sendBreak0 errnoText duration
      assign fun _ => true) fun done _ => NativeBreak duration done := by
    refine does_after (idle_ask fun _ => rfl) (fun _ => .off) fun begun => ?_
    refine does_bind (sendBreak0_does duration) (fun _ _ does => does)
      fun done _ does => does_assign ?_
    rwa [List.append_nil]
  refine does_after (does_assign rfl) (fun _ => .off) fun started => ?_
  refine does_tryFinally ?_ endBlocking_idle fun _ _ _ does => does
  refine does_tryCatch called (fun _ _ does => does) fun done e does => ?_
  split
  · refine does_after (does_assign rfl) (fun _ => ?_) fun _ => does_raise ?_
    · rwa [List.append_nil]
    · rwa [List.append_nil]
  · refine does_raise ?_
    rwa [List.append_nil]

end Native

section Java
open Jnhw.PosixSerialPortSocket (kernel breakCondition formatMsg isFdValid blocking complete)
open Interaction.Method (Does Idle does_pure does_raise does_locals does_assign does_request
  does_request_bind does_bind does_after does_tryFinally)
variable {portName : String} {duration : ℤ} {nee : Errno}

/-- Only the field `fd` is looked at. -/
def Looks (done : List BreakDeed) : Prop := ∀ deed ∈ done, ∃ fd, deed = .finds fd

theorem Looks.calm {done : List BreakDeed} (looks : Looks done) : Calm done :=
  fun deed member => .inl (looks deed member)

theorem looks_nil : Looks [] := fun _ member => absurd member List.not_mem_nil

theorem looks_cons {fd : ℤ} {done : List BreakDeed} (looks : Looks done) :
    Looks (.finds fd :: done) :=
  List.forall_mem_cons.mpr ⟨⟨fd, rfl⟩, looks⟩

theorem formatMsg_looks (formatString : String) :
    Does java (formatMsg portName nee formatString) fun done _ => Looks done := by
  refine does_request_bind fun fd => ?_
  split
  · exact does_pure (looks_cons looks_nil)
  · have checked : Does java isFdValid fun done _ => Looks done := by
      refine does_request_bind fun fd => does_request_bind fun flags => ?_
      cases flags with
      | ok valid => exact does_pure (looks_cons looks_nil)
      | error nee => exact does_pure (looks_cons looks_nil)
    refine does_bind checked (fun _ _ looks => looks_cons looks) fun done valid looks => ?_
    split
    · refine does_pure (looks_cons ?_)
      rwa [List.append_nil]
    · refine does_pure (looks_cons ?_)
      rwa [List.append_nil]

theorem blockingEnd_idle : Idle java Jnhw.PosixSerialPortSocket.endBlocking := by
  refine Idle.bind (does_locals fun _ => rfl) fun completed =>
    does_request_bind fun interrupted => ?_
  split
  · exact does_raise rfl
  · split
    · exact does_pure rfl
    · refine does_request_bind fun closed => ?_
      split
      · exact does_raise rfl
      · exact does_pure rfl

/-- A break condition is asked for once, on the descriptor that the field names;
an error is thrown. -/
theorem breakCondition_does (request : Ioctl) (formatString : String) :
    Does java (breakCondition portName request complete formatString) fun done x => ∃ fd : ℤ,
      (x = .ok () ∧ done = .finds fd :: (java ⟨.ioctl fd request, .ok ()⟩).toList) ∨
        (∃ e, x = .error e) ∧ ∃ nee looks, Looks looks ∧
          done = .finds fd :: (java ⟨.ioctl fd request, .error nee⟩).toList ++ looks := by
  refine does_request_bind fun fd => does_request_bind fun result => ?_
  cases result with
  | ok done => exact does_pure ⟨fd, .inl ⟨rfl, congrArg _ (List.append_nil _)⟩⟩
  | error nee =>
      refine does_after (does_assign rfl) (fun e => ⟨fd, .inr ⟨⟨e, rfl⟩, nee, [], looks_nil, rfl⟩⟩)
        fun completed => ?_
      refine does_bind (formatMsg_looks _) (fun looks e only =>
        ⟨fd, .inr ⟨⟨e, rfl⟩, nee, looks, only, rfl⟩⟩) ?_
      intro looks message only
      refine does_raise ⟨fd, .inr ⟨⟨_, rfl⟩, nee, looks, only, ?_⟩⟩
      rw [List.append_nil]
      rfl

theorem switchOff_does (formatString : String) :
    Does java (breakCondition portName .TIOCCBRK complete formatString) fun done _ =>
      ∃ fd looks, Looks looks ∧ done = .finds fd :: .switchesOff fd :: looks := by
  refine (breakCondition_does .TIOCCBRK formatString).mono ?_
  rintro _ x ⟨fd, ⟨-, rfl⟩ | ⟨-, nee, looks, only, rfl⟩⟩
  · exact ⟨fd, [], looks_nil, rfl⟩
  · exact ⟨fd, looks, only, rfl⟩

/-- A run that switches the break on asks for its end on the descriptor that the
field names then. -/
inductive JavaBreak (duration : ℤ) : List BreakDeed → Prop
  | off {looks : List BreakDeed} (only : Looks looks) : JavaBreak duration looks
  | ended (fd fd' : ℤ) (through : Bool) {looks : List BreakDeed} (only : Looks looks) :
      JavaBreak duration (.finds fd :: .switchedOn fd :: .slept (1000 * duration) through ::
      .finds fd' :: .switchesOff fd' :: looks)

theorem javaSendBreak_does (duration : ℤ) :
    Does java (Jnhw.PosixSerialPortSocket.sendBreak portName duration) fun done _ =>
      JavaBreak duration done := by
  rw [Jnhw.PosixSerialPortSocket.sendBreak]
  split
  · exact does_raise (.off looks_nil)
  refine does_after (does_assign rfl) (fun _ => .off looks_nil) fun started => ?_
  refine does_tryFinally ?_ blockingEnd_idle fun _ _ _ does => does
  refine does_request_bind fun begun => does_bind (breakCondition_does .TIOCSBRK _) ?_ ?_
  · rintro _ e ⟨fd, ⟨impossible, -⟩ | ⟨-, nee, looks, only, rfl⟩⟩
    · cases impossible
    · exact .off (looks_cons only)
  rintro _ u ⟨fd, ⟨-, rfl⟩ | ⟨⟨e, impossible⟩, -⟩⟩
  · refine does_request_bind fun interrupted => ?_
    split
    · refine does_bind (switchOff_does _) ?_ ?_
      · rintro _ e ⟨fd', looks, only, rfl⟩
        exact .ended fd fd' _ only
      · rintro _ off ⟨fd', looks, only, rfl⟩
        refine does_after (does_assign rfl) (fun _ => ?_) fun _ => does_raise ?_
        · rw [List.append_nil]
          exact .ended fd fd' _ only
        · rw [List.append_nil]
          exact .ended fd fd' _ only
    · refine does_bind (switchOff_does _) ?_ ?_
      · rintro _ e ⟨fd', looks, only, rfl⟩
        exact .ended fd fd' _ only
      · rintro _ off ⟨fd', looks, only, rfl⟩
        refine does_assign ?_
        rw [List.append_nil]
        exact .ended fd fd' _ only
  · cases impossible

theorem JavaBreak.holds_iff {done : List BreakDeed} (does : JavaBreak duration done) :
    HoldsBreak duration done ↔ StillNamed done := by
  cases does with
  | off only => exact iff_of_true (holds_calm only.calm) (stillNamed_calm only.calm)
  | @ended fd fd' through looks only =>
      have first : Calm [.finds fd] := (looks_cons looks_nil).calm
      have last : Calm (.switchesOff fd' :: looks) := only.calm.cons (.inr ⟨fd', rfl⟩)
      have late : Calm (.finds fd' :: .switchesOff fd' :: looks) := last.cons (.inl ⟨fd', rfl⟩)
      refine (SendBreak.holds_iff first late).trans (Iff.trans ?_ (stillNamed_iff first last).symm)
      constructor
      · rintro ⟨-, off⟩
        simp only [List.mem_cons, reduceCtorEq, BreakDeed.switchesOff.injEq, false_or] at off
        rcases off with same | other
        · exact same.symm
        · obtain ⟨other, impossible⟩ := only _ other
          cases impossible
      · rintro rfl
        exact ⟨rfl, by simp⟩

end Java

section Windows
open WinApiIO (winApi)
open Interaction.Method (Does Idle does_pure does_raise does_assign does_request does_request_bind)
variable {portName : String} {duration : ℤ}

/-- The calls of the native library on Windows. -/
def windows : Event winApi → Option BreakDeed
  | ⟨.SetCommBreak hFile, .ok ()⟩ => some (.switchedOn hFile)
  | ⟨.ClearCommBreak hFile, _⟩ => some (.switchesOff hFile)
  | ⟨.Sleep milliseconds, ()⟩ => some (.slept (1000 * milliseconds) true)
  | _ => none

theorem throwWindows_idle (errno : ℕ) (message : String) :
    Idle windows ( WinApiIO.throw_ClosedOrNativeException portName errno message) :=
  does_request_bind fun _ => does_assign rfl

theorem windowsSendBreak0_does (duration : ℤ) :
    Does windows ( WinApiIO.sendBreak0 portName duration) fun done _ =>
      done = [] ∨ ∃ hFile, done = [.switchedOn hFile, .slept (1000 * duration) true,
          .switchesOff hFile] := by
  unfold WinApiIO.sendBreak0
  split
  · exact does_assign (.inl rfl)
  refine does_request_bind fun hFile => does_request_bind fun started => ?_
  cases started with
  | error errno =>
      refine (throwWindows_idle errno _).mono ?_
      rintro _ x rfl
      exact .inl rfl
  | ok on =>
      refine does_request_bind fun slept => does_request_bind fun cleared => ?_
      cases cleared with
      | error errno =>
          refine (throwWindows_idle errno _).mono ?_
          rintro _ x rfl
          exact .inr ⟨hFile, rfl⟩
      | ok off => exact does_pure (.inr ⟨hFile, rfl⟩)

/-- `Sleep` does not fail, and the handle is read once: on Windows the native library always
holds the break and asks for its end. -/
theorem windowsSendBreak0_holds {h : History winApi} {env env' : TermiosIO.Env} {x : Except ℤ Unit}
    (returns : Returns ( WinApiIO.sendBreak0 portName duration env) h (x, env')) :
    HoldsBreak duration (Method.counted windows h) := by
  rcases (windowsSendBreak0_does duration).returns returns with none | ⟨hFile, ended⟩
  · rw [none]
    exact holds_calm calm_nil
  · rw [ended]
    have off : Calm [.switchesOff hFile] := calm_nil.cons (.inr ⟨hFile, rfl⟩)
    exact (holds_iff calm_nil off).mpr ⟨rfl, List.mem_cons_self⟩

end Windows

section Runs
open Interaction.Method (counted Does)
variable {h : History system} {duration : ℤ}

/-- `TIOCSBRK` has been accepted. -/
def SwitchedOn (h : History system) : Prop :=
  ∃ fd, (⟨.ioctl fd .TIOCSBRK, .ok ()⟩ : Event system) ∈ h

/-- `usleep` has returned an error, as it does where a signal interrupts it. -/
def SleepFailed (h : History system) : Prop :=
  ∃ usec errno, (⟨.usleep usec, .error errno⟩ : Event system) ∈ h

theorem switchedOn_iff : SwitchedOn h ↔ ∃ fd, .switchedOn fd ∈ counted native h := by
  constructor
  · rintro ⟨fd, member⟩
    exact ⟨fd, List.mem_filterMap.mpr ⟨_, member, rfl⟩⟩
  · rintro ⟨fd, on⟩
    obtain ⟨ev, member, counts⟩ := List.mem_filterMap.mp on
    unfold native at counts
    split at counts <;> cases counts
    exact ⟨fd, member⟩

theorem sleepFailed_iff : SleepFailed h ↔ ∃ micros, .slept micros false ∈ counted native h := by
  constructor
  · rintro ⟨usec, errno, member⟩
    exact ⟨_, List.mem_filterMap.mpr ⟨_, member, rfl⟩⟩
  · rintro ⟨micros, asked⟩
    obtain ⟨ev, member, counts⟩ := List.mem_filterMap.mp asked
    unfold native at counts
    split at counts <;> cases counts
    exact ⟨_, _, member⟩

/-- The microseconds that are asked for are those of the duration where they fit into 32 bits. -/
theorem asked_iff (positive : 1 ≤ duration) (int : duration < 2 ^ 31) :
    asked duration = 1000 * duration ↔ duration * 1000 < 2 ^ 32 := by
  obtain ⟨n, rfl⟩ := Int.eq_ofNat_of_zero_le (Int.le_trans Int.one_nonneg positive)
  have value : (BitVec.ofInt 32 (n : ℤ) * 1000).toNat = n * 1000 % 2 ^ 32 := by
    rw [BitVec.ofInt_natCast, BitVec.toNat_mul, BitVec.toNat_ofNat, Nat.mod_mul_mod]
    rfl
  rw [asked, value]
  omega

end Runs

/-- Whatever the system answers, the other provider holds and ends the break where the field still
names its descriptor when the sleep is over; the native library does where, once the break is on,
the sleep does not fail and its microseconds fit into 32 bits. -/
theorem sendBreak_iff (errnoText : Errno → String) (portName : String) (duration : ℤ)
    (positive : 1 ≤ duration) (int : duration < 2 ^ 31) :
    (∀ h completed out,
      Returns (Jnhw.PosixSerialPortSocket.sendBreak portName duration completed) h out →
      (HoldsBreak duration (Method.counted java h) ↔ StillNamed (Method.counted java h))) ∧
    (∀ h completed out, Returns (sendBreak errnoText duration completed) h out →
      (HoldsBreak duration (Method.counted native h) ↔
        (SwitchedOn h → ¬SleepFailed h ∧ duration * 1000 < 2 ^ 32))) := by
  constructor
  · rintro h completed ⟨x, completed'⟩ returns
    exact ((javaSendBreak_does duration).returns returns).holds_iff
  · rintro h completed ⟨x, completed'⟩ returns
    have does := (sendBreak_does duration).returns returns
    rw [switchedOn_iff, sleepFailed_iff]
    generalize Method.counted native h = done at does
    cases does with
    | off => exact iff_of_true (holds_calm calm_nil) (by simp)
    | leftOn fd =>
        refine iff_of_false (fun holds => ?_) fun condition => ?_
        · exact absurd ((holds_iff calm_nil calm_nil).mp holds).2 List.not_mem_nil
        · exact (condition ⟨fd, List.mem_cons_self⟩).1 ⟨asked duration, by simp⟩
    | ended fd =>
        have off : Calm [.switchesOff fd] := calm_nil.cons (.inr ⟨fd, rfl⟩)
        refine (holds_iff calm_nil off).trans ?_
        rw [asked_iff positive int]
        simp

/-- A break of 100 ms, with calls that all succeed. -/
theorem sendBreak_100 :
    (∃ h, Returns (Jnhw.PosixSerialPortSocket.sendBreak "ttyS0" 100 false) h (.ok (), true) ∧
      HoldsBreak 100 (Method.counted java h)) ∧
    ∃ h, Returns (sendBreak Errno.getErrnoSymbol 100 false) h (.ok (), true) ∧ SwitchedOn h ∧
      HoldsBreak 100 (Method.counted native h) := by
  have both := sendBreak_iff Errno.getErrnoSymbol "ttyS0" 100 (by decide) (by decide)
  constructor
  · have returns : Returns (Jnhw.PosixSerialPortSocket.sendBreak "ttyS0" 100 false)
        [⟨.begin, ()⟩, ⟨.get .fd, (5 : ℤ)⟩, ⟨.ioctl 5 .TIOCSBRK, .ok ()⟩,
          ⟨.sleep 100, false⟩, ⟨.get .fd, (5 : ℤ)⟩, ⟨.ioctl 5 .TIOCCBRK, .ok ()⟩,
          ⟨.interrupted, false⟩] (.ok (), true) :=
      .event (.ask _ _ _) (.event (.ask _ _ _) (.event (.ask _ _ _) (.event (.ask _ _ _)
        (.event (.ask _ _ _) (.event (.ask _ _ _) (.event (.ask _ _ _) (.refl _)))))))
    have off : Calm [.switchesOff 5] := calm_nil.cons (.inr ⟨5, rfl⟩)
    have named : StillNamed ([.finds 5] ++ .switchedOn 5 :: .slept 100000 true :: .finds 5 ::
        [.switchesOff 5]) ↔ (5 : ℤ) = 5 := stillNamed_iff (looks_cons looks_nil).calm off
    exact ⟨_, returns, (both.1 _ _ _ returns).mpr (named.mpr rfl)⟩
  · have returns : Returns (sendBreak Errno.getErrnoSymbol 100 false)
        [⟨.begin, ()⟩, ⟨.getFd, (5 : ℤ)⟩, ⟨.ioctl 5 .TIOCSBRK, .ok ()⟩, ⟨.usleep 100000, .ok ()⟩,
          ⟨.ioctl 5 .TIOCCBRK, .ok ()⟩, ⟨.interrupted, false⟩] (.ok (), true) :=
      .event (.ask _ _ _) (.event (.ask _ _ _) (.event (.ask _ _ _) (.event (.ask _ _ _)
        (.event (.ask _ _ _) (.event (.ask _ _ _) (.refl _))))))
    refine ⟨_, returns, ⟨5, List.mem_cons_of_mem _ (List.mem_cons_of_mem _ List.mem_cons_self)⟩,
      (both.2 _ _ _ returns).mpr fun _ => ⟨?_, by decide⟩⟩
    rw [sleepFailed_iff]
    rintro ⟨micros, member⟩
    simp [Method.counted, native] at member

/-- A signal interrupts `usleep`, and the break is left on. The other provider leaves it on where
its thread is interrupted: that closes the channel, and the field names no descriptor any more. -/
theorem sendBreak_interrupted :
    (∃ h, Returns (sendBreak Errno.getErrnoSymbol 100 false) h
        (.error (.runtimeException "Error sendBreak usleep failed"), false) ∧
      SwitchedOn h ∧ ¬HoldsBreak 100 (Method.counted native h)) ∧
    ∃ h, Returns (Jnhw.PosixSerialPortSocket.sendBreak "ttyS0" 100 false) h
      (.error .closedByInterruptException, true) ∧
      ¬HoldsBreak 100 (Method.counted java h) := by
  constructor
  · have returns : Returns (sendBreak Errno.getErrnoSymbol 100 false)
        [⟨.begin, ()⟩, ⟨.getFd, (5 : ℤ)⟩, ⟨.ioctl 5 .TIOCSBRK, .ok ()⟩,
          ⟨.usleep 100000, .error (.other "EINTR")⟩, ⟨.interrupted, false⟩, ⟨.channelClosed, false⟩]
        (.error (.runtimeException "Error sendBreak usleep failed"), false) :=
      .event (.ask _ _ _) (.event (.ask _ _ _) (.event (.ask _ _ _) (.event (.ask _ _ _)
        (.event (.ask _ _ _) (.event (.ask _ _ _) (.refl _))))))
    refine ⟨_, returns, ⟨5, List.mem_cons_of_mem _ (List.mem_cons_of_mem _ List.mem_cons_self)⟩,
      fun holds => ?_⟩
    have off := holds.ends [] [.slept 100000 false] 5 rfl
    simp at off
  · have returns : Returns (Jnhw.PosixSerialPortSocket.sendBreak "ttyS0" 100 false)
        [⟨.begin, ()⟩, ⟨.get .fd, (5 : ℤ)⟩, ⟨.ioctl 5 .TIOCSBRK, .ok ()⟩,
          ⟨.sleep 100, true⟩, ⟨.get .fd, (-1 : ℤ)⟩, ⟨.ioctl (-1) .TIOCCBRK, .error .EBADF⟩,
          ⟨.get .fd, (-1 : ℤ)⟩, ⟨.interrupted, true⟩] (.error .closedByInterruptException, true) :=
      .event (.ask _ _ _) (.event (.ask _ _ _) (.event (.ask _ _ _) (.event (.ask _ _ _)
        (.event (.ask _ _ _) (.event (.ask _ _ _) (.event (.ask _ _ _) (.event (.ask _ _ _)
        (.refl _))))))))
    refine ⟨_, returns, fun holds => ?_⟩
    have off := holds.ends [.finds 5] [.slept 100000 false, .finds (-1),
      .switchesOff (-1), .finds (-1)] 5 rfl
    simp at off

end Spsw.Jni.SendBreak

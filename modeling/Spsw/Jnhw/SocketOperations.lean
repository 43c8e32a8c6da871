import Spsw.Jnhw.Devices
import Spsw.Jnhw.PosixSerialPortSocket
import Spsw.Jnhw.Read
import Spsw.Jnhw.Write

/-!
# The operations of a `PosixSerialPortSocket`

Reads and writes find their descriptor in the field, the configuration methods in the
field of the configuration. The rest is here, with its descriptors. On a socket that is
closed no read or write comes as far as a `poll`.
-/
namespace Spsw.Jnhw.PosixSerialPortSocket
open Interaction
open Interaction.Method (mwp mwp_mono raise assign locals tryFinally)

/-- `end(completed)` -/
def endBlocking : Action Unit := do
  let completed ← locals
  let interrupted ← ask .interrupted
  if interrupted = true then raise .closedByInterruptException
  else if completed = true then pure ()
  else do
    let closed ← ask .channelClosed
    if closed = true then raise .asynchronousCloseException else pure ()

/-- `boolean completed = false; try { begin(); body } finally { end(completed); }` -/
def blocking (body : Action Unit) : Action Unit := do
  assign fun _ => false
  tryFinally (do let _ ← ask .begin; body) endBlocking

def complete : Action Unit := assign fun _ => true

def isFdValid : Action Bool := do
  let fd ← get .fd
  let flags ← ask (.fcntl fd .F_GETFL)
  match flags with
  | .ok () => pure true
  | .error _ => pure false

def formatMsg (portName : String) (nee : Errno) (formatString : String) : Action String := do
  let fd ← get .fd
  if fd = INVALID_FD then pure PORT_IS_CLOSED
  else do
    let valid ← isFdValid
    if valid = true then
      pure ("Native port error on " ++ portName ++ ", \"" ++ nee.getErrnoSymbol ++
        "\" " ++ formatString)
    else pure PORT_FD_INVALID

/-- `ioctl(fd, request)`; an error is thrown with `formatString` once
`completed` is set, if it is. -/
def breakCondition (portName : String) (request : Ioctl) (completing : Action Unit)
    (formatString : String) :
    Action Unit := do
  let fd ← get .fd
  let result ← ask (.ioctl fd request)
  match result with
  | .ok () => pure ()
  | .error nee => do
      completing
      let message ← formatMsg portName nee formatString
      raise (.ioException message)

def sendBreak (portName : String) (duration : ℤ) : Action Unit :=
  if duration ≤ 0 then
    raise (.illegalArgumentException "sendBreak duration must be greater than 0)")
  else blocking (do
    breakCondition portName .TIOCSBRK complete "Can't set Break "
    let interrupted ← ask (.sleep duration)
    if interrupted = true then do
      breakCondition portName .TIOCCBRK complete "Can't clear Break after aborted wait"
      complete
      raise (.runtimeException "Wait interrupted")
    else do
      breakCondition portName .TIOCCBRK complete "Can't clear Break "
      complete)

def setBreak (portName : String) (enabled : Bool) : Action Unit :=
  breakCondition portName (if enabled = true then .TIOCSBRK
    else .TIOCCBRK) (pure ()) "Can't set Break "

/-- What `drainOutputBuffer` makes of the events of its `poll`. -/
def checkDrainable (port cancel : BitVec 16) : Action Unit :=
  if cancel = POLLIN then raise (.ioException PORT_IS_CLOSED)
  else if port = POLLOUT then pure ()
  else if port &&& POLLHUP = POLLHUP then raise (.ioException PORT_FD_INVALID)
  else if port &&& POLLNVAL = POLLNVAL then do
    complete
    let fd ← get .fd
    if fd = INVALID_FD then
      raise .asynchronousCloseException else raise .asynchronousCancelException
  else do
    let fd ← get .fd
    if fd = INVALID_FD then raise (.ioException PORT_IS_CLOSED)
    else raise (.ioException
      "drainOutputBuffer poll => : received unexpected event and port not closed")

/-- The `poll` is made on the descriptors in the poll set, not on the one in the field. -/
def drainOutputBuffer (portName : String) (pollWriteTimeout : ℤ) : Action Unit :=
  blocking (do
    let port ← get (.pollPortFd .write)
    let cancel ← get (.pollCancelFd .write)
    let polled ← ask (.poll port cancel pollWriteTimeout)
    match polled with
    | .error nee => do
        let message ← formatMsg portName nee "drainOutputBuffer poll: Error during poll "
        raise (.ioException message)
    | .ok .timeout => raise (.timeoutIOException 0)
    | .ok (.ready portEvents cancelEvents) => checkDrainable portEvents cancelEvents
    let fd ← get .fd
    let drained ← ask (.tcdrain fd)
    complete
    match drained with
    | .ok () => pure ()
    | .error nee => do
        let message ← formatMsg portName nee "Can't drain the output buffer "
        raise (.ioException message))

/-- The calls that find the descriptor in the field. -/
inductive Transfer where
  | read (s : Socket) (f : Frame)
  | readByte (s : Socket) (f : Frame)
  | write (s : Socket) (f : Frame)
  | writeByte (s : Socket) (f : Frame) (b : UInt8)

def Transfer.program : Transfer → Program posix (Except JavaException ℤ × Frame)
  | .read s f => Jnhw.read s f
  | .readByte s f => Jnhw.readByte s f
  | .write s f => Jnhw.write s f
  | .writeByte s f b => Jnhw.writeByte s b f

/-- The calls with descriptors of their own. -/
inductive DirectCall where
  | sendBreak (portName : String) (duration : ℤ)
  | setBreak (portName : String) (enabled : Bool)
  | drainOutputBuffer (portName : String) (pollWriteTimeout : ℤ)

def DirectCall.action : DirectCall → Action Unit
  | .sendBreak portName duration => PosixSerialPortSocket.sendBreak portName duration
  | .setBreak portName enabled => PosixSerialPortSocket.setBreak portName enabled
  | .drainOutputBuffer portName pollWriteTimeout =>
      PosixSerialPortSocket.drainOutputBuffer portName pollWriteTimeout

inductive SocketOperation where
  | transfer (call : Transfer)
  | configure (op : ConfigurationMethod)
  | direct (call : DirectCall)
  | close

/-- The calls that poll the descriptors in the poll sets, whatever the field says. -/
def SocketOperation.polls : SocketOperation → Bool
  | .transfer _ | .direct (.drainOutputBuffer _ _) => true
  | _ => false

section Shut

/-- What a closed socket answers: no descriptor, and a field that says so. -/
def shut : Event posix → Prop
  | ⟨.read _, r⟩ => r = .error .EBADF
  | ⟨.write _, r⟩ => r = .error .EBADF
  | ⟨.fdIsInvalid, invalid⟩ => invalid = true
  | _ => True

def polls : Event posix → Bool
  | ⟨.poll _ _, _⟩ => true
  | _ => false

/-- Nothing was polled if the socket has been closed all the time. -/
def Unpolled (h : History posix) : Prop := (∀ ev ∈ h, shut ev) → ∀ ev ∈ h, polls ev = false

variable {h : History posix} {f : Frame} {ev : Event posix}

/-- Something was answered as only an open socket answers. -/
def Opened (h : History posix) : Prop := ∃ ev ∈ h, ¬shut ev

theorem opened_snoc (other : ¬shut ev) : Opened (h ++ [ev]) :=
  ⟨ev, List.mem_append_right h (List.mem_singleton_self ev), other⟩

theorem mwp_opened {α : Type} {m : Call α}
    {post : History posix → Frame → Except JavaException α → Prop} (opened : Opened h)
    (weak : ∀ h f x, Opened h → post h f x) : mwp Unpolled h f m post := by
  obtain ⟨ev, member, other⟩ := opened
  intro t q run
  have here : ev ∈ h ++ t := List.mem_append_left t member
  exact ⟨fun _ closed => absurd (closed ev here) other, fun _ _ => weak _ _ _ ⟨ev, here, other⟩⟩

theorem unpolled_snoc (unpolled : Unpolled h) (still : polls ev = false) :
    Unpolled (h ++ [ev]) := by
  intro closed ev' member
  rcases List.mem_append.mp member with old | new
  · exact unpolled (fun ev member => closed ev (List.mem_append_left _ member)) ev' old
  · rw [List.mem_singleton.mp new]
    exact still

theorem unpolled_nil : Unpolled [] := fun _ _ member => absurd member List.not_mem_nil

/-- Nothing is left to do on a closed socket. -/
def Stops {α : Type} (h : History posix) (_ : Frame) (x : Except JavaException α) : Prop :=
  Opened h ∨ ∃ e, x = .error e

section Attempts
variable {α : Type} {m : Call α}

theorem answered_stops (other : ¬shut ev) : mwp Unpolled (h ++ [ev]) f m Stops :=
  mwp_opened (opened_snoc other) fun _ _ _ opened => .inl opened

/-- A failed attempt looks at the field first. -/
theorem found_stops {e : JavaException} (unpolled : Unpolled h) : mwp Unpolled h f (do
    let invalid ← fdIsInvalid
    if invalid = true then raise e else m) Stops := by
  simp only [fdIsInvalid, Method.mwp_bind, mwp_ask, Method.rest_ok]
  refine fun invalid => ⟨unpolled_snoc unpolled rfl, ?_⟩
  cases invalid with
  | true => exact Method.mwp_raise.mpr (.inr ⟨e, rfl⟩)
  | false => exact answered_stops (by simp [shut])

theorem Stops.bind {β : Type} {next : α → Call β} (first : mwp Unpolled h f m Stops) :
    mwp Unpolled h f (m >>= next) Stops := by
  rw [Method.mwp_bind]
  apply mwp_mono first
  rintro h' f' (e | a) (opened | ⟨e', same⟩)
  · exact .inr ⟨e, rfl⟩
  · exact .inr ⟨e, rfl⟩
  · exact mwp_opened opened fun _ _ _ opened => .inl opened
  · cases same

theorem read_stops {next : Except Errno ℕ → Call α}
    (fails : ∀ nee, mwp Unpolled [⟨.read f.buffer.remaining, .error nee⟩] f
    (next (.error nee)) Stops) :
    mwp Unpolled [] f (Unistd.read >>= next) Stops := by
  rw [Method.mwp_bind, mwp_read]
  have unpolled : ∀ r, Unpolled ([] ++ [⟨.read f.buffer.remaining, r⟩]) :=
    fun r => unpolled_snoc unpolled_nil rfl
  exact ⟨fun bytes => ⟨unpolled _,
    answered_stops (by simp [shut])⟩, fun nee => ⟨unpolled _, fails nee⟩⟩

theorem write_stops {next : Except Errno ℕ → Call α}
    (fails : ∀ nee, mwp Unpolled [⟨.write f.buffer.pending, .error nee⟩] f
    (next (.error nee)) Stops) :
    mwp Unpolled [] f (Unistd.write >>= next) Stops := by
  rw [Method.mwp_bind, mwp_write]
  have unpolled : ∀ r, Unpolled ([] ++ [⟨.write f.buffer.pending, r⟩]) :=
    fun r => unpolled_snoc unpolled_nil rfl
  exact ⟨fun k => ⟨unpolled _, answered_stops (by simp [shut])⟩, fun nee => ⟨unpolled _, fails nee⟩⟩

end Attempts

theorem read_unpolled (s : Socket) : mwp Unpolled [] f (Jnhw.read s) (fun _ _ _ => True) := by
  rw [Jnhw.read, Method.mwp_bind, Method.mwp_locals, Method.rest_ok]
  split
  · refine mwp_mono (Stops.bind (read_stops fun nee => ?_)) fun _ _ _ _ => trivial
    exact found_stops (unpolled_snoc unpolled_nil rfl)
  · exact Method.mwp_pure.mpr trivial

theorem readByte_unpolled (s : Socket) : mwp Unpolled [] f (readByte s) Stops := by
  rw [readByte, Method.mwp_bind, fetch, mwp_ask]
  refine fun attempt => ⟨unpolled_snoc unpolled_nil rfl, ?_⟩
  cases attempt with
  | ok bytes => exact answered_stops (by simp [shut])
  | error nee => exact found_stops (unpolled_snoc unpolled_nil rfl)

theorem write_unpolled (s : Socket) : mwp Unpolled [] f (Jnhw.write s) (fun _ _ _ => True) := by
  rw [Jnhw.write, Method.mwp_bind, Method.mwp_locals, Method.rest_ok]
  split
  · refine mwp_mono (write_stops fun nee => ?_) fun _ _ _ _ => trivial
    by_cases again : nee = .EAGAIN
    · subst again
      exact answered_stops (h := []) (by simp [shut])
    · simp only [if_neg again]
      exact found_stops (unpolled_snoc unpolled_nil rfl)
  · exact Method.mwp_pure.mpr trivial

theorem writeByte_unpolled (s : Socket) (b : UInt8) : mwp Unpolled [] f (writeByte s b) Stops := by
  rw [writeByte, Method.mwp_bind, offer, mwp_ask]
  refine fun attempt => ⟨unpolled_snoc unpolled_nil rfl, ?_⟩
  cases attempt with
  | ok k => exact answered_stops (by simp [shut])
  | error nee =>
      simp only [Method.rest_ok]
      split
      · next again => exact answered_stops (by simp [again, shut])
      · exact found_stops (unpolled_snoc unpolled_nil rfl)

/-- No read or write on a closed socket comes as far as a `poll`. -/
theorem transfer_unpolled (call : Transfer) : wp Unpolled [] call.program (fun _ _ => True) := by
  cases call with
  | read s f => exact read_unpolled s
  | readByte s f => exact wp_mono (readByte_unpolled s) fun _ _ _ => trivial
  | write s f => exact write_unpolled s
  | writeByte s f b => exact wp_mono (writeByte_unpolled s b) fun _ _ _ => trivial

end Shut
end Spsw.Jnhw.PosixSerialPortSocket

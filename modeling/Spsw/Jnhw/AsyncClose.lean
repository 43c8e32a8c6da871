import Mathlib.Logic.Function.Basic
import Spsw.Api.Timeouts
import Spsw.Jnhw.Devices

/-!
# Closed asynchronous sockets

A `PosixAsyncSerialPortSocket` keeps the number of its descriptor in two places: its
own field, and its configuration. `implCloseChannel` clears the field only. The system
may give the number to the next port that is opened, and the configuration of the
closed socket then works on that port.
-/
namespace Spsw.Jnhw
open JavaException (ioException illegalArgumentException)
open Stateful

namespace AsyncClose
variable {ι : Type} [DecidableEq ι]

/-- `fdCleaner` is the number that the cleaner would close. -/
structure Socket where
  portName : String
  fd : ℤ
  posixConfiguration : PosixConfiguration
  fdCleaner : ℤ
  timeouts : PollTimeouts

/-- The methods of `SerialPortConfiguration` that do not block, and `termiosToString`. The
write semaphore may be acquired, or the wait for it interrupted. -/
inductive Operation where
  | configure (method : ConfigurationMethod)
  | getInterByteReadTimeout | getOverallReadTimeout | getOverallWriteTimeout
  | setTimeouts (call : SetTimeouts)
  | setBreak (acquired enabled : Bool)
  | sendXOFF | sendXON

namespace Socket
variable (socket : Socket)

/-- The socket of a constructor that has returned. -/
def opened (portName : String) (fd : ℤ) : Socket := ⟨portName, fd, ⟨portName, fd⟩, fd, {}⟩

def isFdValid : Operating Bool := do
  let devices ← get
  pure (devices socket.fd).isSome

def formatMsg (nee : Errno) (formatString : String) : Operating String :=
  if socket.fd = INVALID_FD then pure PORT_IS_CLOSED
  else do
    let valid ← socket.isFdValid
    if valid = true then
      pure ("Native port error on " ++ socket.portName ++ ", \"" ++ nee.getErrnoSymbol ++
        "\" " ++ formatString)
    else pure PORT_FD_INVALID

def setBreak (acquired enabled : Bool) : Operating Unit :=
  if acquired = true then do
    let result ← ioctlBreak socket.fd enabled
    match result with
    | .ok () => pure ()
    | .error nee => do
        let message ← socket.formatMsg nee "Can't set Break "
        throw (ioException message)
  else throw (.causedBy .interruptedException)

/-- A method that looks at the timeouts alone. -/
def timing {α : Type} (m : EStateM JavaException PollTimeouts α) : Operating Socket :=
  match m socket.timeouts with
  | .ok _ timeouts => pure { socket with timeouts := timeouts }
  | .error e _ => throw e

/-- A method that leaves the fields of the socket as they are. -/
def keeping (m : Operating Unit) : Operating Socket := do
  m
  pure socket

/-- The devices and the socket after a method. -/
def operate (p : Platform) (driver : Driver) (lines : LineFlags) : Operation → Operating Socket
  | .configure method => socket.keeping (socket.posixConfiguration.operate p driver lines method)
  | .getInterByteReadTimeout => socket.timing PollTimeouts.socket.getInterByteReadTimeout
  | .getOverallReadTimeout => socket.timing PollTimeouts.socket.getOverallReadTimeout
  | .getOverallWriteTimeout => socket.timing PollTimeouts.socket.getOverallWriteTimeout
  | .setTimeouts call => socket.timing (PollTimeouts.socket.perform call)
  | .setBreak acquired enabled => socket.keeping (socket.setBreak acquired enabled)
  | .sendXOFF => throw (illegalArgumentException "sendXOFF not implemented yet")
  | .sendXON => throw (illegalArgumentException "sendXON not implemented yet")

end Socket

/-- The sockets of a process, and the devices behind its descriptors. -/
structure Process (ι : Type) where
  sockets : ι → Option Socket
  devices : Devices

/-- What `Unistd.close` comes to: a `close` that fails may leave the descriptor open. -/
inductive Closing where
  | released
  | failed (stillOpen : Bool)
  deriving DecidableEq

inductive Action (ι : Type) where
  | open (i : ι) (portName : String) (fd : ℤ) (device : Device)
  | close (i : ι) (closing : Closing)
  | operate (i : ι) (op : Operation)

/-- Nothing is open yet. -/
def Process.initial : Process ι := ⟨fun _ => none, fun _ => none⟩

/-- The constructor has returned: the system chose the number, the device is as it is. -/
def Process.opened (s : Process ι) (i : ι) (portName : String) (fd : ℤ) (device : Device) :
    Process ι where
  sockets := Function.update s.sockets i (some (.opened portName fd))
  devices := Function.update s.devices fd (some device)

/-- `implCloseChannel`: the configuration keeps the number, and where `close` fails, which is
only logged, the cleaner does so too. -/
def Process.closed (s : Process ι) (i : ι) (socket : Socket) (closing : Closing) : Process ι :=
  if socket.fd ≠ INVALID_FD then
    match closing with
    | .released =>
        { sockets := Function.update s.sockets i
            (some { socket with fd := INVALID_FD, fdCleaner := INVALID_FD })
          devices := Function.update s.devices socket.fd none }
    | .failed stillOpen =>
        { sockets := Function.update s.sockets i (some { socket with fd := INVALID_FD })
          devices :=
            if stillOpen = true then s.devices else Function.update s.devices socket.fd none }
  else s

section Steps
variable (p : Platform) (driver : Driver) (lines : LineFlags)

/-- A number is given only while it is not the one of an open port. -/
inductive Step : Process ι → Action ι → Process ι → Prop
  | opened {s : Process ι} {i : ι} {portName : String} {fd : ℤ} {device : Device}
      (unused : s.sockets i = none) (valid : fd ≠ INVALID_FD) (free : s.devices fd = none) :
      Step s (.open i portName fd device) (s.opened i portName fd device)
  | closed {s : Process ι} {i : ι} {socket : Socket} {closing : Closing}
      (there : s.sockets i = some socket) :
      Step s (.close i closing) (s.closed i socket closing)
  | returned {s : Process ι} {i : ι} {op : Operation} {socket socket' : Socket} {devices : Devices}
      (there : s.sockets i = some socket)
      (result : socket.operate p driver lines op s.devices = .ok socket' devices) :
      Step s (.operate i op) ⟨Function.update s.sockets i (some socket'), devices⟩
  | thrown {s : Process ι} {i : ι} {op : Operation} {socket : Socket}
      {e : JavaException} {devices : Devices} (there : s.sockets i = some socket)
      (result : socket.operate p driver lines op s.devices = .error e devices) :
      Step s (.operate i op) { s with devices := devices }

/-- A run, with the state in which each action is taken. -/
inductive Run : Process ι → List (Process ι × Action ι) → Process ι → Prop
  | nil (s : Process ι) : Run s [] s
  | cons {s s' s'' : Process ι} {action : Action ι} {trace : List (Process ι × Action ι)} :
      Step p driver lines s action s' → Run s' trace s'' → Run s ((s, action) :: trace) s''

/-- A method called on a closed socket throws an `IOException`, leaves all devices as they
are, and does so whatever the devices hold. -/
def Untouching (s : Process ι) : Action ι → Prop
  | .operate i op => ∀ socket, s.sockets i = some socket → socket.fd = INVALID_FD →
      ∃ e, e.isIOException = true ∧ ∀ devices, SameNumbers s.devices devices →
        socket.operate p driver lines op devices = .error e devices
  | _ => True

end Steps

/-- The method comes to a system call: it is not one of the four that look at the timeouts in
the fields of the socket, nor one of the two that are not implemented. -/
def Operation.calls : Operation → Bool
  | .configure _ | .setBreak _ _ => true
  | _ => false

/-- The number is the one of an open socket. -/
def Reused (s : Process ι) (fd : ℤ) : Prop := ∃ i socket, s.sockets i = some socket ∧ socket.fd = fd

/-- The number is still open since the `close` of a closed socket has failed. -/
def LeftOpen (s : Process ι) (fd : ℤ) : Prop :=
  (s.devices fd).isSome = true ∧
    ∃ i socket, s.sockets i = some socket ∧ socket.fd = INVALID_FD ∧ socket.fdCleaner = fd

/-- A method is called on a closed socket only if it comes to a system call, and while the old
number is neither reused nor left open if it goes to the configuration. -/
def Refusable (s : Process ι) : Action ι → Prop
  | .operate i op =>
      ∀ socket, s.sockets i = some socket → socket.fd = INVALID_FD → op.calls = true ∧
      ∀ method, op = .configure method →
        ¬Reused s socket.posixConfiguration.fd ∧ ¬LeftOpen s socket.posixConfiguration.fd
  | _ => True

/-- Every open device belongs to a socket that is open or has failed to close it, and `-1` is
no descriptor. -/
structure Owned (s : Process ι) : Prop where
  owner : ∀ fd, (s.devices fd).isSome = true → Reused s fd ∨ LeftOpen s fd
  invalid : s.devices INVALID_FD = none
  cleaned : ∀ i socket, s.sockets i = some socket → socket.fd ≠ INVALID_FD →
    socket.fdCleaner = socket.fd

section Calls
variable {p : Platform} {driver : Driver} {lines : LineFlags} {socket socket' : Socket}
  {devices devices' : Devices} {op : Operation}

theorem SameNumbers.none (same : SameNumbers devices devices') {fd : ℤ}
    (nothing : devices fd = none) :
    devices' fd = none := by
  have here := same fd
  rw [nothing] at here
  exact Option.not_isSome_iff_eq_none.mp (Bool.eq_false_iff.mp here)

/-- A method that comes to a system call throws on a closed socket whose number is not open. -/
theorem operate_untouching (closed : socket.fd = INVALID_FD) (calls : op.calls = true)
    (invalid : devices INVALID_FD = none)
    (gone : ∀ method, op = .configure method → devices socket.posixConfiguration.fd = none) :
    ∃ e, e.isIOException = true ∧ ∀ devices', SameNumbers devices devices' →
      socket.operate p driver lines op devices' = .error e devices' := by
  cases op with
  | configure method =>
      refine ⟨ioException socket.posixConfiguration.closedMessage, rfl, fun devices' same => ?_⟩
      exact bind_of_error (operate_closed (SameNumbers.none same (gone method rfl)) method)
  | setBreak acquired enabled =>
      cases acquired with
      | false => exact ⟨_, rfl, fun devices' same => rfl⟩
      | true =>
          refine ⟨ioException PORT_IS_CLOSED, rfl, fun devices' same => ?_⟩
          have refused : ioctlBreak socket.fd enabled devices' = .ok (.error .EBADF) devices' := by
            apply get_bind.trans
            rw [closed, SameNumbers.none same invalid]
            rfl
          have message : socket.formatMsg .EBADF "Can't set Break " devices' =
              .ok PORT_IS_CLOSED devices' := by
            rw [Socket.formatMsg, if_pos closed]
            rfl
          exact bind_of_error ((bind_of_ok refused).trans (bind_of_ok message))
  | _ => cases calls

/-- The two numbers a socket holds itself. -/
def Socket.numbers (socket : Socket) : ℤ × ℤ := (socket.fd, socket.fdCleaner)

theorem timing_numbers {α : Type} {m : EStateM JavaException PollTimeouts α}
    (returned : socket.timing m devices = .ok socket' devices') :
    socket'.numbers = socket.numbers ∧ SameNumbers devices devices' := by
  unfold Socket.timing at returned
  cases looked : m socket.timeouts with
  | ok a timeouts =>
      rw [looked] at returned
      cases returned
      exact ⟨rfl, fun _ => rfl⟩
  | error e timeouts =>
      rw [looked] at returned
      cases returned

theorem keeping_numbers {m : Operating Unit} (stays : Stays SameNumbers m)
    (returned : socket.keeping m devices = .ok socket' devices') :
    socket'.numbers = socket.numbers ∧ SameNumbers devices devices' := by
  obtain ⟨_, devices₁, first, rest⟩ := bind_ok returned
  cases rest
  exact ⟨rfl, stays.returned first⟩

theorem stays_setBreak (acquired enabled : Bool) :
    Stays SameNumbers (socket.setBreak acquired enabled) := by
  have message : ∀ nee text, Stays SameNumbers (socket.formatMsg nee text) := by
    intro nee text
    rw [Socket.formatMsg]
    split
    · exact stays_pure _
    · refine stays_bind SameNumbers.trans ?_ fun valid => ?_
      · exact stays_of_keeps (fun _ _ => rfl) (keeps_bind keeps_get fun _ => keeps_pure _)
      · split
        · exact stays_pure _
        · exact stays_pure _
  cases acquired with
  | false => exact stays_throw _
  | true =>
      refine stays_bind SameNumbers.trans (stays_ioctlSet _ _) fun result => ?_
      cases result with
      | ok => exact stays_pure _
      | error nee => exact stays_bind SameNumbers.trans (message _ _) fun _ => stays_throw _

/-- No method changes what the socket holds, or opens or closes a descriptor. -/
theorem operate_returned
    (returned : socket.operate p driver lines op devices = .ok socket' devices') :
    socket'.numbers = socket.numbers ∧ SameNumbers devices devices' := by
  cases op with
  | configure method => exact keeping_numbers (stays_operate method) returned
  | getInterByteReadTimeout =>
      exact timing_numbers (m := PollTimeouts.socket.getInterByteReadTimeout) returned
  | getOverallReadTimeout =>
      exact timing_numbers (m := PollTimeouts.socket.getOverallReadTimeout) returned
  | getOverallWriteTimeout =>
      exact timing_numbers (m := PollTimeouts.socket.getOverallWriteTimeout) returned
  | setTimeouts call => exact timing_numbers returned
  | setBreak acquired enabled => exact keeping_numbers (stays_setBreak acquired enabled) returned
  | sendXOFF => cases returned
  | sendXON => cases returned

theorem timing_thrown {α : Type} {m : EStateM JavaException PollTimeouts α} {e : JavaException}
    (thrown : socket.timing m devices = .error e devices') : SameNumbers devices devices' := by
  unfold Socket.timing at thrown
  cases looked : m socket.timeouts with
  | ok a timeouts =>
      rw [looked] at thrown
      cases thrown
  | error e timeouts =>
      rw [looked] at thrown
      cases thrown
      exact fun _ => rfl

theorem operate_thrown {e : JavaException}
    (thrown : socket.operate p driver lines op devices = .error e devices') :
    SameNumbers devices devices' := by
  have keeping : ∀ {m : Operating Unit}, Stays SameNumbers m →
    Stays SameNumbers (socket.keeping m) :=
    fun stays => stays_bind SameNumbers.trans stays fun _ => stays_pure _
  cases op with
  | configure method => exact (keeping (stays_operate method)).thrown thrown
  | getInterByteReadTimeout =>
      exact timing_thrown (m := PollTimeouts.socket.getInterByteReadTimeout) thrown
  | getOverallReadTimeout =>
      exact timing_thrown (m := PollTimeouts.socket.getOverallReadTimeout) thrown
  | getOverallWriteTimeout =>
      exact timing_thrown (m := PollTimeouts.socket.getOverallWriteTimeout) thrown
  | setTimeouts call => exact timing_thrown thrown
  | setBreak acquired enabled => exact (keeping (stays_setBreak acquired enabled)).thrown thrown
  | sendXOFF => exact (stays_throw _).thrown thrown
  | sendXON => exact (stays_throw _).thrown thrown

end Calls

section Runs
variable {p : Platform} {driver : Driver} {lines : LineFlags} {s s' : Process ι} {action : Action ι}
  {trace : List (Process ι × Action ι)}

omit [DecidableEq ι] in
theorem reused_or_leftOpen_alike {fd : ℤ} (here : (s'.devices fd).isSome = true)
    (same : ∀ i socket, s.sockets i = some socket → socket.fd = fd ∨ socket.fd = INVALID_FD ∧
    socket.fdCleaner = fd →
      ∃ i socket', s'.sockets i = some socket' ∧ socket'.numbers = socket.numbers)
    (before : Reused s fd ∨ LeftOpen s fd) : Reused s' fd ∨ LeftOpen s' fd := by
  rcases before with ⟨i, socket, there, own⟩ | ⟨-, i, socket, there, closed, own⟩
  · obtain ⟨j, socket', there', numbers⟩ := same i socket there (.inl own)
    exact .inl ⟨j, socket', there', (congrArg Prod.fst numbers).trans own⟩
  · obtain ⟨j, socket', there', numbers⟩ := same i socket there (.inr ⟨closed, own⟩)
    exact .inr ⟨here, j, socket', there', (congrArg Prod.fst numbers).trans closed,
      (congrArg Prod.snd numbers).trans own⟩

theorem owned_opened {i : ι} {portName : String} {fd : ℤ} {device : Device} (owned : Owned s)
    (unused : s.sockets i = none) (valid : fd ≠ INVALID_FD) :
    Owned (s.opened i portName fd device) := by
  have kept : ∀ j socket, s.sockets j = some socket →
      (s.opened i portName fd device).sockets j = some socket := by
    intro j socket there
    have other : j ≠ i := by
      rintro rfl
      rw [unused] at there
      cases there
    exact (Function.update_of_ne other _ _).trans there
  constructor
  · intro fd' here
    by_cases same : fd' = fd
    · exact .inl ⟨i, _, Function.update_self _ _ _, same.symm⟩
    · have before : (s.devices fd').isSome = true := by
        change (Function.update s.devices fd (some device) fd').isSome = true at here
        rwa [Function.update_of_ne same] at here
      refine reused_or_leftOpen_alike here ?_ (owned.owner fd' before)
      exact fun j socket there _ => ⟨j, socket, kept j socket there, rfl⟩
  · exact (Function.update_of_ne (Ne.symm valid) _ _).trans owned.invalid
  · intro j socket there «open»
    by_cases first : j = i
    · subst first
      cases (Function.update_self _ _ _).symm.trans there
      rfl
    · exact owned.cleaned j socket ((Function.update_of_ne first _ _).symm.trans there) «open»

/-- Closing one of the sockets leaves the others their numbers. -/
theorem owned_shut {i : ι} {socket socket' : Socket} {devices : Devices} (owned : Owned s)
    (there : s.sockets i = some socket) («open» : socket.fd ≠ INVALID_FD)
    (closed : socket'.fd = INVALID_FD) (others : ∀ fd, fd ≠ socket.fd → devices fd = s.devices fd)
    (own : (devices socket.fd).isSome = true → socket'.fdCleaner = socket.fd) :
    Owned ⟨Function.update s.sockets i (some socket'), devices⟩ := by
  constructor
  · intro fd here
    by_cases same : fd = socket.fd
    · subst same
      exact .inr ⟨here, i, socket', Function.update_self _ _ _, closed, own here⟩
    · have before : (s.devices fd).isSome = true := by rwa [← others fd same]
      refine reused_or_leftOpen_alike here ?_ (owned.owner fd before)
      intro j other there' holds
      have apart : j ≠ i := by
        rintro rfl
        cases there.symm.trans there'
        rcases holds with holds | ⟨holds, -⟩
        · exact same holds.symm
        · exact «open» holds
      exact ⟨j, other, (Function.update_of_ne apart _ _).trans there', rfl⟩
  · exact (others _ (Ne.symm «open»)).trans owned.invalid
  · intro j other there' opened
    by_cases first : j = i
    · subst first
      cases (Function.update_self _ _ _).symm.trans there'
      exact absurd closed opened
    · exact owned.cleaned j other ((Function.update_of_ne first _ _).symm.trans there') opened

theorem owned_closed {i : ι} {socket : Socket} {closing : Closing} (owned : Owned s)
    (there : s.sockets i = some socket) :
    Owned (s.closed i socket closing) := by
  by_cases «open» : socket.fd ≠ INVALID_FD
  · unfold Process.closed
    rw [if_pos «open»]
    have others : ∀ fd, fd ≠ socket.fd →
      Function.update s.devices socket.fd none fd = s.devices fd :=
      fun fd other => Function.update_of_ne other _ _
    cases closing with
    | released =>
        refine owned_shut owned there «open» rfl others fun here => ?_
        rw [Function.update_self] at here
        cases here
    | failed stillOpen =>
        refine owned_shut owned there «open» rfl (fun fd other => ?_) fun _ =>
          owned.cleaned i socket there «open»
        split
        · rfl
        · exact others fd other
  · unfold Process.closed
    rw [if_neg «open»]
    exact owned

/-- What a method leaves as it was. -/
theorem Owned.alike {i : ι} {socket socket' : Socket} {devices : Devices} (owned : Owned s)
    (there : s.sockets i = some socket) (numbers : socket'.numbers = socket.numbers)
    (same : SameNumbers s.devices devices) :
    Owned ⟨Function.update s.sockets i (some socket'), devices⟩ := by
  constructor
  · intro fd here
    refine reused_or_leftOpen_alike here ?_ (owned.owner fd ((same fd).symm.trans here))
    intro j other there' _
    by_cases first : j = i
    · subst first
      cases there.symm.trans there'
      exact ⟨j, socket', Function.update_self _ _ _, numbers⟩
    · exact ⟨j, other, (Function.update_of_ne first _ _).trans there', rfl⟩
  · exact SameNumbers.none same owned.invalid
  · intro j other there' opened
    by_cases first : j = i
    · subst first
      cases (Function.update_self _ _ _).symm.trans there'
      have fds : socket'.fd = socket.fd := congrArg Prod.fst numbers
      have cleaners : socket'.fdCleaner = socket.fdCleaner := congrArg Prod.snd numbers
      rw [fds] at opened
      rw [fds, cleaners]
      exact owned.cleaned j socket there opened
    · exact owned.cleaned j other ((Function.update_of_ne first _ _).symm.trans there') opened

theorem owned_step (owned : Owned s) (step : Step p driver lines s action s') : Owned s' := by
  cases step with
  | opened unused valid free => exact owned_opened owned unused valid
  | closed there => exact owned_closed owned there
  | returned there result =>
      obtain ⟨numbers, same⟩ := operate_returned result
      exact owned.alike there numbers same
  | @thrown i _ socket _ devices there result =>
      have whole := owned.alike there rfl (operate_thrown result)
      rwa [← there, Function.update_eq_self] at whole

omit [DecidableEq ι] in
theorem owned_initial : Owned (Process.initial : Process ι) where
  owner := by rintro fd ⟨⟩
  invalid := rfl
  cleaned := by rintro i socket ⟨⟩

omit [DecidableEq ι] in
/-- While every open device has a socket, a number that is neither reused nor
left open is not open. -/
theorem untouching_of_refusable (owned : Owned s) (refusable : Refusable s action) :
    Untouching p driver lines s action := by
  cases action with
  | «open» => trivial
  | close => trivial
  | operate i op =>
      intro socket there closed
      obtain ⟨calls, free⟩ := refusable socket there closed
      refine operate_untouching closed calls owned.invalid fun method same => ?_
      obtain ⟨notReused, notLeftOpen⟩ := free method same
      apply Option.not_isSome_iff_eq_none.mp
      intro here
      exact (owned.owner _ here).elim notReused notLeftOpen

theorem run_untouching (owned : Owned s) (run : Run p driver lines s trace s')
    (refusable : ∀ x ∈ trace, Refusable x.1 x.2) :
    ∀ x ∈ trace, Untouching p driver lines x.1 x.2 := by
  induction run with
  | nil => simp
  | cons step rest ih =>
      rintro x (_ | ⟨_, member⟩)
      · exact untouching_of_refusable owned (refusable _ List.mem_cons_self)
      · exact ih (owned_step owned step) (fun x member =>
          refusable x (List.mem_cons_of_mem _ member)) x member

end Runs

section Reused
def lines : LineFlags where
  TIOCM_CTS := 0x020
  TIOCM_CAR := 0x040
  TIOCM_DSR := 0x100
  TIOCM_RNG := 0x080
  TIOCM_RTS := 0x004
  TIOCM_DTR := 0x002
  VSTART := 8
  VSTOP := 9

def quiet : Device := ⟨⟨0, 0, 0x300, 0, fun _ => 0, 9600, 9600⟩, 0, false, 0, 0⟩

/-- Socket `0` has had the number `3` and is closed. -/
def left : Process ℕ :=
  (Process.initial.opened 0 "cuau0" 3 quiet).closed 0 (.opened "cuau0" 3) .released

/-- What is left of it. -/
def shut : Socket := ⟨"cuau0", INVALID_FD, ⟨"cuau0", 3⟩, INVALID_FD, {}⟩

theorem left_socket {i : ℕ} {socket : Socket} (there : left.sockets i = some socket) :
    i = 0 ∧ socket = shut := by
  by_cases first : i = 0
  · subst first
    exact ⟨rfl, (Option.some.inj there).symm⟩
  · change Function.update (Function.update _ _ _) _ _ i = _ at there
    rw [Function.update_of_ne first, Function.update_of_ne first] at there
    cases there

end Reused
end AsyncClose
end Spsw.Jnhw

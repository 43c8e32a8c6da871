import Spsw.Jnhw.SettingsMachine

/-!
# The other configuration methods

Besides its termios a device has modem lines, a break condition and queues. All methods of
`PosixConfiguration` work on the descriptor in its own field; where that is not the
descriptor of an open device, each of them throws an `IOException` at its first system
call.
-/
namespace Spsw.Jnhw
open JavaException (ioException runtimeException)
open Stateful

/-- A device as the configuration methods see it. -/
structure Device where
  termios : StructTermios
  lineStatus : BitVec 32
  onBreak : Bool
  inQueue : ℤ
  outQueue : ℤ

/-- The device behind each descriptor of an open port. -/
abbrev Devices := ℤ → Option Device

abbrev Operating (α : Type) := EStateM JavaException Devices α

/-- The bits of the modem lines, and the places of two control characters. -/
structure LineFlags where
  TIOCM_CTS : BitVec 32
  TIOCM_CAR : BitVec 32
  TIOCM_DSR : BitVec 32
  TIOCM_RNG : BitVec 32
  TIOCM_RTS : BitVec 32
  TIOCM_DTR : BitVec 32
  VSTART : ℕ
  VSTOP : ℕ

def terminals (devices : Devices) : Descriptors := fun fd => (devices fd).map Device.termios

/-- The devices with the settings as they are now. -/
def withTerminals (devices : Devices) (s : Descriptors) : Devices := fun fd =>
  (devices fd).map fun device => { device with termios := (s fd).getD device.termios }

/-- A computation on the settings alone. -/
def onTerminals {α : Type} (m : Configuring α) : Operating α := fun devices =>
  match m (terminals devices) with
  | .ok a s => .ok a (withTerminals devices s)
  | .error e s => .error e (withTerminals devices s)

/-- `ioctl_ReturnValue(fd, request, 0)` for a request that reads `value`. -/
def ioctlGet {α : Type} (fd : ℤ) (value : Device → α) : Operating (Except Errno α) := do
  let devices ← get
  match devices fd with
  | some device => pure (.ok (value device))
  | none => pure (.error .EBADF)

/-- `ioctl` for a request that changes the device by `change`. -/
def ioctlSet (fd : ℤ) (change : Device → Device) : Operating (Except Errno Unit) := do
  let devices ← get
  match devices fd with
  | some device => do
      set (Function.update devices fd (some (change device)))
      pure (.ok ())
  | none => pure (.error .EBADF)

/-- `ioctl_ReturnValue(fd, TIOCMSET, lineStatus)` -/
def ioctlSetLines (fd : ℤ) (lineStatus : BitVec 32) : Operating (Except Errno Unit) :=
  ioctlSet fd fun device => { device with lineStatus := lineStatus }

/-- `ioctl(fd, TIOCSBRK)` and `ioctl(fd, TIOCCBRK)` -/
def ioctlBreak (fd : ℤ) (onBreak : Bool) : Operating (Except Errno Unit) :=
  ioctlSet fd fun device => { device with onBreak := onBreak }

namespace PosixConfiguration
variable (driver : Driver) (lines : LineFlags) (c : PosixConfiguration)

/-- `throw new IOException(formatMsg(nee, text))` -/
def failed {α : Type} (nee : Errno) (text : String) : Operating α := do
  let message ← onTerminals (c.formatMsg nee text)
  throw (ioException message)

/-- One of the methods that read a number with `ioctl`. -/
def readNumber {α : Type} (value : Device → α) (text : String) : Operating α := do
  let result ← ioctlGet c.fd value
  match result with
  | .ok number => pure number
  | .error nee => c.failed nee text

def getInBufferBytesCount : Operating ℤ := c.readNumber Device.inQueue "Can't read in buffer size "

def getOutBufferBytesCount : Operating ℤ :=
  c.readNumber Device.outQueue "Can't read out buffer size "

def getLineStatus (bitMask : BitVec 32) : Operating Bool := do
  let lineStatusRef ← c.readNumber Device.lineStatus "Can't get line status "
  pure (decide (lineStatusRef &&& bitMask = bitMask))

def setLineStatus (enabled : Bool) (bitMask : BitVec 32) : Operating Unit := do
  let lineStatusRef ← c.readNumber Device.lineStatus "Can't get line status "
  let lineStatusRef :=
    if enabled = true then lineStatusRef ||| bitMask else lineStatusRef &&& ~~~bitMask
  let result ← ioctlSetLines c.fd lineStatusRef
  match result with
  | .ok () => pure ()
  | .error nee => c.failed nee "Can't set line status"

/-- `(char) termios.c_cc(index)`, a byte with its sign. -/
def getChar (index : ℕ) : Configuring (BitVec 16) := do
  let termios ← c.getTermios
  pure ((termios.c_cc index).toBitVec.signExtend 16)

/-- `setXOFFChar` and `setXONChar`; `name` stands in their messages. -/
def setChar (index : ℕ) (name what : String) (char : BitVec 16) : Configuring Unit := do
  let termios ← c.getTermios
  let termios := { termios with c_cc := Function.update termios.c_cc index ⟨char.setWidth 8⟩ }
  let result ← tcsetattr driver c.fd termios
  match result with
  | .error nee => do
      let message ← c.formatMsg nee name
      throw (ioException message)
  | .ok () => do
      let read ← c.getChar index
      if read ≠ char then throw (runtimeException ("Cant't set " ++ what ++ " char")) else pure ()

end PosixConfiguration

/-- The methods of a socket that its configuration carries out. -/
inductive ConfigurationMethod where
  | getSpeed | getInSpeed | getOutSpeed | getDatatBits | getStopBits | getParity | getFlowControl
  | set (call : SettingsCall)
  | setInSpeed (speed : Speed)
  | setOutSpeed (speed : Speed)
  | getXONChar | getXOFFChar
  | setXONChar (char : BitVec 16)
  | setXOFFChar (char : BitVec 16)
  | isCTS | isDCD | isDSR | isRI | isDTR | isRTS
  | setDTR (enabled : Bool)
  | setRTS (enabled : Bool)
  | getInBufferBytesCount | getOutBufferBytesCount
  | termiosToString
  deriving DecidableEq

/-- A method without its result. -/
def dropped {α : Type} (m : Operating α) : Operating Unit := do
  let _ ← m
  pure ()

def PosixConfiguration.operate (p : Platform) (driver : Driver) (lines : LineFlags)
    (c : PosixConfiguration) :
    ConfigurationMethod → Operating Unit
  | .getSpeed => dropped (onTerminals (c.getSpeed p))
  | .getInSpeed => dropped (onTerminals (c.getInSpeed p))
  | .getOutSpeed => dropped (onTerminals (c.getOutSpeed p))
  | .getDatatBits => dropped (onTerminals (c.getDatatBits p))
  | .getStopBits => dropped (onTerminals (c.getStopBits p))
  | .getParity => dropped (onTerminals (c.getParity p))
  | .getFlowControl => dropped (onTerminals (c.getFlowControl p))
  | .set call => onTerminals (c.perform p driver call)
  | .setInSpeed speed => onTerminals (c.setInSpeed p speed)
  | .setOutSpeed speed => onTerminals (c.setOutSpeed p speed)
  | .getXONChar => dropped (onTerminals (c.getChar lines.VSTART))
  | .getXOFFChar => dropped (onTerminals (c.getChar lines.VSTOP))
  | .setXONChar char =>
      onTerminals (c.setChar driver lines.VSTART "setXONChar tcsetattr " "XON" char)
  | .setXOFFChar char =>
      onTerminals (c.setChar driver lines.VSTOP "setXOFFChar tcsetattr" "XOFF" char)
  | .isCTS => dropped (c.getLineStatus lines.TIOCM_CTS)
  | .isDCD => dropped (c.getLineStatus lines.TIOCM_CAR)
  | .isDSR => dropped (c.getLineStatus lines.TIOCM_DSR)
  | .isRI => dropped (c.getLineStatus lines.TIOCM_RNG)
  | .isDTR => dropped (c.getLineStatus lines.TIOCM_DTR)
  | .isRTS => dropped (c.getLineStatus lines.TIOCM_RTS)
  | .setDTR enabled => c.setLineStatus enabled lines.TIOCM_DTR
  | .setRTS enabled => c.setLineStatus enabled lines.TIOCM_RTS
  | .getInBufferBytesCount => dropped c.getInBufferBytesCount
  | .getOutBufferBytesCount => dropped c.getOutBufferBytesCount
  | .termiosToString => dropped (onTerminals c.getTermios)

section Closed
variable {p : Platform} {driver : Driver} {lines : LineFlags}
  {c : PosixConfiguration} {devices : Devices}

theorem withTerminals_same (devices : Devices) :
    withTerminals devices (terminals devices) = devices := by
  funext fd
  simp only [withTerminals, terminals]
  cases devices fd <;> rfl

theorem onTerminals_closed {α : Type} {f : StructTermios → Configuring α}
    (closed : devices c.fd = none) :
    onTerminals (c.getTermios >>= f) devices = .error (ioException c.closedMessage) devices := by
  have nothing : terminals devices c.fd = none := by rw [terminals, closed]; rfl
  rw [onTerminals, bind_of_error (getTermios_closed nothing)]
  simp only [withTerminals_same]

theorem readNumber_closed {α : Type} {value : Device → α} {text : String}
    (closed : devices c.fd = none) :
    c.readNumber value text devices = .error (ioException c.closedMessage) devices := by
  have refused : ioctlGet c.fd value devices = .ok (.error .EBADF) devices := by
    apply get_bind.trans
    rw [closed]
    rfl
  have nothing : terminals devices c.fd = none := by rw [terminals, closed]; rfl
  refine (bind_of_ok refused).trans ?_
  have message : onTerminals (c.formatMsg .EBADF text) devices = .ok c.closedMessage devices := by
    rw [onTerminals, formatMsg_closed nothing]
    simp only [withTerminals_same]
  exact bind_of_ok message

/-- Without an open device behind its descriptor every method fails alike, whatever the
other devices hold. -/
theorem operate_closed (closed : devices c.fd = none) (op : ConfigurationMethod) :
    c.operate p driver lines op devices = .error (ioException c.closedMessage) devices := by
  cases op with
  | getSpeed => exact bind_of_error (onTerminals_closed closed)
  | getInSpeed => exact bind_of_error (onTerminals_closed closed)
  | getOutSpeed => exact bind_of_error (onTerminals_closed closed)
  | getDatatBits => exact bind_of_error (onTerminals_closed closed)
  | getStopBits => exact bind_of_error (onTerminals_closed closed)
  | getParity => exact bind_of_error (onTerminals_closed closed)
  | getFlowControl => exact bind_of_error (onTerminals_closed closed)
  | set call => exact onTerminals_closed closed
  | setInSpeed speed => exact onTerminals_closed closed
  | setOutSpeed speed => exact onTerminals_closed closed
  | getXONChar => exact bind_of_error (onTerminals_closed closed)
  | getXOFFChar => exact bind_of_error (onTerminals_closed closed)
  | setXONChar char => exact onTerminals_closed closed
  | setXOFFChar char => exact onTerminals_closed closed
  | isCTS => exact bind_of_error (bind_of_error (readNumber_closed closed))
  | isDCD => exact bind_of_error (bind_of_error (readNumber_closed closed))
  | isDSR => exact bind_of_error (bind_of_error (readNumber_closed closed))
  | isRI => exact bind_of_error (bind_of_error (readNumber_closed closed))
  | isDTR => exact bind_of_error (bind_of_error (readNumber_closed closed))
  | isRTS => exact bind_of_error (bind_of_error (readNumber_closed closed))
  | setDTR enabled => exact bind_of_error (readNumber_closed closed)
  | setRTS enabled => exact bind_of_error (readNumber_closed closed)
  | getInBufferBytesCount => exact bind_of_error (readNumber_closed closed)
  | getOutBufferBytesCount => exact bind_of_error (readNumber_closed closed)
  | termiosToString =>
      have whole : onTerminals c.getTermios devices =
          .error (ioException c.closedMessage) devices := by
        rw [← bind_pure c.getTermios]
        exact onTerminals_closed closed
      exact bind_of_error whole

end Closed

/-- The same descriptors are open. -/
def SameNumbers (devices devices' : Devices) : Prop :=
  ∀ fd, (devices' fd).isSome = (devices fd).isSome

theorem SameNumbers.trans {d d' d'' : Devices} (first : SameNumbers d d')
    (next : SameNumbers d' d'') :
    SameNumbers d d'' :=
  fun fd => (next fd).trans (first fd)

section Numbers
variable {p : Platform} {driver : Driver} {lines : LineFlags} {c : PosixConfiguration} {α : Type}

theorem stays_onTerminals (m : Configuring α) : Stays SameNumbers (onTerminals m) := by
  have same : ∀ devices s, SameNumbers devices (withTerminals devices s) := by
    intro devices s fd
    rw [withTerminals, Option.isSome_map]
  constructor
  · intro devices a devices' returned
    rw [onTerminals] at returned
    split at returned
    · cases returned
      exact same _ _
    · cases returned
  · intro devices e devices' thrown
    rw [onTerminals] at thrown
    split at thrown
    · cases thrown
    · cases thrown
      exact same _ _

theorem stays_pure (a : α) : Stays SameNumbers (pure a : Operating α) :=
  stays_of_keeps (fun _ _ => rfl) (keeps_pure a)

theorem stays_throw (e : JavaException) : Stays SameNumbers (throw e : Operating α) :=
  stays_of_keeps (fun _ _ => rfl) (keeps_throw e)

theorem stays_dropped {m : Operating α} (stays : Stays SameNumbers m) :
    Stays SameNumbers (dropped m) :=
  stays_bind SameNumbers.trans stays fun _ => stays_pure _

theorem stays_failed (nee : Errno) (text : String) :
    Stays SameNumbers (c.failed nee text : Operating α) :=
  stays_bind SameNumbers.trans (stays_onTerminals _) fun _ => stays_throw _

theorem stays_readNumber (value : Device → α) (text : String) :
    Stays SameNumbers (c.readNumber value text) := by
  have keeps : Keeps (ioctlGet c.fd value) := by
    refine keeps_bind keeps_get fun devices => ?_
    cases devices c.fd with
    | some device => exact keeps_pure _
    | none => exact keeps_pure _
  refine stays_bind SameNumbers.trans (stays_of_keeps (fun _ _ => rfl) keeps) fun result => ?_
  cases result with
  | ok number => exact stays_pure _
  | error nee => exact stays_failed _ _

theorem stays_ioctlSet (fd : ℤ) (change : Device → Device) :
    Stays SameNumbers (ioctlSet fd change) := by
  have after : ∀ devices : Devices, ∃ result devices',
      ioctlSet fd change devices = .ok result devices' ∧ SameNumbers devices devices' := by
    intro devices
    cases found : devices fd with
    | none =>
        refine ⟨.error .EBADF, devices, ?_, fun _ => rfl⟩
        apply get_bind.trans
        rw [found]
        rfl
    | some device =>
        refine ⟨.ok (), Function.update devices fd (some (change device)), ?_, ?_⟩
        · apply get_bind.trans
          rw [found]
          rfl
        · intro fd'
          by_cases same : fd' = fd
          · subst same
            rw [Function.update_self, found]
            rfl
          · rw [Function.update_of_ne same]
  constructor
  · intro devices a devices' returned
    obtain ⟨result, devices'', ends, same⟩ := after devices
    cases ends.symm.trans returned
    exact same
  · intro devices e devices' thrown
    obtain ⟨result, devices'', ends, same⟩ := after devices
    cases ends.symm.trans thrown

theorem stays_getLineStatus (bitMask : BitVec 32) : Stays SameNumbers (c.getLineStatus bitMask) :=
  stays_bind SameNumbers.trans (stays_readNumber _ _) fun _ => stays_pure _

theorem stays_setLineStatus (enabled : Bool) (bitMask : BitVec 32) :
    Stays SameNumbers (c.setLineStatus enabled bitMask) := by
  refine stays_bind SameNumbers.trans (stays_readNumber _ _) fun lineStatusRef => ?_
  refine stays_bind SameNumbers.trans (stays_ioctlSet _ _) fun result => ?_
  cases result with
  | ok => exact stays_pure _
  | error nee => exact stays_failed _ _

/-- No configuration method opens or closes a descriptor. -/
theorem stays_operate (op : ConfigurationMethod) :
    Stays SameNumbers (c.operate p driver lines op) := by
  cases op with
  | set call => exact stays_onTerminals _
  | setInSpeed speed => exact stays_onTerminals _
  | setOutSpeed speed => exact stays_onTerminals _
  | setXONChar char => exact stays_onTerminals _
  | setXOFFChar char => exact stays_onTerminals _
  | setDTR enabled => exact stays_setLineStatus _ _
  | setRTS enabled => exact stays_setLineStatus _ _
  | isCTS => exact stays_dropped (stays_getLineStatus _)
  | isDCD => exact stays_dropped (stays_getLineStatus _)
  | isDSR => exact stays_dropped (stays_getLineStatus _)
  | isRI => exact stays_dropped (stays_getLineStatus _)
  | isDTR => exact stays_dropped (stays_getLineStatus _)
  | isRTS => exact stays_dropped (stays_getLineStatus _)
  | getInBufferBytesCount => exact stays_dropped (stays_readNumber _ _)
  | getOutBufferBytesCount => exact stays_dropped (stays_readNumber _ _)
  | _ => exact stays_dropped (stays_onTerminals _)

end Numbers
end Spsw.Jnhw

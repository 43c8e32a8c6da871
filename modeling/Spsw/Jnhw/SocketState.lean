import Mathlib.Logic.Function.Basic
import Spsw.Jnhw.PosixSerialPortSocket

/-!
# The state of a socket and its descriptors

The fields of a `PosixSerialPortSocket`, and what the system knows of the descriptors
behind them: which are open, and which cancel events have been written.
-/
namespace Spsw.Jnhw.PosixSerialPortSocket
open Interaction

/-- What is written to a descriptor is read at its `readEnd`. -/
structure World where
  fields : Field → ℤ
  opened : ℤ → Bool
  readEnd : ℤ → ℤ
  readable : ℤ → Bool

namespace World
variable (w : World)

/-- A number the system may give out. -/
def Fresh (fd : ℤ) : Prop := w.opened fd = false ∧ fd ≠ INVALID_FD

def store (field : Field) (value : ℤ) : World :=
  { w with fields := Function.update w.fields field value }

def obtain (fd readEnd : ℤ) : World where
  fields := w.fields
  opened := Function.update w.opened fd true
  readEnd := Function.update w.readEnd fd readEnd
  readable := Function.update w.readable fd false

def written (fd : ℤ) : World :=
  { w with readable := Function.update w.readable (w.readEnd fd) true }

def closed (fd : ℤ) : World := { w with opened := Function.update w.opened fd false }

/-- The cancel event at `fd` makes every `poll` on it return. -/
def Signalled (fd : ℤ) : Prop := w.opened fd = true ∧ w.readable fd = true

/-- What `poll` may report of a port and a cancel event. -/
def polled (port cancel : ℤ) : Except Errno PollResult → Prop
  | .ok (.ready portEvents cancelEvents) => (cancelEvents = POLLIN ↔ w.Signalled cancel) ∧
      (w.opened port = true → portEvents &&& POLLNVAL ≠ POLLNVAL)
  | .ok .timeout => ¬w.Signalled cancel
  | .error nee => nee ≠ .EBADF

/-- `INVALID_FD` is never open. A number that has been closed may be another's by now. -/
def Refuses {α : Type} (fd : ℤ) (r : Except Errno α) : Prop := fd = INVALID_FD → r = .error .EBADF

theorem not_refused {α : Type} {fd : ℤ} {r : Except Errno α} (valid : fd ≠ INVALID_FD) :
    Refuses fd r :=
  fun same => absurd same valid

/-- How the system answers, and what state it leaves. A `close` that fails may have closed.
The `begin` here is that of a thread that is not interrupted. -/
def answers : Event kernel → World → Prop
  | ⟨.get field, r⟩, w' => r = w.fields field ∧ w' = w
  | ⟨.set field value, _⟩, w' => w' = w.store field value
  | ⟨.open _, .ok fd⟩, w' => w.Fresh fd ∧ w' = w.obtain fd fd
  | ⟨.eventfd, .ok fd⟩, w' => w.Fresh fd ∧ w' = w.obtain fd fd
  | ⟨.pipe, .ok (read_fd, write_fd)⟩, w' =>
      w.Fresh read_fd ∧ w.Fresh write_fd ∧ read_fd ≠ write_fd ∧
      w' = (w.obtain read_fd read_fd).obtain write_fd read_fd
  | ⟨.write fd, r⟩, w' => Refuses fd r ∧ (r = .ok () → w' = w.written fd) ∧ (r ≠ .ok () → w' = w)
  | ⟨.close fd, r⟩, w' => Refuses fd r ∧ (w' = w.closed fd ∨ r ≠ .ok () ∧ w' = w)
  | ⟨.tcgetattr fd, r⟩, w' => Refuses fd r ∧ w' = w
  | ⟨.tcflush fd, r⟩, w' => Refuses fd r ∧ w' = w
  | ⟨.tcdrain fd, r⟩, w' => Refuses fd r ∧ w' = w
  | ⟨.ioctl fd _, r⟩, w' => Refuses fd r ∧ w' = w
  | ⟨.fcntl fd _, r⟩, w' => Refuses fd r ∧ w' = w
  | ⟨.poll port cancel _, r⟩, w' => w.polled port cancel r ∧ w' = w
  | _, w' => w' = w

/-- How the socket answers a call that finds the descriptor in the field. The call reads
the field before it makes the system call, so once the number is no longer there every
answer is possible. -/
def replies : Event posix → Prop
  | ⟨.fdIsInvalid, invalid⟩ => invalid = decide (w.fields .fd = INVALID_FD)
  | ⟨.poll d _, r⟩ => w.polled (w.fields (.pollPortFd d)) (w.fields (.pollCancelFd d)) r
  | ⟨.read _, .error .EBADF⟩ => w.opened (w.fields .fd) = false
  | ⟨.write _, .error .EBADF⟩ => w.opened (w.fields .fd) = false
  | _ => True

end World

/-- The numbers of an open socket: of its port, and of both sides of its cancel events,
which are one descriptor each where the system has `eventfd`. -/
structure Numbers where
  port : ℤ
  event : Direction → Direction → ℤ
  port_valid : port ≠ INVALID_FD
  event_valid : ∀ e side, event e side ≠ INVALID_FD
  port_apart : ∀ e side, event e side ≠ port
  event_apart : ∀ side side', event .read side ≠ event .write side'

/-- The socket as its constructor leaves it. -/
structure World.Opened (w : World) (n : Numbers) : Prop where
  fd : w.fields .fd = n.port
  configurationFd : w.fields .configurationFd = n.port
  cancelEventFd : ∀ e side, w.fields (.cancelEventFd e side) = n.event e side
  cleanerFd : w.fields .cleanerFd = n.port
  cleanerEventFd : ∀ e side, w.fields (.cleanerEventFd e side) = n.event e side
  pollPortFd : ∀ d, w.fields (.pollPortFd d) = n.port
  pollCancelFd : ∀ d, w.fields (.pollCancelFd d) = n.event d .read
  port : w.opened n.port = true
  event : ∀ e side, w.opened (n.event e side) = true
  readEnd : ∀ e, w.readEnd (n.event e .write) = n.event e .read
  quiet : ∀ e, w.readable (n.event e .read) = false

section Fields
variable {w : World} {field other : Field} {value : ℤ}

@[simp] theorem store_self : (w.store field value).fields field = value :=
  Function.update_self _ _ _

theorem store_other (apart : other ≠ field) : (w.store field value).fields other = w.fields other :=
  Function.update_of_ne apart _ _

@[simp] theorem store_opened : (w.store field value).opened = w.opened := rfl

@[simp] theorem store_readEnd : (w.store field value).readEnd = w.readEnd := rfl

@[simp] theorem store_readable : (w.store field value).readable = w.readable := rfl

/-- Only an assignment changes a field. -/
theorem fields_kept {w' : World} {ev : Event kernel} (answer : w.answers ev w')
    (other : ∀ field value, ev.1 ≠ .set field value) : w'.fields = w.fields := by
  obtain ⟨e, r⟩ := ev
  cases e with
  | set field value => exact absurd rfl (other field value)
  | get field => rw [answer.2]
  | «open» portName =>
      cases r with
      | ok fd => rw [answer.2]; rfl
      | error nee => rw [show w' = w from answer]
  | eventfd =>
      cases r with
      | ok fd => rw [answer.2]; rfl
      | error nee => rw [show w' = w from answer]
  | pipe =>
      cases r with
      | ok fds => rw [answer.2.2.2]; rfl
      | error nee => rw [show w' = w from answer]
  | write fd =>
      by_cases done : r = .ok ()
      · rw [answer.2.1 done]; rfl
      · rw [answer.2.2 done]
  | close fd =>
      rcases answer.2 with closed | ⟨-, same⟩
      · rw [closed]; rfl
      · rw [same]
  | tcgetattr fd => rw [answer.2]
  | tcflush fd => rw [answer.2]
  | tcdrain fd => rw [answer.2]
  | ioctl fd request => rw [answer.2]
  | fcntl fd command => rw [answer.2]
  | poll port cancel timeout => rw [answer.2]
  | _ => rw [show w' = w from answer]

end Fields

section Examples

/-- A port on descriptor `5`, its cancel events the eventfds `6` and `7`. -/
def numbers : Numbers where
  port := 5
  event
    | .read, _ => 6
    | .write, _ => 7
  port_valid := by decide
  event_valid
    | .read, _ | .write, _ => by simp [INVALID_FD]
  port_apart
    | .read, _ | .write, _ => by simp
  event_apart _ _ := by simp

/-- The state in which the constructor leaves it. -/
def fresh : World where
  fields
    | .fd | .configurationFd | .cleanerFd | .pollPortFd _ => 5
    | .cancelEventFd e side | .cleanerEventFd e side => numbers.event e side
    | .pollCancelFd d => numbers.event d .read
  opened fd := decide (fd = 5 ∨ fd = 6 ∨ fd = 7)
  readEnd fd := fd
  readable _ := false

theorem fresh_opened : fresh.Opened numbers where
  fd := rfl
  configurationFd := rfl
  cancelEventFd _ _ := rfl
  cleanerFd := rfl
  cleanerEventFd _ _ := rfl
  pollPortFd _ := rfl
  pollCancelFd _ := rfl
  port := rfl
  event e _ := by cases e <;> rfl
  readEnd e := by cases e <;> rfl
  quiet _ := rfl

end Examples
end Spsw.Jnhw.PosixSerialPortSocket

import Spsw.Jni.TermiosIO

/-!
# A port that is being closed

What the calls on one socket share: its fields, the event that tells of closing, and
whether its descriptor is still open. `close0` goes from the open port to the closed one
step by step.
-/
namespace Spsw.Jni.TermiosIO
open Interaction
open Interaction.Method (mwp)
open Jnhw (Errno PollResult POLLIN POLLOUT POLLNVAL INVALID_FD)

/-- The numbers the descriptors of the socket have had since it was opened. -/
structure Numbers where
  port : ℤ
  eventRead : ℤ
  eventWrite : ℤ
  port_valid : port ≠ INVALID_FD
  eventRead_valid : eventRead ≠ INVALID_FD

structure Port where
  fd : ℤ
  closeEventReadFd : ℤ
  closeEventWriteFd : ℤ
  signalled : Bool
  opened : Bool
  deriving DecidableEq

/-- The port after `close0`, its descriptor number not given out again. -/
def Port.closed : Port := ⟨INVALID_FD, INVALID_FD, INVALID_FD, true, false⟩

namespace Numbers
variable (n : Numbers)

def opened : Port := ⟨n.port, n.eventRead, n.eventWrite, false, true⟩

/-- The descriptor of the port, while it is open. -/
def Valid (σ : Port) (fd : ℤ) : Prop := fd = n.port ∧ σ.opened = true

/-- The event is signalled, and is among what a `poll` looks at. -/
def Told (σ : Port) (close : ℤ) : Prop := close = n.eventRead ∧ σ.signalled = true

/-- A `poll` that ends reports the event if and only if it is there. -/
def Tells (σ : Port) (close : ℤ) (result : Option (Except Errno PollResult)) : Prop :=
  (n.Told σ close → ∃ events, result = some (.ok (.ready events POLLIN))) ∧
  (¬n.Told σ close → ∀ portEvents closeEvents, result = some (.ok (.ready portEvents closeEvents)) →
    closeEvents ≠ POLLIN)

/-- How the shared state answers a request, and what it is afterwards. A number that is
not open is reported when a `poll` begins; one that is closed during a `poll` is not. -/
def answers (σ : Port) : Event termios → Port → Prop
  | ⟨.getFd, r⟩, σ' => r = σ.fd ∧ σ' = σ
  | ⟨.getCloseEventReadFd, r⟩, σ' => r = σ.closeEventReadFd ∧ σ' = σ
  | ⟨.getCloseEventWriteFd, r⟩, σ' => r = σ.closeEventWriteFd ∧ σ' = σ
  | ⟨.setFd value, _⟩, σ' => σ' = { σ with fd := value }
  | ⟨.setCloseEventReadFd value, _⟩, σ' => σ' = { σ with closeEventReadFd := value }
  | ⟨.setCloseEventWriteFd value, _⟩, σ' => σ' = { σ with closeEventWriteFd := value }
  | ⟨.read fd _, r⟩, σ' => (¬n.Valid σ fd → r = .error .EBADF) ∧ σ' = σ
  | ⟨.write fd _, r⟩, σ' => (¬n.Valid σ fd → r = .error .EBADF) ∧ σ' = σ
  | ⟨.poll _ port close _, r⟩, σ' => n.Tells σ close r ∧
      (port ≠ INVALID_FD → ¬n.Valid σ port →
        ∃ closeEvents, r = some (.ok (.ready POLLNVAL closeEvents))) ∧
      σ' = σ
  | ⟨.sleep _ _ close _, r⟩, σ' => n.Tells σ close (some r) ∧ σ' = σ
  | ⟨.clockGettime, _⟩, σ' => σ' = σ
  | ⟨.writeEvent fd, r⟩, σ' =>
      (fd = n.eventWrite → r = .ok () ∧ σ' = { σ with signalled := true }) ∧
        (fd ≠ n.eventWrite → σ' = σ)
  | ⟨.tcflush _, _⟩, σ' => σ' = σ
  | ⟨.close fd, _⟩, σ' => (fd = n.port → σ' = { σ with opened := false }) ∧ (fd ≠ n.port → σ' = σ)

/-- All answers of a history, one after the other. -/
inductive Answered : Port → History termios → Port → Prop
  | nil (σ : Port) : Answered σ [] σ
  | cons {σ σ' σ'' : Port} {ev : Event termios} {h : History termios} (answer : n.answers σ ev σ')
      (rest : Answered σ' h σ'') : Answered σ (ev :: h) σ''

section Closing
variable {n : Numbers} {σ σ' : Port} {h : History termios} {ev : Event termios}

theorem answered_snoc : n.Answered σ (h ++ [ev]) σ' ↔
    ∃ σ₁, n.Answered σ h σ₁ ∧ n.answers σ₁ ev σ' := by
  constructor
  · intro answered
    induction h generalizing σ with
    | nil =>
        cases answered with
        | cons answer rest =>
            cases rest with
            | nil => exact ⟨_, .nil _, answer⟩
    | cons ev' h ih =>
        cases answered with
        | cons answer rest =>
            obtain ⟨σ₁, before, last⟩ := ih rest
            exact ⟨σ₁, .cons answer before, last⟩
  · rintro ⟨σ₁, before, last⟩
    induction before with
    | nil => exact .cons last (.nil _)
    | cons answer _ ih => exact .cons answer (ih last)

theorem answered_closed {fd event : ℤ} {e t c : Except Errno Unit} (answered : n.Answered n.opened
    [⟨.getFd, fd⟩, ⟨.setFd INVALID_FD, ()⟩, ⟨.getCloseEventWriteFd, event⟩, ⟨.writeEvent event, e⟩,
      ⟨.tcflush fd, t⟩, ⟨.setCloseEventWriteFd INVALID_FD, ()⟩,
        ⟨.setCloseEventReadFd INVALID_FD, ()⟩, ⟨.close fd, c⟩] σ) : σ = Port.closed := by
  obtain _ | ⟨⟨rfl, rfl⟩, _ | ⟨⟨⟩, _ | ⟨⟨rfl, rfl⟩, _ | ⟨signals, rest⟩⟩⟩⟩ := answered
  obtain rfl := (signals.1 rfl).2
  obtain _ | ⟨⟨⟩, _ | ⟨⟨⟩, _ | ⟨⟨⟩, _ | ⟨closes, rest⟩⟩⟩⟩ := rest
  obtain rfl := closes.1 rfl
  cases rest
  rfl

/-- The field of the event is only ever cleared. -/
def Clears (h : History termios) : Prop :=
  ∀ value r, (⟨.setCloseEventReadFd value, r⟩ : Event termios) ∈ h → value = INVALID_FD

/-- `close0` as a whole leaves the closed port, whatever `tcflush` and `close` report. -/
theorem close0_closes (n : Numbers) (s : Settings) (env : Env) :
    mwp Clears [] env (close0 s) (fun h _ _ => ∀ σ, n.Answered n.opened h σ → σ = Port.closed) := by
  simp only [close0, getFd, Method.mwp_bind, mwp_ask, Method.rest_ok]
  refine fun fd => ⟨?_, fun _ =>
    ⟨?_, fun event => ⟨?_,
    fun _ => ⟨?_, fun _ => ⟨?_, fun _ => ⟨?_, fun _ => ⟨?_, fun result => ⟨?_, ?_⟩⟩⟩⟩⟩⟩⟩⟩
  case refine_9 =>
    cases result with
    | ok => exact Method.mwp_pure.mpr fun σ answered => answered_closed answered
    | error errno => exact mwp_throwing.mpr fun σ answered => answered_closed answered
  all_goals simp [Clears]

end Closing
end Numbers

theorem five_valid : (5 : ℤ) ≠ INVALID_FD := by decide

theorem six_valid : (6 : ℤ) ≠ INVALID_FD := by decide

/-- A port on descriptor `5` whose event is the eventfd `6`. -/
def numbers : Numbers := ⟨5, 6, 6, five_valid, six_valid⟩

/-- Nothing is thrown when a native function is called. -/
def calling : Env := ⟨[], .EAGAIN, []⟩

end Spsw.Jni.TermiosIO

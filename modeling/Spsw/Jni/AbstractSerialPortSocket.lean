import Spsw.Interaction.Stateful
import Spsw.Jni.TermiosCommon
import Spsw.Jnhw.SettingsMachine

/-!
# The setters of `AbstractSerialPortSocket`

Each setter packs its parameter into an int for the native `setParameters`. Three of
them say more about a refusal, and the one of the data bits asks for those there are.
-/
namespace Spsw.Jni.AbstractSerialPortSocket
open JavaException (illegalArgumentException)
open Stateful

section Setters
variable {σ : Type}

/-- `catch (IllegalArgumentException ex)` around a setter, with the message made in the handler. -/
def relabel (m : EStateM JavaException σ Unit) (message : EStateM JavaException σ String) :
    EStateM JavaException σ Unit :=
  tryCatch m fun e => match e with
    | .illegalArgumentException _ => do
        let message ← message
        throw (illegalArgumentException message)
    | e => throw e

variable (portName : String) (setParameters : BitVec 32 → EStateM JavaException σ Unit)
  (getDatatBits : EStateM JavaException σ DataBits)

def setSpeed (speed : Speed) : EStateM JavaException σ Unit :=
  relabel (setParameters (SPEED speed))
    (pure ("Can't set speed " ++ speed.name ++ " on port: " ++ portName))

def setDataBits (dataBits : DataBits) : EStateM JavaException σ Unit :=
  relabel (setParameters (DATA_BITS dataBits)) do
    let value ← getDatatBits
    pure ("Can't set dataBits " ++ dataBits.name ++ " on port: " ++ portName ++
      " value is:" ++ value.name)

def setFlowControl (flowControls : Finset FlowControl) : EStateM JavaException σ Unit :=
  setParameters (flowControlsToBitSet flowControls)

def setParity (parity : Parity) : EStateM JavaException σ Unit := setParameters (PARITY parity)

def setStopBits (stopBits : StopBits) : EStateM JavaException σ Unit :=
  relabel (setParameters (STOP_BITS stopBits))
    (pure ("Can't set stopBits " ++ stopBits.name ++ " on port: " ++ portName))

/-- `toBitSet` of the parameter of a setter. -/
def bitSet : SettingsCall → BitVec 32
  | .setSpeed speed => SPEED speed
  | .setDataBits dataBits => DATA_BITS dataBits
  | .setStopBits stopBits => STOP_BITS stopBits
  | .setParity parity => PARITY parity
  | .setFlowControl flowControls => flowControlsToBitSet flowControls

def perform : SettingsCall → EStateM JavaException σ Unit
  | .setSpeed speed => setSpeed portName setParameters speed
  | .setDataBits dataBits => setDataBits portName setParameters getDatatBits dataBits
  | .setStopBits stopBits => setStopBits portName setParameters stopBits
  | .setParity parity => setParity setParameters parity
  | .setFlowControl flowControls => setFlowControl setParameters flowControls

end Setters

section Outcomes
variable {σ : Type} {portName : String} {setParameters : BitVec 32 → EStateM JavaException σ Unit}
  {getDatatBits : EStateM JavaException σ DataBits} {call : SettingsCall} {s s' : σ}

theorem relabel_ok {m : EStateM JavaException σ Unit} {message : EStateM JavaException σ String}
    (returned : m s = .ok () s') : relabel m message s = .ok () s' := tryCatch_of_ok returned

theorem relabel_refused {m : EStateM JavaException σ Unit}
    {message : EStateM JavaException σ String} {text : String}
    (refused : m s = .error (.illegalArgumentException text) s') (made : (∃ text,
    message s' = .ok text s') ∨ ∃ text, message s' = .error (.illegalArgumentException text) s') :
    ∃ text, relabel m message s = .error (.illegalArgumentException text) s' := by
  rw [relabel, tryCatch_of_error refused]
  rcases made with ⟨text, returned⟩ | ⟨text, thrown⟩
  · exact ⟨text, bind_of_ok returned⟩
  · exact ⟨text, bind_of_error thrown⟩

/-- A setter sets the one parameter of its call. -/
theorem toBitSet_params (call : SettingsCall) : toBitSet call.params = bitSet call := by
  cases call <;> simp [toBitSet, SettingsCall.params, bitSet]

theorem perform_ok (returned : setParameters (toBitSet call.params) s = .ok () s') :
    perform portName setParameters getDatatBits call s = .ok () s' := by
  rw [toBitSet_params] at returned
  cases call with
  | setSpeed speed => exact relabel_ok returned
  | setDataBits dataBits => exact relabel_ok returned
  | setStopBits stopBits => exact relabel_ok returned
  | setParity parity => exact returned
  | setFlowControl flowControls => exact returned

theorem perform_refused {text : String}
    (refused : setParameters (toBitSet call.params) s = .error (.illegalArgumentException text) s')
    (read : ∃ dataBits, getDatatBits s' = .ok dataBits s') :
    ∃ text, perform portName setParameters getDatatBits call s =
      .error (.illegalArgumentException text) s' := by
  rw [toBitSet_params] at refused
  cases call with
  | setSpeed speed => exact relabel_refused refused (.inl ⟨_, rfl⟩)
  | setDataBits dataBits =>
      obtain ⟨value, read⟩ := read
      exact relabel_refused refused (.inl ⟨_, bind_of_ok read⟩)
  | setStopBits stopBits => exact relabel_refused refused (.inl ⟨_, rfl⟩)
  | setParity parity => exact ⟨text, refused⟩
  | setFlowControl flowControls => exact ⟨text, refused⟩

/-- What is thrown is no illegal argument unless it was one before it was relabelled. -/
theorem relabel_error {m : EStateM JavaException σ Unit} {message : EStateM JavaException σ String}
    {e : JavaException} (keeps : Keeps message) (thrown : m s = .error e s') :
    ∃ e', relabel m message s = .error e' s' ∧ (e'.IsIllegalArgument → e.IsIllegalArgument) := by
  rw [relabel, tryCatch_of_error thrown]
  cases e with
  | illegalArgumentException text =>
      rcases keeps s' with ⟨text', made⟩ | ⟨e', failed⟩
      · exact ⟨_, bind_of_ok made, fun _ => ⟨text, rfl⟩⟩
      · exact ⟨_, bind_of_error failed, fun _ => ⟨text, rfl⟩⟩
  | _ => exact ⟨_, rfl, fun illegal => illegal⟩

theorem perform_error {e : JavaException} (keeps : Keeps getDatatBits)
    (thrown : setParameters (toBitSet call.params) s = .error e s') :
    ∃ e', perform portName setParameters getDatatBits call s = .error e' s' ∧
      (e'.IsIllegalArgument → e.IsIllegalArgument) := by
  rw [toBitSet_params] at thrown
  cases call with
  | setSpeed speed => exact relabel_error (keeps_pure _) thrown
  | setDataBits dataBits => exact relabel_error (keeps_bind keeps fun _ => keeps_pure _) thrown
  | setStopBits stopBits => exact relabel_error (keeps_pure _) thrown
  | setParity parity => exact ⟨e, thrown, fun illegal => illegal⟩
  | setFlowControl flowControls => exact ⟨e, thrown, fun illegal => illegal⟩

end Outcomes
end Spsw.Jni.AbstractSerialPortSocket

import Spsw.Interaction.Answered
import Spsw.Interaction.Grip
import Spsw.Jni.WinApiIO
import Spsw.Resources.Inventory

/-!
# The handles of a native socket on Windows

Every read and write creates an event and closes it again, so the system gives out the
same numbers many times. Which handles are open is shared by all the calls; what was
obtained and closed is written down.
-/
namespace Spsw.Jni.WinApiIO
open Interaction
open Resources (Inventory)
open Jnhw (INVALID_HANDLE_VALUE)

structure Handles extends Inventory ℤ where
  fd : ℤ
  cleanerFd : ℤ

namespace Handles
variable (σ : Handles)

def initial : Handles := ⟨.empty, INVALID_HANDLE_VALUE, INVALID_HANDLE_VALUE⟩

/-- `INVALID_HANDLE_VALUE` and `NULL` are nobody's. -/
def Nobody (handle : ℤ) : Prop := handle = INVALID_HANDLE_VALUE ∨ handle = NULL

instance : DecidablePred Nobody := fun _ => inferInstanceAs (Decidable (_ ∨ _))

abbrev Fresh (handle : ℤ) : Prop := σ.toInventory.Fresh Nobody handle

def obtain (handle : ℤ) : Handles := { σ with toInventory := σ.toInventory.obtain handle }

def touch (handle : ℤ) : Handles := { σ with toInventory := σ.toInventory.touch Nobody handle }

def close (handle : ℤ) : Handles := { σ with toInventory := σ.toInventory.close Nobody handle }

/-- A handle that may be closed. -/
abbrev Mine (handle : ℤ) : Prop := σ.toInventory.Mine Nobody handle

/-- How the system answers a request, and what is open afterwards. The handles that `CancelIo`
and `CloseHandle` name are put down, even where they fail. -/
def answers : Event winApi → Handles → Prop
  | ⟨.getFd, r⟩, σ' => r = σ.fd ∧ σ' = σ
  | ⟨.setFd value, _⟩, σ' => σ' = { σ with fd := value }
  | ⟨.getCleanerFd, r⟩, σ' => r = σ.cleanerFd ∧ σ' = σ
  | ⟨.setCleanerFd value, _⟩, σ' => σ' = { σ with cleanerFd := value }
  | ⟨.CreateFile _, .ok hFile⟩, σ' => σ.Fresh hFile ∧ σ' = σ.obtain hFile
  | ⟨.CreateEventA, hEvent⟩, σ' => hEvent = NULL ∧ σ' = σ ∨ σ.Fresh hEvent ∧ σ' = σ.obtain hEvent
  | ⟨.ReadFile hFile _ _, r⟩, σ' => (σ.opened hFile = false → Refused r) ∧ σ' = σ
  | ⟨.WriteFile hFile _ _, r⟩, σ' => (σ.opened hFile = false → Refused r) ∧ σ' = σ
  | ⟨.CancelIo handle, _⟩, σ' => σ' = σ.touch handle
  | ⟨.CloseHandle handle, .ok ()⟩, σ' => σ' = σ.close handle
  | ⟨.CloseHandle handle, .error _⟩, σ' => σ' = σ.touch handle
  | _, σ' => σ' = σ

/-- No `CloseHandle` of an open handle fails. -/
def Closes : Event winApi → Prop
  | ⟨.CloseHandle handle, r⟩ => σ.opened handle = true → r = .ok ()
  | _ => True

abbrev Kept : Prop := σ.toInventory.Kept Nobody

abbrev Gone : Prop := σ.toInventory.Gone Nobody

variable {σ} {σ' : Handles} {handle : ℤ}

@[simp] theorem touch_opened : (σ.touch handle).opened = σ.opened := Inventory.touch_opened

@[simp] theorem touch_fd : (σ.touch handle).fd = σ.fd := rfl

@[simp] theorem touch_cleanerFd : (σ.touch handle).cleanerFd = σ.cleanerFd := rfl

@[simp] theorem close_fd : (σ.close handle).fd = σ.fd := rfl

@[simp] theorem close_cleanerFd : (σ.close handle).cleanerFd = σ.cleanerFd := rfl

/-- A `CloseHandle` that closes what is open has closed it, or there was nobody. -/
theorem closed_of_closes {r : Except ℕ Unit} (mine : σ.Mine handle)
    (answer : σ.answers ⟨.CloseHandle handle, r⟩ σ') (closes : σ.Closes ⟨.CloseHandle handle, r⟩) :
    σ' = σ.close handle := by
  cases r with
  | ok => exact answer
  | error errno =>
      obtain rfl : σ' = σ.touch handle := answer
      rcases mine with nobody | opened
      · rw [Handles.touch, Handles.close, Inventory.touch_nobody nobody,
          Inventory.close_nobody nobody]
      · cases closes opened

end Handles
end Spsw.Jni.WinApiIO

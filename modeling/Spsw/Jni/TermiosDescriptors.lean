import Spsw.Interaction.Answered
import Spsw.Jni.TermiosLife
import Spsw.Resources.Inventory

/-!
# Who closes the descriptors of a native POSIX socket

The one who closes the port leaves the event that tells of it to the cleaner, and the port
as well if closing it fails. A `close` that fails may have let go of the descriptor all the
same; the number may be somebody else's by the time it is closed again.
-/
namespace Spsw.Jni.TermiosLife
open Interaction
open Jnhw (Errno INVALID_FD)
open Resources (Inventory)

/-- The fields of the socket and of its cleaner, what is open, and whether a `close` that failed
has let go of its descriptor. -/
structure Table extends Inventory ℤ where
  socket : Part → ℤ
  cleaner : Part → ℤ
  lost : Bool

namespace Table
variable (σ : Table)

def initial : Table := ⟨.empty, fun _ => INVALID_FD, fun _ => INVALID_FD, false⟩

abbrev Nobody (fd : ℤ) : Prop := fd = INVALID_FD

abbrev Fresh (fd : ℤ) : Prop := σ.toInventory.Fresh Nobody fd

def setSocket (part : Part) (fd : ℤ) : Table :=
  { σ with socket := Function.update σ.socket part fd }

def setCleaner (part : Part) (fd : ℤ) : Table :=
  { σ with cleaner := Function.update σ.cleaner part fd }

def obtain (fd : ℤ) : Table := { σ with toInventory := σ.toInventory.obtain fd }

def touch (fd : ℤ) : Table := { σ with toInventory := σ.toInventory.touch Nobody fd }

def close (fd : ℤ) : Table := { σ with toInventory := σ.toInventory.close Nobody fd }

/-- A descriptor that may be named. -/
abbrev Mine (fd : ℤ) : Prop := σ.toInventory.Mine Nobody fd

/-- How the system answers a request, and what is open afterwards. Reads and writes run while
the port is being closed, and their uses are not put down. -/
def answers : Event life → Table → Prop
  | ⟨.io .getFd, r⟩, σ' => r = σ.socket .port ∧ σ' = σ
  | ⟨.io .getCloseEventReadFd, r⟩, σ' => r = σ.socket .eventRead ∧ σ' = σ
  | ⟨.io .getCloseEventWriteFd, r⟩, σ' => r = σ.socket .eventWrite ∧ σ' = σ
  | ⟨.io (.setFd fd), _⟩, σ' => σ' = σ.setSocket .port fd
  | ⟨.io (.setCloseEventReadFd fd), _⟩, σ' => σ' = σ.setSocket .eventRead fd
  | ⟨.io (.setCloseEventWriteFd fd), _⟩, σ' => σ' = σ.setSocket .eventWrite fd
  | ⟨.getCleaner part, r⟩, σ' => r = σ.cleaner part ∧ σ' = σ
  | ⟨.setCleaner part fd, _⟩, σ' => σ' = σ.setCleaner part fd
  | ⟨.«open» _, .ok fd⟩, σ' => σ.Fresh fd ∧ σ' = σ.obtain fd
  | ⟨.eventfd, .ok fd⟩, σ' => σ.Fresh fd ∧ σ' = σ.obtain fd
  | ⟨.pipe, .ok pipedes⟩, σ' => σ.Fresh pipedes.1 ∧ (σ.obtain pipedes.1).Fresh pipedes.2 ∧
      σ' = (σ.obtain pipedes.1).obtain pipedes.2
  | ⟨.io (.writeEvent fd), _⟩, σ' => σ' = σ.touch fd
  | ⟨.io (.tcflush fd), _⟩, σ' => σ' = σ.touch fd
  | ⟨.tcgetattr fd, _⟩, σ' => σ' = σ.touch fd
  | ⟨.TIOCEXCL fd, _⟩, σ' => σ' = σ.touch fd
  | ⟨.tcsetattr fd _, _⟩, σ' => σ' = σ.touch fd
  | ⟨.io (.close fd), .ok ()⟩, σ' => σ' = σ.close fd
  | ⟨.io (.close fd), .error _⟩, σ' =>
      σ' = σ.touch fd ∨ σ.opened fd = true ∧ σ' = { σ.close fd with lost := true }
  | _, σ' => σ' = σ

/-- No `close` of an open descriptor fails. -/
def Closes : Event life → Prop
  | ⟨.io (.close fd), r⟩ => σ.opened fd = true → r = .ok ()
  | _ => True

abbrev Kept : Prop := σ.toInventory.Kept Nobody

abbrev Gone : Prop := σ.toInventory.Gone Nobody

/-- A descriptor was named after it had been closed. -/
abbrev Spoiled : Prop := σ.toInventory.Spoiled

/-- The number is that of a descriptor that was closed. -/
abbrev Stale (fd : ℤ) : Prop := σ.toInventory.Stale fd

section Laws
variable {σ} {σ' : Table} {part part' : Part} {fd fd' : ℤ}

@[simp] theorem setSocket_self : (σ.setSocket part fd).socket part = fd :=
  Function.update_self _ _ _

theorem setSocket_other (other : part' ≠ part) :
    (σ.setSocket part fd).socket part' = σ.socket part' :=
  Function.update_of_ne other _ _

@[simp] theorem setCleaner_self : (σ.setCleaner part fd).cleaner part = fd :=
  Function.update_self _ _ _

theorem setCleaner_other (other : part' ≠ part) :
    (σ.setCleaner part fd).cleaner part' = σ.cleaner part' :=
  Function.update_of_ne other _ _

theorem touch_nobody (nobody : Nobody fd) : σ.touch fd = σ := by
  rw [touch, Inventory.touch_nobody nobody]

theorem close_nobody (nobody : Nobody fd) : σ.close fd = σ := by
  rw [close, Inventory.close_nobody nobody]

@[simp] theorem touch_opened : (σ.touch fd).opened = σ.opened := Inventory.touch_opened

@[simp] theorem touch_socket : (σ.touch fd).socket = σ.socket := rfl

@[simp] theorem touch_cleaner : (σ.touch fd).cleaner = σ.cleaner := rfl

@[simp] theorem touch_lost : (σ.touch fd).lost = σ.lost := rfl

@[simp] theorem close_cleaner : (σ.close fd).cleaner = σ.cleaner := rfl

@[simp] theorem close_lost : (σ.close fd).lost = σ.lost := rfl

end Laws
end Table
end Spsw.Jni.TermiosLife

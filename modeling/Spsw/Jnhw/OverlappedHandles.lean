import Spsw.Interaction.Answered
import Spsw.Jnhw.OverlappedIO
import Spsw.Resources.Inventory

/-!
# Who closes the handles of a Windows socket

The one who closes the port and the cleaner share the three handles: what the first could not
close is what the fields of the cleaner still name. The system gives out numbers again, so a
handle that is closed twice may be somebody else's by then; the ledger has every such deed.
-/
namespace Spsw.Jnhw.OverlappedIO
open Interaction
open Interaction.Method (amwp amwp_mono amwp_bind amwp_request amwp_request_bind
  amwp_pure amwp_raise arest)
open Resources (Inventory)
open Jni.WinApiIO (Refused)

structure Handles extends Inventory ℤ where
  field : Field → ℤ
  registered : Bool

namespace Handles
variable (σ : Handles)

def initial : Handles := ⟨.empty, fun _ => INVALID_HANDLE_VALUE, false⟩

abbrev Nobody (handle : ℤ) : Prop := handle = INVALID_HANDLE_VALUE

abbrev Fresh (handle : ℤ) : Prop := σ.toInventory.Fresh Nobody handle

def set (f : Field) (handle : ℤ) : Handles := { σ with field := Function.update σ.field f handle }

def obtain (handle : ℤ) : Handles := { σ with toInventory := σ.toInventory.obtain handle }

def touch (handle : ℤ) : Handles := { σ with toInventory := σ.toInventory.touch Nobody handle }

def close (handle : ℤ) : Handles := { σ with toInventory := σ.toInventory.close Nobody handle }

/-- A handle that may be named. -/
abbrev Mine (handle : ℤ) : Prop := σ.toInventory.Mine Nobody handle

/-- How the system answers a request, and what is open afterwards. Transfers run while the
port is being closed, and their uses are not put down. -/
def answers : Event overlapped → Handles → Prop
  | ⟨.get f, r⟩, σ' => r = σ.field f ∧ σ' = σ
  | ⟨.set f handle, _⟩, σ' => σ' = σ.set f handle
  | ⟨.CreateFileW _, .ok handle⟩, σ' => σ.Fresh handle ∧ σ' = σ.obtain handle
  | ⟨.CreateEventW, .ok handle⟩, σ' => σ.Fresh handle ∧ σ' = σ.obtain handle
  | ⟨.register, _⟩, σ' => σ' = { σ with registered := true }
  | ⟨.CloseHandle handle, .ok ()⟩, σ' => σ' = σ.close handle
  | ⟨.CloseHandle handle, .error _⟩, σ' => σ' = σ.touch handle
  | ⟨.CancelIo handle, _⟩, σ' => σ' = σ.touch handle
  | ⟨.GetCommState handle, _⟩, σ' => σ' = σ.touch handle
  | ⟨.SetCommState handle _, _⟩, σ' => σ' = σ.touch handle
  | ⟨.GetCommTimeouts handle, _⟩, σ' => σ' = σ.touch handle
  | ⟨.SetCommTimeouts handle _, _⟩, σ' => σ' = σ.touch handle
  | ⟨.ReadFile handle _ _, r⟩, σ' => (σ.opened handle = false → Refused r) ∧ σ' = σ
  | ⟨.WriteFile handle _ _, r⟩, σ' => (σ.opened handle = false → Refused r) ∧ σ' = σ
  | _, σ' => σ' = σ

/-- No `CloseHandle` of an open handle fails. -/
def Closes : Event overlapped → Prop
  | ⟨.CloseHandle handle, r⟩ => σ.opened handle = true → r = .ok ()
  | _ => True

abbrev Kept : Prop := σ.toInventory.Kept Nobody

abbrev Gone : Prop := σ.toInventory.Gone Nobody

/-- What is open, the cleaner knows of by the fields `parts`, and of nothing else. -/
structure Known (parts : Set Part) (σ : Handles) : Prop where
  kept : σ.Kept
  own : ∀ part ∈ parts, σ.field (.cleaner part) = INVALID_HANDLE_VALUE ∨
    σ.opened (σ.field (.cleaner part)) = true
  named : ∀ handle, σ.opened handle = true → ∃ part ∈ parts, σ.field (.cleaner part) = handle
  apart : ∀ part ∈ parts, ∀ other ∈ parts, σ.field (.cleaner part) ≠ INVALID_HANDLE_VALUE →
    σ.field (.cleaner part) = σ.field (.cleaner other) → part = other

/-- The cleaner knows of everything. -/
abbrev Owned (σ : Handles) : Prop := Known Set.univ σ

/-- The socket still has all that its cleaner knows of. -/
structure Mirrored (σ : Handles) : Prop where
  owned : Owned σ
  same : ∀ part, σ.field (.socket part) = σ.field (.cleaner part)

section Laws
variable {σ} {σ' : Handles} {parts : Set Part} {part : Part} {f : Field} {handle : ℤ}

@[simp] theorem set_opened : (σ.set f handle).opened = σ.opened := rfl

@[simp] theorem set_log : (σ.set f handle).log = σ.log := rfl

@[simp] theorem set_registered : (σ.set f handle).registered = σ.registered := rfl

@[simp] theorem set_self : (σ.set f handle).field f = handle := Function.update_self _ _ _

theorem set_other {f' : Field} (other : f' ≠ f) : (σ.set f handle).field f' = σ.field f' :=
  Function.update_of_ne other _ _

@[simp] theorem touch_opened : (σ.touch handle).opened = σ.opened := Inventory.touch_opened

@[simp] theorem touch_field : (σ.touch handle).field = σ.field := rfl

@[simp] theorem touch_registered : (σ.touch handle).registered = σ.registered := rfl

@[simp] theorem close_field : (σ.close handle).field = σ.field := rfl

@[simp] theorem close_registered : (σ.close handle).registered = σ.registered := rfl

theorem Known.mine (known : Known parts σ) (member : part ∈ parts) :
    σ.Mine (σ.field (.cleaner part)) :=
  known.own part member

section Known

/-- A state that differs in other fields only. -/
theorem Known.same (known : Known parts σ) (kept : σ'.Kept)
    (fields : ∀ part, σ'.field (.cleaner part) = σ.field (.cleaner part))
    (opened : σ'.opened = σ.opened) : Known parts σ' := by
  constructor
  case kept => exact kept
  case own =>
    intro part member
    rw [fields, opened]
    exact known.own part member
  case named =>
    intro handle still
    rw [opened] at still
    obtain ⟨part, member, same⟩ := known.named handle still
    exact ⟨part, member, (fields part).trans same⟩
  case apart =>
    intro part member other member' valid same
    rw [fields] at valid
    rw [fields, fields] at same
    exact known.apart part member other member' valid same

theorem Known.touch (known : Known parts σ) (mine : σ.Mine handle) : Known parts (σ.touch handle) :=
  known.same (known.kept.touch mine) (by simp) touch_opened

/-- A field of the socket is set. -/
theorem Known.set (known : Known parts σ) (other : ∀ part, f ≠ .cleaner part) :
    Known parts (σ.set f handle) :=
  known.same known.kept (fun part => set_other (other part).symm) rfl

/-- A handle that the cleaner knows of is closed, and it does not ask again. -/
theorem Known.closed (known : Known parts σ) (member : part ∈ parts) :
    Known (parts \ {part}) (σ.close (σ.field (.cleaner part))) := by
  have mine := known.mine member
  constructor
  case kept => exact known.kept.close mine
  case own =>
    rintro other ⟨member', ne⟩
    rw [close_field]
    refine (known.own other member').imp_right fun opened => ?_
    refine (Inventory.opened_close known.kept _).mpr ⟨opened, fun same => ne ?_⟩
    refine known.apart other member' part member ?_ same
    intro none
    rw [none, known.kept.nobody _ rfl] at opened
    cases opened
  case named =>
    intro handle opened
    obtain ⟨before, other⟩ := (Inventory.opened_close known.kept _).mp opened
    obtain ⟨part', member', rfl⟩ := known.named handle before
    refine ⟨part', ⟨member', ?_⟩, congrFun close_field _⟩
    rintro rfl
    exact other rfl
  case apart =>
    rintro part' ⟨member', -⟩ other ⟨member'', -⟩ valid same
    rw [close_field] at valid same
    exact known.apart part' member' other member'' valid same

/-- The cleaner forgets a part. -/
theorem Known.forget (known : Known (parts \ {part}) σ) :
    Known parts (σ.set (.cleaner part) INVALID_HANDLE_VALUE) := by
  have others : ∀ other, other ≠ part →
    (σ.set (.cleaner part) INVALID_HANDLE_VALUE).field (.cleaner other) =
      σ.field (.cleaner other) := fun other ne => set_other fun same => ne (Field.cleaner.inj same)
  constructor
  case kept => exact known.kept
  case own =>
    intro other member
    by_cases same : other = part
    · subst same
      exact .inl set_self
    · rw [others other same]
      exact known.own other ⟨member, same⟩
  case named =>
    intro handle opened
    obtain ⟨other, ⟨member, ne⟩, named⟩ := known.named handle opened
    exact ⟨other, member, (others other ne).trans named⟩
  case apart =>
    intro part' member other member' valid same
    by_cases first : part' = part
    · subst first
      exact absurd set_self valid
    · rw [others part' first] at valid same
      by_cases second : other = part
      · subst second
        exact absurd (same.trans set_self) valid
      · rw [others other second] at same
        exact known.apart part' ⟨member, first⟩ other ⟨member', second⟩ valid same

/-- The cleaner learns of a handle that has just been obtained. -/
theorem Known.learn (known : Known parts σ)
    (unknown : σ.field (.cleaner part) = INVALID_HANDLE_VALUE) (member : part ∈ parts)
    (fresh : σ.Fresh handle) : Known parts ((σ.obtain handle).set (.cleaner part) handle) := by
  have others : ∀ other, other ≠ part →
    ((σ.obtain handle).set (.cleaner part) handle).field (.cleaner other) =
      σ.field (.cleaner other) := fun other ne => set_other fun same => ne (Field.cleaner.inj same)
  have kept_open : ∀ h, σ.opened h = true → (σ.obtain handle).opened h = true := by
    intro h opened
    by_cases same : h = handle
    · rw [same]
      exact Function.update_self _ _ _
    · exact (Function.update_of_ne same _ _).trans opened
  have new : ∀ other ∈ parts, σ.field (.cleaner other) ≠ handle := by
    rintro other member' rfl
    rcases known.own other member' with none | opened
    · exact fresh.2 none
    · rw [fresh.1] at opened
      cases opened
  constructor
  case kept => exact known.kept.obtain fresh
  case own =>
    intro other member'
    by_cases same : other = part
    · subst same
      rw [set_self]
      exact .inr (Function.update_self _ _ _)
    · rw [others other same]
      exact (known.own other member').imp_right (kept_open _)
  case named =>
    intro h opened
    by_cases same : h = handle
    · subst same
      exact ⟨part, member, set_self⟩
    · have before : σ.opened h = true := (Function.update_of_ne same _ _).symm.trans opened
      obtain ⟨other, member', rfl⟩ := known.named h before
      refine ⟨other, member', others other ?_⟩
      rintro rfl
      rw [unknown, known.kept.nobody _ rfl] at before
      cases before
  case apart =>
    intro part' member' other member'' valid same
    by_cases first : part' = part
    · subst first
      by_contra ne
      rw [set_self, others other (Ne.symm ne)] at same
      exact new other member'' same.symm
    · rw [others part' first] at valid same
      by_cases second : other = part
      · subst second
        rw [set_self] at same
        exact absurd same (new part' member')
      · rw [others other second] at same
        exact known.apart part' member' other member'' valid same

end Known
end Laws
end Handles
end Spsw.Jnhw.OverlappedIO

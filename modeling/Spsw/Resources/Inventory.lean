import Spsw.Resources.Reuse

/-!
# What is open, and the ledger

Numbers are given out, named by calls and closed. Some of them are nobody's: these are never
given out, and a call that names one does nothing.
-/
namespace Resources
variable {τ : Type} [DecidableEq τ]

structure Inventory (τ : Type) where
  opened : τ → Bool
  log : List (Deed τ)

namespace Inventory

def empty : Inventory τ := ⟨fun _ => false, []⟩

section Deeds
variable (σ : Inventory τ) (Nobody : τ → Prop)

/-- What may be given out. -/
def Fresh (t : τ) : Prop := σ.opened t = false ∧ ¬Nobody t

/-- What may be named: it is open, or nobody's. -/
def Mine (t : τ) : Prop := Nobody t ∨ σ.opened t = true

def obtain (t : τ) : Inventory τ := ⟨Function.update σ.opened t true, σ.log ++ [.obtain t]⟩

/-- What is open is what is held. -/
structure Kept : Prop where
  holding : Holding {t | σ.opened t = true} σ.log
  nobody : ∀ t, Nobody t → σ.opened t = false

/-- Nothing is open. -/
structure Gone : Prop where
  kept : σ.Kept Nobody
  shut : ∀ t, σ.opened t = false

/-- One number alone is open. -/
structure Only (t : τ) : Prop where
  kept : σ.Kept Nobody
  opened : ∀ t', σ.opened t' = true ↔ t' = t

/-- The number is that of something that was closed. -/
def Stale (t : τ) : Prop := stage (stamp σ.log) (current σ.log t) = .closed

/-- Something was named after it had been closed. -/
def Spoiled : Prop := ∃ x, stage (stamp σ.log) x = .misused

variable [DecidablePred Nobody]

def touch (t : τ) : Inventory τ := if Nobody t then σ else { σ with log := σ.log ++ [.use t] }

/-- Any other number is closed, were it somebody else's by now. -/
def close (t : τ) : Inventory τ :=
  if Nobody t then σ else ⟨Function.update σ.opened t false, σ.log ++ [.close t]⟩

end Deeds

section Laws
variable {σ σ' : Inventory τ} {Nobody : τ → Prop} {t t' : τ}

theorem obtain_opened (t t' : τ) : (σ.obtain t).opened t' = true ↔ t' = t ∨ σ.opened t' = true := by
  by_cases same : t' = t <;> simp [obtain, same]

theorem kept_empty : (empty : Inventory τ).Kept Nobody where
  holding := by
    rw [show {t | empty.opened t = true} = (∅ : Set τ) by simp [empty]]
    exact .nil
  nobody _ _ := rfl

theorem gone_empty : (empty : Inventory τ).Gone Nobody := ⟨kept_empty, fun _ => rfl⟩

theorem Kept.somebody (kept : σ.Kept Nobody) (opened : σ.opened t = true) : ¬Nobody t :=
  fun nobody => absurd opened (by simp [kept.nobody t nobody])

theorem Kept.obtain (kept : σ.Kept Nobody) (fresh : σ.Fresh Nobody t) :
    (σ.obtain t).Kept Nobody where
  holding := kept.holding.obtained fresh.1
  nobody t' nobody := by
    have other : t' ≠ t := by
      rintro rfl
      exact fresh.2 nobody
    exact (Function.update_of_ne other _ _).trans (kept.nobody t' nobody)

theorem Gone.obtain (gone : σ.Gone Nobody) (fresh : σ.Fresh Nobody t) :
    (σ.obtain t).Only Nobody t := by
  refine ⟨gone.kept.obtain fresh, fun t' => (obtain_opened t t').trans (or_iff_left ?_)⟩
  rw [gone.shut t']
  exact Bool.false_ne_true

theorem Only.mine (only : σ.Only Nobody t) : σ.Mine Nobody t := .inr ((only.opened t).mpr rfl)

theorem Gone.accounted (gone : σ.Gone Nobody) : Accounted (stamp σ.log) :=
  gone.kept.holding.accounted_table gone.shut

/-- The ledger only goes on. -/
theorem Spoiled.append (spoiled : σ.Spoiled) (log : List (Deed τ)) (same : σ'.log = σ.log ++ log) :
    σ'.Spoiled := by
  obtain ⟨x, misused⟩ := spoiled
  obtain ⟨rest, goes_on⟩ := stamp_append σ.log log
  exact ⟨x, by rw [same, goes_on]; exact misused_append misused⟩

theorem Spoiled.not_accounted (spoiled : σ.Spoiled) : ¬Accounted (stamp σ.log) := by
  obtain ⟨x, misused⟩ := spoiled
  exact Resources.not_accounted misused

section Named
variable [DecidablePred Nobody]

omit [DecidableEq τ] in
theorem touch_nobody (nobody : Nobody t) : σ.touch Nobody t = σ := if_pos nobody

theorem close_nobody (nobody : Nobody t) : σ.close Nobody t = σ := if_pos nobody

omit [DecidableEq τ] in
@[simp] theorem touch_opened : (σ.touch Nobody t).opened = σ.opened := by
  rw [touch]
  split <;> rfl

theorem opened_close (kept : σ.Kept Nobody) (t' : τ) :
    (σ.close Nobody t).opened t' = true ↔ σ.opened t' = true ∧ t' ≠ t := by
  rw [close]
  split
  · next nobody =>
      refine ⟨fun opened => ⟨opened, ?_⟩, And.left⟩
      rintro rfl
      exact kept.somebody opened nobody
  · by_cases same : t' = t <;> simp [same]

/-- What is not open is not opened by a close. -/
theorem close_shut (shut : σ.opened t' = false) : (σ.close Nobody t).opened t' = false := by
  rw [close]
  split
  · exact shut
  · by_cases same : t' = t <;> simp [same, shut]

theorem Kept.touch (kept : σ.Kept Nobody) (mine : σ.Mine Nobody t) :
    (σ.touch Nobody t).Kept Nobody := by
  rw [Inventory.touch]
  split
  · exact kept
  · next somebody => exact ⟨kept.holding.use (mine.resolve_left somebody), kept.nobody⟩

theorem Kept.close (kept : σ.Kept Nobody) (mine : σ.Mine Nobody t) :
    (σ.close Nobody t).Kept Nobody where
  holding := by
    rw [Inventory.close]
    split
    · exact kept.holding
    · next somebody => exact kept.holding.closed (mine.resolve_left somebody)
  nobody t' nobody := close_shut (kept.nobody t' nobody)

theorem Only.touch (only : σ.Only Nobody t) : (σ.touch Nobody t).Only Nobody t := by
  refine ⟨only.kept.touch only.mine, fun t' => ?_⟩
  rw [touch_opened]
  exact only.opened t'

theorem Only.close (only : σ.Only Nobody t) : (σ.close Nobody t).Gone Nobody := by
  refine ⟨only.kept.close only.mine, fun t' => Bool.eq_false_iff.mpr fun opened => ?_⟩
  obtain ⟨before, other⟩ := (opened_close only.kept t').mp opened
  exact other ((only.opened t').mp before)

/-- What is closed may not be named again. -/
theorem Kept.stale (kept : σ.Kept Nobody) (opened : σ.opened t = true) :
    (σ.close Nobody t).Stale t := by
  rw [Inventory.close, if_neg (kept.somebody opened)]
  exact kept.holding.close_stage opened

theorem Stale.touch_other (stale : σ.Stale t) (other : t' ≠ t) : (σ.touch Nobody t').Stale t := by
  rw [Inventory.touch]
  split
  · exact stale
  · have about : (Deed.use t').subject ≠ t := other
    exact (stage_stamp_other about).trans stale

/-- Naming it again spoils the ledger. -/
theorem Stale.touch (stale : σ.Stale t) (somebody : ¬Nobody t) : (σ.touch Nobody t).Spoiled := by
  rw [Inventory.touch, if_neg somebody]
  exact ⟨_, stage_again stale (by simp)⟩

theorem Stale.close (stale : σ.Stale t) (somebody : ¬Nobody t) : (σ.close Nobody t).Spoiled := by
  rw [Inventory.close, if_neg somebody]
  exact ⟨_, stage_again stale (by simp)⟩

theorem Spoiled.touch (spoiled : σ.Spoiled) (t : τ) : (σ.touch Nobody t).Spoiled := by
  rw [Inventory.touch]
  split
  · exact spoiled
  · exact spoiled.append _ rfl

theorem Spoiled.close (spoiled : σ.Spoiled) (t : τ) : (σ.close Nobody t).Spoiled := by
  rw [Inventory.close]
  split
  · exact spoiled
  · exact spoiled.append _ rfl

end Named
end Laws
end Inventory
end Resources

import Spsw.Interaction.Method

/-!
# Programs that hold one thing at a time

What each answer puts into the hand of a program or takes out of it is given. A program
that never takes two things at once, gives back only what it holds, and has an empty hand
at its end, is one to whom things may be lent. The rules follow the methods.
-/
namespace Interaction

/-- What an answer has to do with the hand of a program. -/
inductive Handling (τ : Type) where
  | nothing
  | takes (t : τ)
  | gives (t : τ)
  | forbidden

inductive Grip (τ : Type) where
  | empty
  | holds (t : τ)
  | broken

variable {S : Signature} {τ : Type} [DecidableEq τ]

def Grip.next : Grip τ → Handling τ → Grip τ
  | grip, .nothing => grip
  | .empty, .takes t => .holds t
  | .holds t, .gives t' => if t' = t then .empty else .broken
  | _, _ => .broken

/-- What a program holds that was told `h`. -/
def gripOf (handling : Event S → Handling τ) (h : History S) : Grip τ :=
  h.foldl (fun grip ev => grip.next (handling ev)) .empty

/-- It has not lost its grip. -/
def Firm (handling : Event S → Handling τ) (h : History S) : Prop := gripOf handling h ≠ .broken

section Histories
variable {handling : Event S → Handling τ} {h : History S} {ev : Event S} {t : τ}

@[simp] theorem gripOf_nil : gripOf handling [] = .empty := rfl

theorem gripOf_snoc : gripOf handling (h ++ [ev]) = (gripOf handling h).next (handling ev) := by
  simp [gripOf]

theorem gripOf_nothing (nothing : handling ev = .nothing) :
    gripOf handling (h ++ [ev]) = gripOf handling h := by
  rw [gripOf_snoc, nothing]
  cases gripOf handling h <;> rfl

/-- A program takes only with an empty hand. -/
theorem Firm.takes (firm : Firm handling (h ++ [ev])) (takes : handling ev = .takes t) :
    gripOf handling h = .empty ∧ gripOf handling (h ++ [ev]) = .holds t := by
  rw [Firm, gripOf_snoc, takes] at firm
  rw [gripOf_snoc, takes]
  cases same : gripOf handling h with
  | empty => exact ⟨rfl, rfl⟩
  | holds t' => exact absurd (by rw [same]; rfl) firm
  | broken => exact absurd (by rw [same]; rfl) firm

/-- It gives back what it holds. -/
theorem Firm.gives (firm : Firm handling (h ++ [ev])) (gives : handling ev = .gives t) :
    gripOf handling h = .holds t ∧ gripOf handling (h ++ [ev]) = .empty := by
  rw [Firm, gripOf_snoc, gives] at firm
  rw [gripOf_snoc, gives]
  cases same : gripOf handling h with
  | empty => exact absurd (by rw [same]; rfl) firm
  | holds t' =>
      by_cases own : t = t'
      · subst own
        exact ⟨rfl, if_pos rfl⟩
      · exact absurd (by rw [same]; exact if_neg own) firm
  | broken => exact absurd (by rw [same]; rfl) firm

theorem Firm.allowed (firm : Firm handling (h ++ [ev])) : handling ev ≠ .forbidden := by
  intro forbidden
  apply firm
  rw [gripOf_snoc, forbidden]
  cases gripOf handling h <;> rfl

end Histories

namespace Method
variable {σ ε α β : Type} {handling : Event S → Handling τ} {grip grip' grip'' : Grip τ}

/-- What is held after a method: `grip` where it returns, nothing where it throws. -/
def handed (grip : Grip τ) : Except ε α → Grip τ
  | .ok _ => grip
  | .error _ => .empty

/-- A method that takes the hand from `grip` to `grip'`. -/
def Passes (handling : Event S → Handling τ) (grip grip' : Grip τ) (m : Method S σ ε α) : Prop :=
  ∀ h s, gripOf handling h = grip → mwp (Firm handling) h s m fun h' _ x =>
    gripOf handling h' = handed grip' x

namespace Passes

theorem pure (a : α) : Passes handling grip grip (Pure.pure a : Method S σ ε α) :=
  fun _ _ here => mwp_pure.mpr here

theorem raise (e : ε) : Passes handling .empty grip (Method.raise e : Method S σ ε α) :=
  fun _ _ here => mwp_raise.mpr here

theorem locals : Passes handling grip grip (Method.locals : Method S σ ε σ) :=
  fun _ _ here => mwp_locals.mpr here

theorem assign (f : σ → σ) : Passes handling grip grip (Method.assign f : Method S σ ε Unit) :=
  fun _ _ here => mwp_assign.mpr here

theorem bind {m : Method S σ ε α} {f : α → Method S σ ε β} (first : Passes handling grip grip' m)
    (rest : ∀ a, Passes handling grip' grip'' (f a)) : Passes handling grip grip'' (m >>= f) := by
  intro h s here
  apply mwp_seq (first h s here)
  · exact fun _ _ _ thrown => thrown
  · exact fun h' s' a after => rest a h' s' after

theorem ite {c : Prop} [Decidable c] {m m' : Method S σ ε α} (yes : Passes handling grip grip' m)
    (no : Passes handling grip grip' m') : Passes handling grip grip' (if c then m else m') := by
  split
  · exact yes
  · exact no

/-- A request that leaves the hand alone. -/
theorem request {e : S.Request} {out : S.Answer e → α} (nothing : ∀ r, handling ⟨e, r⟩ = .nothing)
    (unbroken : grip ≠ .broken) :
    Passes handling grip grip (Method.request e out : Method S σ ε α) := by
  intro h s here
  refine mwp_request.mpr fun r => ?_
  have same := gripOf_nothing (h := h) (nothing r)
  exact ⟨by rw [Firm, same, here]; exact unbroken, same.trans here⟩

theorem take {e : S.Request} {out : S.Answer e → α} {f : α → Method S σ ε β}
    {number : S.Answer e → τ} (takes : ∀ r, handling ⟨e, r⟩ = .takes (number r))
    (rest : ∀ r, Passes handling (.holds (number r)) grip (f (out r))) :
    Passes handling .empty grip (Method.request e out >>= f) := by
  intro h s here
  refine mwp_bind.mpr (mwp_request.mpr fun r => ?_)
  have held : gripOf handling (h ++ [⟨e, r⟩]) = .holds (number r) := by
    rw [gripOf_snoc, here, takes]; rfl
  exact ⟨by rw [Firm, held]; simp, rest r _ s held⟩

theorem give {e : S.Request} {out : S.Answer e → α} {t : τ}
    (gives : ∀ r, handling ⟨e, r⟩ = .gives t) :
    Passes handling (.holds t) .empty (Method.request e out : Method S σ ε α) := by
  intro h s here
  refine mwp_request.mpr fun r => ?_
  have given : gripOf handling (h ++ [⟨e, r⟩]) = .empty := by
    rw [gripOf_snoc, here, gives]; exact if_pos rfl
  exact ⟨by rw [Firm, given]; simp, given⟩

end Passes
end Method
end Interaction

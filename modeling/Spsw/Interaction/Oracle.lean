import Mathlib.Tactic.ByContra

/-!
# Asking an oracle

What a computation makes of an oracle may rest on the answer to one question alone.
The question is then determined by the computation, and one whose result is always
the same asks none.
-/
namespace Oracle
variable {Q A β γ : Type}

/-- The result is made of the answer to the question, and does depend on it. -/
def Asks (f : (Q → A) → β) (q : Q) : Prop :=
  ∃ result : A → β, (∀ oracle, f oracle = result (oracle q)) ∧ ∃ a a', result a ≠ result a'

theorem Asks.unique {f : (Q → A) → β} {q q' : Q} (first : Asks f q) (second : Asks f q') :
    q = q' := by
  classical
  obtain ⟨result, made, a, a', differ⟩ := first
  obtain ⟨result', made', -⟩ := second
  by_contra other
  apply differ
  -- The two oracles differ at `q` alone, so they agree on what is asked at `q'`.
  have apart : f (fun _ => a) = f (fun x => if x = q then a' else a) := by
    rw [made', made', if_neg (Ne.symm other)]
  rw [made, made, if_pos rfl] at apart
  exact apart

/-- Two computations that ask the same question ask no other. -/
theorem Asks.iff {f : (Q → A) → β} {g : (Q → A) → γ} {q : Q} (first : Asks f q)
    (second : Asks g q) (q' : Q) :
    Asks f q' ↔ Asks g q' := by
  constructor
  · intro asks
    rw [← first.unique asks]
    exact second
  · intro asks
    rw [← second.unique asks]
    exact first

end Oracle

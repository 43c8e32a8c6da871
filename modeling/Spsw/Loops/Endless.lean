import Mathlib.Data.Nat.Notation
import Mathlib.Tactic.TypeStar

/-!
# Loops that may not end

A pass of a loop goes on with a new state or ends the loop with a result. A loop ends if
enough passes end it; one whose passes stay within an invariant ends as the invariant says.
-/
namespace Loops
variable {σ ρ : Type*}

/-- `none` where the passes are used up. -/
def repeated (pass : σ → σ ⊕ ρ) : ℕ → σ → Option ρ
  | 0, _ => none
  | passes + 1, s =>
    match pass s with
    | .inl s' => repeated pass passes s'
    | .inr r => some r

/-- The loop ends with `r`. -/
def EndsWith (pass : σ → σ ⊕ ρ) (s : σ) (r : ρ) : Prop :=
  ∃ passes, ∀ more, repeated pass (passes + more) s = some r

section Rules
variable {pass : σ → σ ⊕ ρ} {s s' : σ} {r : ρ}

theorem repeated_goes (goes : pass s = .inl s') (passes : ℕ) :
    repeated pass (passes + 1) s = repeated pass passes s' := by
  rw [repeated, goes]

theorem endsWith_stops (stops : pass s = .inr r) : EndsWith pass s r := by
  refine ⟨1, fun more => ?_⟩
  rw [Nat.add_comm, repeated, stops]

theorem endsWith_goes (goes : pass s = .inl s') : EndsWith pass s r ↔ EndsWith pass s' r := by
  constructor
  · rintro ⟨passes, ends⟩
    refine ⟨passes, fun more => ?_⟩
    rw [← ends (more + 1), ← Nat.add_assoc, repeated_goes goes]
  · rintro ⟨passes, ends⟩
    refine ⟨passes + 1, fun more => ?_⟩
    rw [Nat.add_right_comm, repeated_goes goes, ends]

theorem endsWith_stopped {r' : ρ} (stops : pass s = .inr r) (ends : EndsWith pass s r') :
    r' = r := by
  obtain ⟨passes, ends⟩ := ends
  have last := ends 1
  rw [repeated, stops] at last
  exact (Option.some.inj last).symm

theorem EndsWith.unique {r' : ρ} (ends : EndsWith pass s r) (ends' : EndsWith pass s r') :
    r = r' := by
  obtain ⟨n, ends⟩ := ends
  obtain ⟨m, ends'⟩ := ends'
  have same := ends m
  rw [Nat.add_comm, ends' n] at same
  exact (Option.some.inj same).symm

/-- Where every pass keeps to `kept` or ends with what `P` says, the loop ends with nothing else. -/
theorem EndsWith.kept (kept : σ → Prop) (P : ρ → Prop)
    (passes : ∀ s, kept s → (∃ s', pass s = .inl s' ∧ kept s') ∨ ∃ r, pass s = .inr r ∧ P r)
    (ends : EndsWith pass s r) (here : kept s) : P r := by
  obtain ⟨n, ends⟩ := ends
  have last := ends 0
  clear ends
  rw [Nat.add_zero] at last
  induction n generalizing s with
  | zero => cases last
  | succ n ih =>
      rcases passes s here with ⟨s', goes, kept'⟩ | ⟨r', stops, holds⟩
      · rw [repeated_goes goes] at last
        exact ih kept' last
      · rw [repeated, stops] at last
        cases last
        exact holds

/-- A loop that comes back to the state it was in goes on for ever. -/
theorem repeated_stays (stays : pass s = .inl s) (passes : ℕ) : repeated pass passes s = none := by
  induction passes with
  | zero => rfl
  | succ passes ih => rw [repeated_goes stays, ih]

theorem not_endsWith_of_stays (stays : pass s = .inl s) : ¬EndsWith pass s r := by
  rintro ⟨passes, ends⟩
  have last := ends 0
  rw [repeated_stays stays] at last
  cases last

end Rules
end Loops

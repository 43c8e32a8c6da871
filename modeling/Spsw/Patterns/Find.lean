import Mathlib.Data.List.Infix

/-!
# Patterns and where they are found

A pattern tells of the input ahead all that matches may leave of it; which match
is preferred is not kept. `find` looks for a match at any place.
-/
namespace Patterns
variable {α : Type*}

abbrev Pattern (α : Type*) := List α → List (List α)

/-- The word itself. -/
def word [DecidableEq α] : List α → Pattern α
  | [], xs => [xs]
  | _ :: _, [] => []
  | c :: cs, x :: xs => if c = x then word cs xs else []

/-- One element of a class. -/
def one (inClass : α → Bool) : Pattern α
  | [] => []
  | x :: xs => if inClass x = true then [xs] else []

def seq (p q : Pattern α) : Pattern α := fun xs => (p xs).flatMap q

def alt (p q : Pattern α) : Pattern α := fun xs => p xs ++ q xs

/-- `n` matches one behind the other. -/
def times (p : Pattern α) : ℕ → Pattern α
  | 0 => fun xs => [xs]
  | n + 1 => seq p (times p n)

def between (p : Pattern α) (low high : ℕ) : Pattern α :=
  fun xs => (List.range (high + 1 - low)).flatMap fun n => times p (low + n) xs

/-- Matches of nothing add nothing, so no more of them count than there are elements ahead. -/
def star (p : Pattern α) : Pattern α := fun xs => between p 0 xs.length xs

def find (p : Pattern α) (xs : List α) : Bool := xs.tails.any fun ahead => !(p ahead).isEmpty

theorem find_iff {p : Pattern α} {xs : List α} : find p xs = true ↔
    ∃ ahead, ahead <:+ xs ∧ p ahead ≠ [] := by
  simp [find]

/-- What is found is found behind anything. -/
theorem find_append {p : Pattern α} {xs : List α} (found : find p xs = true) (ys : List α) :
    find p (ys ++ xs) = true := by
  obtain ⟨ahead, suffix, some⟩ := find_iff.mp found
  exact find_iff.mpr ⟨ahead, suffix.trans (List.suffix_append ys xs), some⟩

end Patterns

import Mathlib.Data.Set.Image
import Mathlib.Logic.Function.Basic
import Spsw.Resources.Ledger

/-!
# Numbers that are given out again

A number that was closed may be obtained again, and stands for another resource then. The
resources of a ledger of numbers are the numbers, each with the count of how often it had
been obtained.
-/
namespace Resources
variable {τ : Type} [DecidableEq τ]

/-- How often a number has been obtained. -/
def obtained (log : List (Deed τ)) (t : τ) : ℕ := log.count (.obtain t)

/-- The resource that a number stands for. -/
def current (log : List (Deed τ)) (t : τ) : τ × ℕ := (t, obtained log t)

/-- A deed on a number, as one on the resource that the number then stands for. -/
def Deed.stamped (log : List (Deed τ)) : Deed τ → Deed (τ × ℕ)
  | .obtain t => .obtain (t, obtained log t + 1)
  | .use t => .use (current log t)
  | .close t => .close (current log t)

def stampAfter (before : List (Deed τ)) : List (Deed τ) → List (Deed (τ × ℕ))
  | [] => []
  | deed :: log => deed.stamped before :: stampAfter (before ++ [deed]) log

def stamp (log : List (Deed τ)) : List (Deed (τ × ℕ)) := stampAfter [] log

section Stamps
variable {log : List (Deed τ)} {deed : Deed τ} {t : τ} {n : ℕ}

theorem stampAfter_snoc (before log : List (Deed τ)) (deed : Deed τ) :
    stampAfter before (log ++ [deed]) = stampAfter before log ++
      [deed.stamped (before ++ log)] := by
  induction log generalizing before with
  | nil => simp [stampAfter]
  | cons first log ih => simp [stampAfter, ih]

theorem stamp_snoc (log : List (Deed τ)) (deed : Deed τ) :
    stamp (log ++ [deed]) = stamp log ++ [deed.stamped log] :=
  stampAfter_snoc [] log deed

theorem obtained_snoc (log : List (Deed τ)) (deed : Deed τ) (t : τ) :
    obtained (log ++ [deed]) t = obtained log t + if deed = .obtain t then 1 else 0 := by
  simp [obtained, List.count_append, List.count_singleton]

theorem obtained_obtain (log : List (Deed τ)) (t : τ) :
    obtained (log ++ [.obtain t]) t = obtained log t + 1 := by
  simp [obtained_snoc]

theorem obtained_other (other : deed ≠ .obtain t) :
    obtained (log ++ [deed]) t = obtained log t := by
  simp [obtained_snoc, other]

theorem stamped_subject (log : List (Deed τ)) (deed : Deed τ) :
    (deed.stamped log).subject = current (log ++ [deed]) deed.subject := by
  cases deed with
  | obtain t => exact Prod.ext rfl (obtained_obtain log t).symm
  | use t => exact Prod.ext rfl (obtained_other (by simp)).symm
  | close t => exact Prod.ext rfl (obtained_other (by simp)).symm

/-- Nothing has happened yet to what a number will stand for. -/
theorem stage_future (log : List (Deed τ)) (t : τ) {n : ℕ} (later : obtained log t < n) :
    stage (stamp log) (t, n) = .unknown := by
  induction log using List.reverseRecOn with
  | nil => rfl
  | append_singleton log deed ih =>
      rw [stamp_snoc, stage_other]
      · apply ih
        rw [obtained_snoc] at later
        omega
      · rw [stamped_subject]
        rintro same
        obtain ⟨rfl, rfl⟩ := Prod.mk.inj same
        exact absurd later (lt_irrefl _)

/-- A ledger that goes on has for its resources what it had, and goes on. -/
theorem stamp_append (log log' : List (Deed τ)) :
    ∃ rest, stamp (log ++ log') = stamp log ++ rest := by
  induction log' using List.reverseRecOn with
  | nil => exact ⟨[], by rw [List.append_nil, List.append_nil]⟩
  | append_singleton log' deed ih =>
      obtain ⟨rest, same⟩ := ih
      exact ⟨rest ++ [deed.stamped (log ++ log')],
        by rw [← List.append_assoc, stamp_snoc, same, List.append_assoc]⟩

/-- A deed about another number. -/
theorem stage_stamp_other (other : deed.subject ≠ t) :
    stage (stamp (log ++ [deed])) (current (log ++ [deed]) t) =
      stage (stamp log) (current log t) := by
  have same : current (log ++ [deed]) t = current log t := by
    refine Prod.ext rfl (obtained_other ?_)
    rintro rfl
    exact other rfl
  rw [stamp_snoc, same, stage_other]
  rw [stamped_subject]
  intro about
  exact other (Prod.mk.inj about).1

/-- A number that is named after it was closed. -/
theorem stage_again (closed : stage (stamp log) (current log deed.subject) = .closed)
    (again : deed ≠ .obtain deed.subject) :
    stage (stamp (log ++ [deed])) (current log deed.subject) = .misused := by
  have same : (deed.stamped log).subject = current log deed.subject :=
    (stamped_subject log deed).trans (Prod.ext rfl (obtained_other again))
  rw [stamp_snoc, stage_snoc, closed, Deed.next, if_pos same]
  cases deed with
  | obtain t => exact absurd rfl again
  | use t => rfl
  | close t => rfl

end Stamps

/-- Exactly what the numbers in `held` stand for is held. -/
def Holding (held : Set τ) (log : List (Deed τ)) : Prop := Books (current log '' held) (stamp log)

namespace Holding
variable {held : Set τ} {log : List (Deed τ)} {t : τ}

theorem nil : Holding ∅ ([] : List (Deed τ)) := by
  rw [Holding, Set.image_empty]
  exact Books.nil

/-- With nothing held any more every resource is accounted for. -/
theorem accounted (holding : Holding ∅ log) : Accounted (stamp log) := by
  rw [Holding, Set.image_empty] at holding
  exact holding.accounted

theorem current_other {deed : Deed τ} (other : ∀ t ∈ held, deed ≠ .obtain t) :
    current (log ++ [deed]) '' held = current log '' held :=
  Set.image_congr fun t own => Prod.ext rfl (obtained_other (other t own))

theorem obtain (holding : Holding held log) (free : t ∉ held) :
    Holding (insert t held) (log ++ [.obtain t]) := by
  have new : stage (stamp log) (t, obtained log t + 1) = .unknown :=
    stage_future log t (Nat.lt_succ_self _)
  have books := Books.obtain holding new
  have same : current (log ++ [.obtain t]) '' insert t held = insert (t, obtained log t + 1)
      (current log '' held) := by
    rw [Set.image_insert_eq, current_other]
    · exact congrArg (insert · _) (Prod.ext rfl (obtained_obtain log t))
    · rintro t' own ⟨⟩
      exact free own
  rw [Holding, same, stamp_snoc]
  exact books

theorem use (holding : Holding held log) (own : t ∈ held) : Holding held (log ++ [.use t]) := by
  rw [Holding, current_other (by simp), stamp_snoc]
  exact Books.use holding (Set.mem_image_of_mem _ own)

theorem close (holding : Holding held log) (own : t ∈ held) :
    Holding (held \ {t}) (log ++ [.close t]) := by
  have injective : Function.Injective (current log) := fun t t' same => (Prod.mk.inj same).1
  rw [Holding, current_other (by simp), stamp_snoc, Set.image_sdiff injective, Set.image_singleton]
  exact Books.close holding (Set.mem_image_of_mem _ own)

theorem close_stage (holding : Holding held log) (own : t ∈ held) :
    stage (stamp (log ++ [.close t])) (current (log ++ [.close t]) t) = .closed := by
  have same : current (log ++ [.close t]) t = current log t :=
    Prod.ext rfl (obtained_other (by simp))
  rw [stamp_snoc, same, stage_snoc, holding.own _ (Set.mem_image_of_mem _ own)]
  exact if_pos rfl

/-- Where a table tells which numbers are held. -/
theorem obtained {table : τ → Bool} (holding : Holding {t | table t = true} log)
    (free : table t = false) :
    Holding {t' | Function.update table t true t' = true} (log ++ [.obtain t]) := by
  have held : {t' | Function.update table t true t' = true} = insert t {t' | table t' = true} := by
    ext t'
    by_cases same : t' = t <;> simp [same]
  rw [held]
  exact holding.obtain (by simp [free])

theorem closed {table : τ → Bool} (holding : Holding {t | table t = true} log)
    (own : table t = true) :
    Holding {t' | Function.update table t false t' = true} (log ++ [.close t]) := by
  have held : {t' | Function.update table t false t' = true} = {t' | table t' = true} \ {t} := by
    ext t'
    by_cases same : t' = t <;> simp [same]
  rw [held]
  exact holding.close own

/-- With an empty table every resource is accounted for. -/
theorem accounted_table {table : τ → Bool} (holding : Holding {t | table t = true} log)
    (none : ∀ t, table t = false) :
    Accounted (stamp log) := by
  rw [show {t | table t = true} = (∅ : Set τ) by simp [none]] at holding
  exact holding.accounted

end Holding
end Resources

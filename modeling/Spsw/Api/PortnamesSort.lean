import Spsw.Api.PortnamesOrder

/-!
# Sorting with `PortnamesComparator`

Each pass of a comparison moves an iterator on, so it ends within as many passes
as both names have characters, and one more.
-/
namespace Spsw.PortnamesComparator
open Sorting

variable {isDigit : UInt16 → Bool}

/-- How many characters neither iterator has come to. -/
def Comparison.ahead (c : Comparison) : ℕ :=
  (c.iterA.length - c.iterA.pos) + (c.iterB.length - c.iterB.pos)

/-- At most one iterator is fed with zeros, and only within a run of digits. -/
structure Comparison.OneFed (c : Comparison) : Prop where
  one : c.iterA.zerosToFeed = 0 ∨ c.iterB.zerosToFeed = 0
  zerosA : c.iterA.zerosToFeed ≤ c.digitsFound
  zerosB : c.iterB.zerosToFeed ≤ c.digitsFound

section Passes
variable {c c' : Comparison}

/-- `align` feeds zeros to one iterator and moves none. -/
theorem align_fed (aligned : c.align isDigit = .ok c') (fed : c.OneFed)
    (outside : c.digitsFound = 0) :
    c'.OneFed ∧ c'.ahead = c.ahead := by
  have idleA := fed.zerosA
  have idleB := fed.zerosB
  unfold Comparison.align at aligned
  cases countA : c.iterA.getNumberOfDigits isDigit with
  | error e =>
      rw [countA] at aligned
      cases aligned
  | ok digitsA =>
      cases countB : c.iterB.getNumberOfDigits isDigit with
      | error e =>
          rw [countA, countB] at aligned
          cases aligned
      | ok digitsB =>
          rw [countA, countB] at aligned
          change (if digitsA = digitsB then _ else if digitsA > digitsB then _
            else _) = _ at aligned
          split at aligned
          · cases aligned
            exact ⟨fed, rfl⟩
          · split at aligned
            · cases aligned
              refine ⟨⟨?_, ?_, ?_⟩, rfl⟩
              · left
                change c.iterA.zerosToFeed = 0
                omega
              · change c.iterA.zerosToFeed ≤ digitsA
                omega
              · change digitsA - digitsB ≤ digitsA
                omega
            · cases aligned
              refine ⟨⟨?_, ?_, ?_⟩, rfl⟩
              · right
                change c.iterB.zerosToFeed = 0
                omega
              · change digitsB - digitsA ≤ digitsB
                omega
              · change c.iterB.zerosToFeed ≤ digitsB
                omega

/-- The iterators at the next characters. -/
def Comparison.moved (c : Comparison) : Comparison :=
  { c with iterA := c.iterA.next, iterB := c.iterB.next }

theorem next_pos (it : Iterator) :
    it.next.pos = it.pos ∧ 0 < it.zerosToFeed ∨ it.next.pos = it.pos + 1 ∧ it.zerosToFeed = 0 := by
  unfold Iterator.next
  split
  · next feeding => exact .inl ⟨rfl, feeding⟩
  · next idle => exact .inr ⟨rfl, Nat.eq_zero_of_not_pos idle⟩

theorem moved_ahead (fed : c.OneFed) (moreA : c.iterA.next.hasChar = true)
    (moreB : c.iterB.next.hasChar = true) : c.moved.ahead < c.ahead := by
  have withinA := of_decide_eq_true moreA
  have withinB := of_decide_eq_true moreB
  rw [next_length] at withinA withinB
  have posA := next_pos c.iterA
  have posB := next_pos c.iterB
  have one := fed.one
  simp only [Comparison.ahead, Comparison.moved, next_length]
  omega

theorem body_goes_on (goes : c.body isDigit = .ok (.inl c')) :
    c.digitsFound = 0 ∧ c.align isDigit = .ok c' ∨
      c.digitsFound ≠ 0 ∧ c' = { c with digitsFound := c.digitsFound - 1 } := by
  have looked : ∀ {d : Comparison}, (do
      let charA ← d.iterA.getChar
      let charB ← d.iterB.getChar
      if charA = charB then pure (.inl d) else pure (.inr ((charA.toNat : ℤ) - charB.toNat)) :
      Except JavaException (Comparison ⊕ ℤ)) = .ok (.inl c') → c' = d := by
    intro d goes
    cases atA : d.iterA.getChar with
    | error e =>
        rw [atA] at goes
        cases goes
    | ok charA =>
        cases atB : d.iterB.getChar with
        | error e =>
            rw [atA, atB] at goes
            cases goes
        | ok charB =>
            rw [atA, atB] at goes
            change (if charA = charB then _ else _) = _ at goes
            split at goes
            · cases goes
              rfl
            · cases goes
  unfold Comparison.body at goes
  split at goes
  · next outside =>
      cases aligned : c.align isDigit with
      | error e =>
          rw [aligned] at goes
          cases goes
      | ok d =>
          rw [aligned] at goes
          rw [looked goes]
          exact .inl ⟨outside, rfl⟩
  · next within => exact .inr ⟨within, looked goes⟩

theorem pass_goes_on (goes : c.pass isDigit = .ok (.inl c')) (fed : c.OneFed) :
    c'.OneFed ∧ c'.ahead < c.ahead := by
  have one := fed.one
  have zerosA := fed.zerosA
  have zerosB := fed.zerosB
  have fedA := next_zeros c.iterA
  have fedB := next_zeros c.iterB
  unfold Comparison.pass at goes
  split at goes
  · next moreA =>
      split at goes
      · next moreB =>
          have ahead := moved_ahead fed moreA moreB
          rcases body_goes_on goes with ⟨outside, aligned⟩ | ⟨within, rfl⟩
          · have idle : c.moved.OneFed := by
              change c.digitsFound = 0 at outside
              constructor <;> simp only [Comparison.moved] <;> omega
            obtain ⟨fed', same⟩ := align_fed aligned idle outside
            exact ⟨fed', by rw [same]; exact ahead⟩
          · refine ⟨?_, ahead⟩
            constructor <;> simp only <;> omega
      · cases goes
  · cases goes

/-- More passes than characters ahead do not change the result. -/
theorem loop_enough (fuel : ℕ) (enough : c.ahead < fuel) (fed : c.OneFed) (more : ℕ) :
    c.loop isDigit (fuel + more) = c.loop isDigit fuel := by
  induction fuel generalizing c with
  | zero => exact absurd enough (Nat.not_lt_zero _)
  | succ fuel ih =>
      rw [Nat.add_right_comm, Comparison.loop, Comparison.loop]
      cases step : c.pass isDigit with
      | error e => rfl
      | ok outcome =>
          cases outcome with
          | inr r => rfl
          | inl c' =>
              obtain ⟨fed', less⟩ := pass_goes_on step fed
              exact ih (by omega) fed'

end Passes

/-- As many passes as a comparison may need. -/
def passes (valueA valueB : JavaString) : ℕ := valueA.value.length + valueB.value.length + 1

theorem compare_ends (isLow : ∀ z, isDigit z = true → zero ≤ z) (a b : JavaString) :
    ∃ r, compare isDigit (passes a b) a b = some (.ok r) ∧
      Orders r (nameKey isDigit a) (nameKey isDigit b) := by
  obtain ⟨r, ⟨fuel, ends⟩, orders⟩ :=
    compare_follows (fun z digit => UInt16.le_iff_toNat_le.mp (isLow z digit)) a b
  have enough : (⟨.new a, .new b, 0, 0⟩ : Comparison).ahead < passes a b := Nat.lt_succ_self _
  refine ⟨r, ?_, orders⟩
  rw [← ends (passes a b), Nat.add_comm]
  exact (loop_enough _ enough ⟨.inl rfl, le_rfl, le_rfl⟩ fuel).symm

/-- The result of `compare`. -/
def order (isDigit : UInt16 → Bool) (valueA valueB : JavaString) : ℤ :=
  match compare isDigit (passes valueA valueB) valueA valueB with
  | some (.ok r) => r
  | _ => 0

/-- `names.sort(new PortnamesComparator())`, which is stable. -/
def sort (isDigit : UInt16 → Bool) (names : List JavaString) : List JavaString :=
  names.mergeSort fun a b => decide (order isDigit a b ≤ 0)

/-- No name stands behind one that `compare` finds greater. -/
def Ordered (isDigit : UInt16 → Bool) (names : List JavaString) : Prop :=
  names.Pairwise fun a b => ∃ fuel r, compare isDigit fuel a b = some (.ok r) ∧ r ≤ 0

theorem order_eq {r : ℤ} {a b : JavaString}
    (ends : compare isDigit (passes a b) a b = some (.ok r)) :
    order isDigit a b = r := by
  rw [order, ends]

theorem order_follows (isLow : ∀ z, isDigit z = true → zero ≤ z) (a b : JavaString) :
    order isDigit a b ≤ 0 ↔ nameKey isDigit a ≤ nameKey isDigit b := by
  obtain ⟨r, ends, orders⟩ := compare_ends isLow a b
  rw [order_eq ends, ← not_lt, orders.above, not_lt]

theorem sort_perm (isDigit : UInt16 → Bool) (names : List JavaString) :
    (sort isDigit names).Perm names :=
  names.mergeSort_perm _

theorem sort_ordered (isLow : ∀ z, isDigit z = true → zero ≤ z) (names : List JavaString) :
    Ordered isDigit (sort isDigit names) := by
  have sorted : (sort isDigit names).Pairwise fun a b => decide (order isDigit a b ≤ 0) = true := by
    apply List.pairwise_mergeSort
    · intro a b c first second
      rw [decide_eq_true_eq, order_follows isLow] at first second ⊢
      exact first.trans second
    · intro a b
      rw [Bool.or_eq_true, decide_eq_true_eq, decide_eq_true_eq,
        order_follows isLow, order_follows isLow]
      exact le_total _ _
  apply sorted.imp
  intro a b before
  obtain ⟨r, ends, -⟩ := compare_ends isLow a b
  have least := of_decide_eq_true before
  rw [order_eq ends] at least
  exact ⟨_, r, ends, least⟩

end Spsw.PortnamesComparator

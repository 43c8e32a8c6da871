import Mathlib.Order.WithBot
import Spsw.Api.PortnamesComparator

/-!
# Runs of digits in port names

`compare` takes two runs of digits that begin together as numbers: the zeros it
feeds make them equally long, and then their characters decide. It goes on behind
equal numbers, keeping the first difference of lengths.
-/
namespace Spsw.PortnamesComparator
open Sorting

variable {isDigit : UInt16 → Bool}

/-- The loop ends with the result `r`. -/
def Yields (isDigit : UInt16 → Bool) (c : Comparison) (r : ℤ) : Prop :=
  ∃ fuel, ∀ more, c.loop isDigit (fuel + more) = some (.ok r)

section Loop
variable {c c' : Comparison} {r : ℤ}

theorem yields_done (last : c.pass isDigit = .ok (.inr r)) : Yields isDigit c r :=
  ⟨1, fun more => by rw [Nat.add_comm, Comparison.loop, last]⟩

theorem yields_next (step : c.pass isDigit = .ok (.inl c')) (rest : Yields isDigit c' r) :
    Yields isDigit c r := by
  obtain ⟨fuel, ends⟩ := rest
  refine ⟨fuel + 1, fun more => ?_⟩
  rw [Nat.add_right_comm, Comparison.loop, step]
  exact ends more

end Loop

/-- A number of digits without its leading zeros: the longer one is the larger. -/
def numberOf (digits : List ℕ) : ℕ ×ₗ List ℕ :=
  toLex ((digits.dropWhile (· = 48)).length, digits.dropWhile (· = 48))

def number (run : List UInt16) : ℕ ×ₗ List ℕ := numberOf (run.map UInt16.toNat)

section Numbers

theorem numberOf_zero (l : List ℕ) : numberOf (48 :: l) = numberOf l := by
  simp [numberOf]

theorem numberOf_other {x : ℕ} (l : List ℕ) (ne : x ≠ 48) :
    numberOf (x :: l) = toLex (l.length + 1, x :: l) := by
  simp [numberOf, ne]

theorem numberOf_le (l : List ℕ) : (ofLex (numberOf l)).1 ≤ l.length :=
  (List.dropWhile_suffix _).length_le

/-- Digits of one length compare as their numbers. -/
theorem numberOf_lt_iff {l m : List ℕ} (same : l.length = m.length) (digitsL : ∀ x ∈ l, 48 ≤ x)
    (digitsM : ∀ x ∈ m, 48 ≤ x) : numberOf l < numberOf m ↔ l < m := by
  induction l generalizing m with
  | nil =>
      rw [List.eq_nil_of_length_eq_zero same.symm]
      simp
  | cons x l ih =>
      cases m with
      | nil => cases same
      | cons y m =>
          have lengths : l.length = m.length := Nat.succ.inj same
          have tails := ih lengths (fun z member => digitsL z (List.mem_cons_of_mem _ member))
            (fun z member => digitsM z (List.mem_cons_of_mem _ member))
          have lowX := digitsL x List.mem_cons_self
          have lowY := digitsM y List.mem_cons_self
          have shortL := numberOf_le l
          have shortM := numberOf_le m
          rw [List.cons_lt_cons_iff]
          by_cases zeroX : x = 48
          · by_cases zeroY : y = 48
            · subst zeroX zeroY
              rw [numberOf_zero, numberOf_zero, tails]
              simp
            · subst zeroX
              rw [numberOf_zero, numberOf_other m zeroY]
              refine iff_of_true (Prod.Lex.lt_iff.mpr (.inl ?_)) (.inl (by omega))
              change _ < m.length + 1
              omega
          · by_cases zeroY : y = 48
            · subst zeroY
              rw [numberOf_zero, numberOf_other l zeroX]
              refine iff_of_false (fun lt => ?_) (by omega)
              rcases Prod.Lex.lt_iff.mp lt with shorter | ⟨equal, -⟩
              · change l.length + 1 < _ at shorter
                omega
              · change l.length + 1 = _ at equal
                omega
            · rw [numberOf_other l zeroX, numberOf_other m zeroY, Prod.Lex.toLex_lt_toLex,
                List.cons_lt_cons_iff]
              simp [lengths]

theorem orders_numberOf {l m : List ℕ} {r : ℤ} (orders : Orders r l m) (same : l.length = m.length)
    (digitsL : ∀ x ∈ l, 48 ≤ x) (digitsM : ∀ x ∈ m, 48 ≤ x) :
    Orders r (numberOf l) (numberOf m) :=
  ⟨orders.above.trans (numberOf_lt_iff same.symm digitsM digitsL).symm,
    orders.below.trans (numberOf_lt_iff same digitsL digitsM).symm⟩

theorem numberOf_replicate (k : ℕ) (l : List ℕ) :
    numberOf (List.replicate k 48 ++ l) = numberOf l := by
  induction k with
  | zero => rfl
  | succ k ih => rw [List.replicate_succ, List.cons_append, numberOf_zero, ih]

theorem number_fill (k : ℕ) (run : List UInt16) :
    number (List.replicate k zero ++ run) = number run := by
  have map : (List.replicate k zero ++ run).map UInt16.toNat =
      List.replicate k 48 ++ run.map UInt16.toNat := by
    simp [zero]
  rw [number, map, numberOf_replicate, number]

end Numbers

/-- What follows a run does not begin with a digit. -/
def Headless (isDigit : UInt16 → Bool) (t : List UInt16) : Prop :=
  ∀ z rest, t = z :: rest → isDigit z = false

/-- After equal runs the comparison goes on behind them. -/
def Resumes (isDigit : UInt16 → Bool) (c : Comparison) (ta tb : List UInt16) (first : ℤ) : Prop :=
  ∃ c' x y, (∀ r, Yields isDigit c' r → Yields isDigit c r) ∧ Stands c' (x :: ta) (y :: tb) ∧
    c'.digitsFound ≤ 1 ∧ c'.fisttStuffedAt = first

/-- Different runs decide the comparison. -/
def Decides {κ : Type*} [LinearOrder κ] (isDigit : UInt16 → Bool)
    (c : Comparison) (u v : κ) : Prop :=
  ∃ r, Yields isDigit c r ∧ Orders r u v ∧ u ≠ v

section Runs
variable {c : Comparison} {x₀ y₀ : UInt16} {ta tb xa xb pa pb : List UInt16}

theorem run_append (digits : ∀ z ∈ xa, isDigit z = true) (headless : Headless isDigit ta) :
    run isDigit (xa ++ ta) = xa.length := by
  have none : ta.takeWhile isDigit = [] := by
    cases ta with
    | nil => rfl
    | cons z rest => simp [headless z rest rfl]
  rw [run, List.takeWhile_append_of_pos digits, none, List.append_nil]

/-- A look at two heads that decides, or goes on with the tails. -/
theorem look_cases {x y : UInt16} {c' : Comparison} {R : Prop}
    (step : c.pass isDigit = .ok (look x y c'))
    (rest : x = y → (∀ r, Yields isDigit c' r → Yields isDigit c r) → R)
    (last : x ≠ y → (∃ r, Yields isDigit c r ∧ Orders r x.toNat y.toNat) → R) : R := by
  by_cases same : x = y
  · rw [look, if_pos same] at step
    exact rest same (fun r => yields_next step)
  · rw [look, if_neg same] at step
    exact last same ⟨_, yields_done step, orders_sub _ _⟩

theorem toNat_ne {x y : UInt16} (ne : x ≠ y) : x.toNat ≠ y.toNat :=
  fun same => ne (UInt16.toNat_inj.mp same)

/-- A look at the heads of two runs, before the rest of the runs. -/
theorem look_runs {x y : UInt16} {c' : Comparison} {first : ℤ}
    (step : c.pass isDigit = .ok (look x y c'))
    (rest : x = y → (pa = pb ∧ Resumes isDigit c' ta tb first) ∨
      Decides isDigit c' (pa.map UInt16.toNat) (pb.map UInt16.toNat)) :
    (x :: pa = y :: pb ∧ Resumes isDigit c ta tb first) ∨
      Decides isDigit c ((x :: pa).map UInt16.toNat) ((y :: pb).map UInt16.toNat) := by
  refine look_cases step ?_ ?_
  · intro same leads
    subst same
    rcases rest rfl with ⟨rfl, c₁, x', y', further, there⟩ | ⟨r, yields, orders, ne⟩
    · exact .inl ⟨rfl, c₁, x', y', fun r yields => leads r (further r yields), there⟩
    · refine .inr ⟨r, leads r yields, orders.cons x.toNat, fun same => ne ?_⟩
      exact (List.cons_eq_cons.mp same).2
  · rintro ne ⟨r, yields, orders⟩
    refine .inr ⟨r, yields, orders.head (toNat_ne ne), fun same => toNat_ne ne ?_⟩
    exact (List.cons_eq_cons.mp same).1

/-- Within a filled run the characters are compared one by one. -/
theorem filled_run (lengths : pa.length = pb.length)
    (stands : Stands c (x₀ :: (pa ++ ta)) (y₀ :: (pb ++ tb)))
    (digits : c.digitsFound = pa.length + 1) :
    (pa = pb ∧ Resumes isDigit c ta tb c.fisttStuffedAt) ∨
      Decides isDigit c (pa.map UInt16.toNat) (pb.map UInt16.toNat) := by
  induction pa generalizing pb c x₀ y₀ with
  | nil =>
      cases pb with
      | nil => exact .inl ⟨rfl, c, x₀, y₀, fun _ => id, stands, by simp [digits], rfl⟩
      | cons y pb => cases lengths
  | cons x pa ih =>
      cases pb with
      | nil => cases lengths
      | cons y pb =>
          apply look_runs (pass_run isDigit stands (by omega))
          intro same
          have fewer : c.advance.digitsFound = pa.length + 1 := by
            simp [Comparison.advance, digits]
          exact ih (Nat.succ.inj lengths) (stands_advance stands) fewer

theorem padded_self (xs : List UInt16) : padded isDigit (run isDigit xs) xs = xs := by
  simp [padded]

/-- Runs of one length are compared without zeros. -/
theorem equal_run (lengths : xa.length = xb.length) (digitsA : ∀ z ∈ xa, isDigit z = true)
    (digitsB : ∀ z ∈ xb, isDigit z = true) (headlessA : Headless isDigit ta)
    (headlessB : Headless isDigit tb) (stands : Stands c (x₀ :: (xa ++ ta)) (y₀ :: (xb ++ tb)))
    (outside : c.digitsFound = 0) :
    (xa = xb ∧ Resumes isDigit c ta tb c.fisttStuffedAt) ∨
      Decides isDigit c (xa.map UInt16.toNat) (xb.map UInt16.toNat) := by
  induction xa generalizing xb c x₀ y₀ with
  | nil =>
      cases xb with
      | nil => exact .inl ⟨rfl, c, x₀, y₀, fun _ => id, stands, by simp [outside], rfl⟩
      | cons y xb => cases lengths
  | cons x xa ih =>
      cases xb with
      | nil => cases lengths
      | cons y xb =>
          have runA := run_append digitsA headlessA
          have runB := run_append digitsB headlessB
          have sameRun := runB.trans lengths.symm
          have fillA : padded isDigit (max (x :: xa).length (x :: xa).length) (x :: (xa ++ ta)) =
              x :: (xa ++ ta) := by
            rw [Nat.max_self, ← runA]
            exact padded_self _
          have fillB : padded isDigit (max (x :: xa).length (x :: xa).length) (y :: (xb ++ tb)) =
              y :: (xb ++ tb) := by
            rw [Nat.max_self, ← sameRun]
            exact padded_self _
          obtain ⟨c', step, next, idle, first⟩ := pass_align stands outside runA sameRun fillA fillB
          rw [if_pos rfl] at idle
          rw [tie_self] at first
          rw [← first]
          apply look_runs step
          intro same
          exact ih (Nat.succ.inj lengths) (fun z member =>
            digitsA z (List.mem_cons_of_mem _ member)) (fun z member =>
            digitsB z (List.mem_cons_of_mem _ member)) next idle

/-- A run filled with zeros. -/
def fill (digits : ℕ) (xs : List UInt16) : List UInt16 :=
  List.replicate (digits - xs.length) zero ++ xs

theorem fill_length {digits : ℕ} {xs : List UInt16} (enough : xs.length ≤ digits) :
    (fill digits xs).length = digits := by
  rw [fill, List.length_append, List.length_replicate]
  omega

theorem padded_append (digits : ∀ z ∈ xa, isDigit z = true)
    (headless : Headless isDigit ta) (n : ℕ) :
    padded isDigit n (xa ++ ta) = fill n xa ++ ta := by
  rw [padded, run_append digits headless, fill, List.append_assoc]

theorem fill_low {n : ℕ} (low : ∀ z ∈ xa, 48 ≤ z.toNat) :
    ∀ m ∈ (fill n xa).map UInt16.toNat, 48 ≤ m := by
  intro m member
  obtain ⟨z, inside, rfl⟩ := List.mem_map.mp member
  rcases List.mem_append.mp inside with zeros | digit
  · rw [List.eq_of_mem_replicate zeros]
    exact Nat.le_refl 48
  · exact low z digit

/-- Filled runs that decide do so as the numbers. -/
theorem decides_number {n : ℕ} (lengthA : xa.length ≤ n) (lengthB : xb.length ≤ n)
    (lowA : ∀ z ∈ xa, 48 ≤ z.toNat) (lowB : ∀ z ∈ xb, 48 ≤ z.toNat)
    (decided : Decides isDigit c ((fill n xa).map UInt16.toNat) ((fill n xb).map UInt16.toNat)) :
    Decides isDigit c (number xa) (number xb) := by
  obtain ⟨r, yields, orders, ne⟩ := decided
  have same : ((fill n xa).map UInt16.toNat).length = ((fill n xb).map UInt16.toNat).length := by
    rw [List.length_map, List.length_map, fill_length lengthA, fill_length lengthB]
  have numbers : Orders r (number (fill n xa)) (number (fill n xb)) :=
    orders_numberOf orders same (fill_low lowA) (fill_low lowB)
  rw [fill, fill, number_fill, number_fill] at numbers
  exact ⟨r, yields, numbers, fun equal => ne (orders.equal.mp (numbers.equal.mpr equal))⟩

/-- Runs of different lengths are compared after the shorter one is filled. -/
theorem filled_runs (differ : xa.length ≠ xb.length) (digitsA : ∀ z ∈ xa, isDigit z = true)
    (digitsB : ∀ z ∈ xb, isDigit z = true) (headlessA : Headless isDigit ta)
    (headlessB : Headless isDigit tb) (someA : xa ++ ta ≠ []) (someB : xb ++ tb ≠ [])
    (stands : Stands c (x₀ :: (xa ++ ta)) (y₀ :: (xb ++ tb))) (outside : c.digitsFound = 0) {n : ℕ}
    (largest : max xa.length xb.length = n) :
    (fill n xa = fill n xb ∧ Resumes isDigit c ta tb (tie c.fisttStuffedAt xa.length xb.length)) ∨
      Decides isDigit c ((fill n xa).map UInt16.toNat) ((fill n xb).map UInt16.toNat) := by
  have lengthA : (fill n xa).length = n := fill_length (by omega)
  have lengthB : (fill n xb).length = n := fill_length (by omega)
  have runA := run_append digitsA headlessA
  have runB := run_append digitsB headlessB
  have fillA := padded_append digitsA headlessA n
  have fillB := padded_append digitsB headlessB n
  obtain ⟨x, xs, restA⟩ := List.exists_cons_of_ne_nil someA
  obtain ⟨y, ys, restB⟩ := List.exists_cons_of_ne_nil someB
  obtain ⟨p, pa, headA⟩ := List.exists_cons_of_length_pos (l := fill n xa) (by omega)
  obtain ⟨q, pb, headB⟩ := List.exists_cons_of_length_pos (l := fill n xb) (by omega)
  rw [headA, List.length_cons] at lengthA
  rw [headB, List.length_cons] at lengthB
  rw [restA] at stands runA fillA
  rw [restB] at stands runB fillB
  rw [headA, List.cons_append, ← largest] at fillA
  rw [headB, List.cons_append, ← largest] at fillB
  rw [headA, headB]
  obtain ⟨c', step, next, digits, first⟩ := pass_align stands outside runA runB fillA fillB
  rw [if_neg differ, largest, ← lengthA] at digits
  rw [← first]
  exact look_runs step fun _ => filled_run (by omega) next digits

/-- Two runs compare as numbers; of equal numbers the lengths are kept for the end. -/
theorem runs (isLow : ∀ z, isDigit z = true → 48 ≤ z.toNat) (digitsA : ∀ z ∈ xa, isDigit z = true)
    (digitsB : ∀ z ∈ xb, isDigit z = true) (headlessA : Headless isDigit ta)
    (headlessB : Headless isDigit tb) (someA : xa ++ ta ≠ []) (someB : xb ++ tb ≠ [])
    (stands : Stands c (x₀ :: (xa ++ ta)) (y₀ :: (xb ++ tb))) (outside : c.digitsFound = 0) :
    (number xa = number xb ∧ Resumes isDigit c ta tb (tie c.fisttStuffedAt xa.length xb.length)) ∨
      Decides isDigit c (number xa) (number xb) := by
  have lowA : ∀ z ∈ xa, 48 ≤ z.toNat := fun z member => isLow z (digitsA z member)
  have lowB : ∀ z ∈ xb, 48 ≤ z.toNat := fun z member => isLow z (digitsB z member)
  by_cases same : xa.length = xb.length
  · rw [same, tie_self]
    rcases equal_run same digitsA digitsB headlessA headlessB stands outside with ⟨rfl,
      rest⟩ | decided
    · exact .inl ⟨rfl, rest⟩
    · refine .inr (decides_number (n := xa.length) le_rfl same.ge lowA lowB ?_)
      rwa [fill, fill, same, Nat.sub_self, List.replicate_zero, List.nil_append, List.nil_append]
  · rcases filled_runs same digitsA digitsB headlessA headlessB someA someB stands outside rfl with
      ⟨equal, rest⟩ | decided
    · refine .inl ⟨?_, rest⟩
      have numbers := congrArg number equal
      rwa [fill, fill, number_fill, number_fill] at numbers
    · exact .inr (decides_number (le_max_left _ _) (le_max_right _ _) lowA lowB decided)

end Runs

end Spsw.PortnamesComparator

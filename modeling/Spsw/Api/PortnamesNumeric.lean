import Mathlib.Data.Nat.Digits.Defs
import Spsw.Api.PortnamesOrder

/-!
# The numeric order of port names

Behind a common prefix, two names are ordered by the numbers that stand there, however
long these are, and equal numbers by their counts of digits.
-/
namespace Spsw.PortnamesComparator
open Sorting

variable {isDigit : UInt16 → Bool}

/-- The number that decimal digits write, from the codes of the digits. -/
def decimal (codes : List ℕ) : ℕ := Nat.ofDigits 10 (codes.map (· - 48)).reverse

/-- The codes of `'0'` to `'9'`. -/
def Ascii (codes : List ℕ) : Prop := ∀ x ∈ codes, 48 ≤ x ∧ x ≤ 57

section Decimal
variable {l m : List ℕ}

theorem decimal_cons (x : ℕ) (l : List ℕ) :
    decimal (x :: l) = decimal l + 10 ^ l.length * (x - 48) := by
  rw [decimal, List.map_cons, List.reverse_cons, Nat.ofDigits_append, Nat.ofDigits_singleton,
    List.length_reverse, List.length_map, decimal]

theorem decimal_lt (ascii : Ascii l) : decimal l < 10 ^ l.length := by
  have small : ∀ d ∈ (l.map (· - 48)).reverse, d < 10 := by
    intro d member
    obtain ⟨x, inside, rfl⟩ := List.mem_map.mp (List.mem_reverse.mp member)
    have range := ascii x inside
    omega
  have bound := Nat.ofDigits_lt_base_pow_length (by omega) small
  rwa [List.length_reverse, List.length_map] at bound

theorem Ascii.tail {x : ℕ} (ascii : Ascii (x :: l)) : Ascii l :=
  fun z member => ascii z (List.mem_cons_of_mem x member)

/-- A larger digit outweighs all digits behind it. -/
theorem decimal_head_lt {x y : ℕ} (lengths : l.length = m.length) (ascii : Ascii l)
    (low : 48 ≤ x) (less : x < y) :
    decimal (x :: l) < decimal (y :: m) := by
  have bound := decimal_lt ascii
  have weight : 10 ^ l.length * (x - 48 + 1) ≤ 10 ^ l.length * (y - 48) :=
    Nat.mul_le_mul_left _ (by omega)
  rw [decimal_cons, decimal_cons, ← lengths]
  rw [Nat.mul_succ] at weight
  omega

/-- Numbers of one length compare digit by digit. -/
theorem decimal_lt_iff (lengths : l.length = m.length) (asciiL : Ascii l) (asciiM : Ascii m) :
    decimal l < decimal m ↔ l < m := by
  induction l generalizing m with
  | nil =>
      rw [List.eq_nil_of_length_eq_zero lengths.symm]
      simp
  | cons x l ih =>
      cases m with
      | nil => cases lengths
      | cons y m =>
          have shorter : l.length = m.length := Nat.succ.inj lengths
          have rest := ih shorter asciiL.tail asciiM.tail
          have lowX := (asciiL x List.mem_cons_self).1
          have lowY := (asciiM y List.mem_cons_self).1
          rw [List.cons_lt_cons_iff]
          rcases Nat.lt_trichotomy x y with less | rfl | more
          · exact iff_of_true (decimal_head_lt shorter asciiL.tail lowX less) (.inl less)
          · rw [decimal_cons, decimal_cons, shorter, Nat.add_lt_add_iff_right, rest]
            simp
          · have above := decimal_head_lt shorter.symm asciiM.tail lowY more
            exact iff_of_false (by omega) (by omega)

theorem decimal_replicate (k : ℕ) (l : List ℕ) :
    decimal (List.replicate k 48 ++ l) = decimal l := by
  induction k with
  | zero => rfl
  | succ k ih => rw [List.replicate_succ, List.cons_append, decimal_cons, ih, Nat.sub_self,
      Nat.mul_zero, Nat.add_zero]

/-- The order of numbers without their leading zeros is that of what they write. -/
theorem numberOf_lt_decimal (asciiL : Ascii l) (asciiM : Ascii m) : numberOf l < numberOf m ↔
    decimal l < decimal m := by
  have filled : ∀ {k : ℕ} {codes : List ℕ}, Ascii codes → Ascii (List.replicate k 48 ++ codes) := by
    intro k codes ascii x member
    rcases List.mem_append.mp member with zeros | digit
    · rw [List.eq_of_mem_replicate zeros]
      exact ⟨le_rfl, by omega⟩
    · exact ascii x digit
  have lengths : (List.replicate (m.length - l.length) 48 ++ l).length =
      (List.replicate (l.length - m.length) 48 ++ m).length := by
    rw [List.length_append, List.length_append, List.length_replicate, List.length_replicate]
    omega
  rw [← numberOf_replicate (m.length - l.length) l, ← numberOf_replicate (l.length - m.length) m,
    ← decimal_replicate (m.length - l.length) l, ← decimal_replicate (l.length - m.length) m,
    numberOf_lt_iff lengths (fun x member => (filled asciiL x member).1) (fun x member =>
      (filled asciiM x member).1), decimal_lt_iff lengths (filled asciiL) (filled asciiM)]

theorem numberOf_eq_decimal (asciiL : Ascii l) (asciiM : Ascii m) (same : decimal l = decimal m) :
    numberOf l = numberOf m := by
  have below := numberOf_lt_decimal asciiL asciiM
  have above := numberOf_lt_decimal asciiM asciiL
  rcases lt_trichotomy (numberOf l) (numberOf m) with less | equal | more
  · have differ := below.mp less
    omega
  · exact equal
  · have differ := above.mp more
    omega

end Decimal

/-- Digits `'0'` to `'9'`, one at least. -/
structure Numeral where
  digits : List UInt16
  nonempty : digits ≠ []
  ascii : ∀ z ∈ digits, 48 ≤ z ∧ z ≤ 57

namespace Numeral
variable (m n : Numeral)

def codes : List ℕ := m.digits.map UInt16.toNat

/-- The number written. -/
def value : ℕ := decimal m.codes

theorem codes_ascii : Ascii m.codes := by
  intro x member
  obtain ⟨z, inside, rfl⟩ := List.mem_map.mp member
  have range := m.ascii z inside
  exact ⟨UInt16.le_iff_toNat_le.mp range.1, UInt16.le_iff_toNat_le.mp range.2⟩

theorem number_lt_iff : number m.digits < number n.digits ↔ m.value < n.value :=
  numberOf_lt_decimal m.codes_ascii n.codes_ascii

theorem number_eq (same : m.value = n.value) : number m.digits = number n.digits :=
  numberOf_eq_decimal m.codes_ascii n.codes_ascii same

end Numeral

section Prefixes
variable {p s t : List UInt16}

/-- What ends with a separator is made of fields of its own. -/
theorem fields_prefix {z : UInt16} (other : isDigit z = false) (q : List UInt16) :
    ∃ before, ∀ rest, fields isDigit (q ++ z :: rest) = before ++ fields isDigit rest := by
  induction bound : q.length using Nat.strong_induction_on generalizing q with
  | _ n ih =>
      obtain ⟨xa, ta, rfl, digits, headless⟩ := splits isDigit q
      cases ta with
      | nil =>
          refine ⟨[(xa, some z)], fun rest => ?_⟩
          have follows : Headless isDigit (z :: rest) := by
            rintro _ _ ⟨⟩
            exact other
          rw [List.append_nil, fields_append digits follows (by simp)]
          rfl
      | cons y ta =>
          have shorter : ta.length < n := by
            rw [← bound, List.length_append, List.length_cons]
            omega
          obtain ⟨before, appended⟩ := ih ta.length shorter ta rfl
          refine ⟨(xa, some y) :: before, fun rest => ?_⟩
          have follows : Headless isDigit (y :: (ta ++ z :: rest)) := by
            rintro _ _ ⟨⟩
            exact headless y ta rfl
          rw [List.append_assoc, List.cons_append, fields_append digits follows (by simp)]
          simp only [List.head?_cons, List.tail_cons, appended, List.cons_append]

/-- The same for a prefix, whose first character does not count. -/
theorem fields_behind {z : UInt16} (last : p.getLast? = some z) (other : isDigit z = false) :
    ∃ before, ∀ rest, fields isDigit (p ++ rest).tail = before ++ fields isDigit rest := by
  obtain ⟨q, rfl⟩ := List.getLast?_eq_some_iff.mp last
  cases q with
  | nil => exact ⟨[], fun rest => rfl⟩
  | cons x q =>
      obtain ⟨before, appended⟩ := fields_prefix other q
      refine ⟨before, fun rest => ?_⟩
      rw [List.cons_append, List.cons_append, List.tail_cons, List.append_assoc]
      exact appended rest

theorem tokens_append (before fields : List (List UInt16 × Option UInt16)) :
    tokens (before ++ fields) = tokens before ++ tokens fields := List.flatMap_append

theorem digitCounts_append (before fields : List (List UInt16 × Option UInt16)) :
    digitCounts (before ++ fields) = digitCounts before ++ digitCounts fields := List.map_append

/-- The key of a name in which a number stands behind a prefix. -/
theorem nameKey_numeral {before : List (List UInt16 × Option UInt16)}
    (behind : ∀ rest, fields isDigit (p ++ rest).tail = before ++ fields isDigit rest)
    (some : p ≠ []) (isAscii : ∀ z, 48 ≤ z → z ≤ 57 → isDigit z = true) (m : Numeral)
    (headless : Headless isDigit s) {a : JavaString} (name : a.value = p ++ m.digits ++ s) :
    nameKey isDigit a = toLex (1, keyed
      (tokens before ++ number m.digits ::
        (s.head?.toList.map separator ++ tokens (fields isDigit s.tail))) 0
        (digitCounts before ++ m.digits.length :: digitCounts (fields isDigit s.tail))) := by
  have digits : ∀ z ∈ m.digits, isDigit z = true := fun z member =>
    isAscii z (m.ascii z member).1 (m.ascii z member).2
  have split := fields_append digits headless (by simp [m.nonempty])
  have length : min 1 a.value.length = 1 := by
    have first := List.length_pos_iff.mpr some
    rw [name, List.length_append, List.length_append]
    omega
  rw [nameKey, length, name, List.append_assoc, behind, split, tokens_append, digitCounts_append]
  rfl

end Prefixes

/-- Behind a prefix that does not end with a digit, numbers of any length compare as numbers, and
of equal numbers the one with fewer digits comes first. -/
theorem compare_numeric (isDigit : UInt16 → Bool) (isLow : ∀ z, isDigit z = true → zero ≤ z)
    (isAscii : ∀ z, 48 ≤ z → z ≤ 57 → isDigit z = true) (p : List UInt16) (z : UInt16)
    (last : p.getLast? = some z) (other : isDigit z = false) (m n : Numeral) (s t : List UInt16)
    (headlessS : Headless isDigit s) (headlessT : Headless isDigit t) (a b : JavaString)
    (nameA : a.value = p ++ m.digits ++ s) :
    (b.value = p ++ n.digits ++ t → m.value < n.value →
      ∃ r, (∃ fuel, ∀ more, compare isDigit (fuel + more) a b = some (.ok r)) ∧ r < 0) ∧
    (b.value = p ++ n.digits ++ s → m.value = n.value → m.digits.length < n.digits.length →
      ∃ r, (∃ fuel, ∀ more, compare isDigit (fuel + more) a b = some (.ok r)) ∧ r < 0) := by
  obtain ⟨before, behind⟩ := fields_behind last other
  have some : p ≠ [] := by
    rintro rfl
    cases last
  obtain ⟨r, ends, orders⟩ :=
    compare_follows (fun z digit => UInt16.le_iff_toNat_le.mp (isLow z digit)) a b
  have keyA := nameKey_numeral behind some isAscii m headlessS nameA
  constructor
  · intro nameB less
    refine ⟨r, ends, orders.below.mpr ?_⟩
    have numbers := (m.number_lt_iff n).mpr less
    rw [keyA, nameKey_numeral behind some isAscii n headlessT nameB]
    refine Prod.Lex.toLex_lt_toLex.mpr (.inr ⟨rfl, Prod.Lex.toLex_lt_toLex.mpr (.inl ?_)⟩)
    exact List.append_left_lt (List.cons_lt_cons_iff.mpr (.inl numbers))
  · intro nameB same shorter
    refine ⟨r, ends, orders.below.mpr ?_⟩
    rw [keyA, nameKey_numeral behind some isAscii n headlessS nameB, m.number_eq n same]
    refine Prod.Lex.toLex_lt_toLex.mpr (.inr ⟨rfl, Prod.Lex.toLex_lt_toLex.mpr (.inr ⟨rfl, ?_⟩)⟩)
    refine Prod.Lex.toLex_lt_toLex.mpr (.inr ⟨rfl, ?_⟩)
    exact List.append_left_lt (List.cons_lt_cons_iff.mpr (.inl shorter))

/-- `COM9` comes before `COM10` and before `COM09`. -/
theorem compare_numeric_ascii :
    (∃ r, (∃ fuel, ∀ more,
      compare (fun c => decide (48 ≤ c ∧ c ≤ 57)) (fuel + more) ⟨[67, 79, 77, 57],
      by decide⟩ ⟨[67, 79, 77, 49, 48], by decide⟩ = some (.ok r)) ∧ r < 0) ∧
    (∃ r, (∃ fuel, ∀ more,
      compare (fun c => decide (48 ≤ c ∧ c ≤ 57)) (fuel + more) ⟨[67, 79, 77, 57],
      by decide⟩ ⟨[67, 79, 77, 48, 57], by decide⟩ = some (.ok r)) ∧ r < 0) := by
  have isLow : ∀ z : UInt16, decide (48 ≤ z ∧ z ≤ 57) = true → zero ≤ z :=
    fun _ digit => (of_decide_eq_true digit).1
  have isAscii : ∀ z : UInt16, 48 ≤ z → z ≤ 57 → decide (48 ≤ z ∧ z ≤ 57) = true :=
      fun _ low high =>
    decide_eq_true ⟨low, high⟩
  have nine : ∀ z ∈ [57], (48 : UInt16) ≤ z ∧ z ≤ 57 := List.forall_mem_singleton.mpr (by decide)
  have ten : ∀ z ∈ [49, 48], (48 : UInt16) ≤ z ∧ z ≤ 57 := List.forall_mem_cons.mpr
    ⟨by decide, List.forall_mem_singleton.mpr (by decide)⟩
  have zeroNine : ∀ z ∈ [48, 57], (48 : UInt16) ≤ z ∧ z ≤ 57 :=
    List.forall_mem_cons.mpr ⟨by decide, nine⟩
  have less : decimal [57] < decimal [49, 48] := by decide
  have headless : Headless (fun c => decide (48 ≤ c ∧ c ≤ 57)) [] := by simp [Headless]
  constructor
  · exact (compare_numeric _ isLow isAscii [67, 79, 77] 77 rfl rfl ⟨[57], by decide, nine⟩
      ⟨[49, 48], by decide, ten⟩ [] [] headless headless _ _ rfl).1 rfl less
  · exact (compare_numeric _ isLow isAscii [67, 79, 77] 77 rfl rfl ⟨[57], by decide, nine⟩
      ⟨[48, 57], by
        decide, zeroNine⟩ [] [] headless headless _ _ rfl).2 rfl rfl (Nat.lt_succ_self 1)

end Spsw.PortnamesComparator

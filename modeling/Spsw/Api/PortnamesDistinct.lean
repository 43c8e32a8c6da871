import Spsw.Api.PortnamesOrder

/-!
# Which names compare as equal

The tokens and the digits counted give back the characters they were read from. So the
key of a name has all of it, up to the first character, which `compare` never looks at.
-/
namespace Spsw.PortnamesComparator

variable {isDigit : UInt16 → Bool}

/-- A number and its count of digits are its digits. -/
theorem numberOf_injective {l m : List ℕ} (same : numberOf l = numberOf m)
    (lengths : l.length = m.length) :
    l = m := by
  induction l generalizing m with
  | nil => exact (List.eq_nil_of_length_eq_zero lengths.symm).symm
  | cons x l ih =>
      cases m with
      | nil => cases lengths
      | cons y m =>
          have shorter : l.length = m.length := Nat.succ.inj lengths
          have boundL := numberOf_le l
          have boundM := numberOf_le m
          by_cases zeroX : x = 48
          · by_cases zeroY : y = 48
            · subst zeroX zeroY
              rw [numberOf_zero, numberOf_zero] at same
              rw [ih same shorter]
            · subst zeroX
              rw [numberOf_zero, numberOf_other m zeroY] at same
              have counts : (ofLex (numberOf l)).1 = m.length + 1 :=
                congrArg (fun t => (ofLex t).1) same
              omega
          · by_cases zeroY : y = 48
            · subst zeroY
              rw [numberOf_zero, numberOf_other l zeroX] at same
              have counts : l.length + 1 = (ofLex (numberOf m)).1 :=
                congrArg (fun t => (ofLex t).1) same
              omega
            · rw [numberOf_other l zeroX, numberOf_other m zeroY] at same
              exact congrArg (fun t => (ofLex t).2) same

theorem number_injective {xa xb : List UInt16} (same : number xa = number xb)
    (lengths : xa.length = xb.length) :
    xa = xb := by
  have codes : xa.map UInt16.toNat = xb.map UInt16.toNat :=
    numberOf_injective same (by simpa using lengths)
  exact List.map_injective_iff.mpr (fun _ _ => UInt16.toNat_inj.mp) codes

theorem separator_injective {s t : UInt16} (same : separator s = separator t) : s = t :=
  UInt16.toNat_inj.mp (congrArg (fun token => (ofLex token).1) same)

theorem fields_nil : fields isDigit [] = [] := by rw [fields]

/-- The first field of a name, and those of what follows it. -/
theorem fields_first (isDigit : UInt16 → Bool) {xs : List UInt16} (some : xs ≠ []) :
    ∃ xa ta, xs = xa ++ ta ∧ fields isDigit xs = (xa, ta.head?) :: fields isDigit ta.tail := by
  obtain ⟨xa, ta, rfl, digits, headless⟩ := splits isDigit xs
  exact ⟨xa, ta, rfl, fields_append digits headless some⟩

theorem fields_empty {xs : List UInt16} (none : digitCounts (fields isDigit xs) = []) :
    xs = [] := by
  by_contra some
  obtain ⟨xa, ta, -, first⟩ := fields_first isDigit some
  rw [first] at none
  cases none

/-- Behind equal runs both names end, or go on with the same separator. -/
theorem same_separator {ta tb : List UInt16} {ts ts' : List (ℕ ×ₗ List ℕ)}
    (endA : ta = [] → ts = []) (endB : tb = [] → ts' = [])
    (same : ta.head?.toList.map separator ++ ts = tb.head?.toList.map separator ++ ts') :
    ta.head? = tb.head? ∧ ts = ts' := by
  cases ta with
  | nil =>
      cases tb with
      | nil => exact ⟨rfl, same⟩
      | cons b tb =>
          rw [endA rfl] at same
          cases same
  | cons a ta =>
      cases tb with
      | nil =>
          rw [endB rfl] at same
          cases same
      | cons b tb =>
          obtain ⟨separators, rest⟩ := List.cons.inj same
          exact ⟨congrArg some (separator_injective separators), rest⟩

theorem same_list {ta tb : List UInt16} (heads : ta.head? = tb.head?) (tails : ta.tail = tb.tail) :
    ta = tb := by
  cases ta with
  | nil => exact (List.head?_eq_none_iff.mp heads.symm).symm
  | cons a ta =>
      cases tb with
      | nil => cases heads
      | cons b tb => exact List.cons_eq_cons.mpr ⟨Option.some.inj heads, tails⟩

/-- A name can be read back from its tokens and the lengths of its runs. -/
theorem fields_injective {xs ys : List UInt16}
    (sameTokens : tokens (fields isDigit xs) = tokens (fields isDigit ys))
    (sameCounts : digitCounts (fields isDigit xs) = digitCounts (fields isDigit ys)) : xs = ys := by
  induction bound : xs.length using Nat.strong_induction_on generalizing xs ys with
  | _ n ih =>
      by_cases noneX : xs = []
      · subst noneX
        rw [fields_nil] at sameCounts
        exact (fields_empty sameCounts.symm).symm
      · by_cases noneY : ys = []
        · subst noneY
          rw [fields_nil] at sameCounts
          exact fields_empty sameCounts
        · obtain ⟨xa, ta, rfl, firstX⟩ := fields_first isDigit noneX
          obtain ⟨xb, tb, rfl, firstY⟩ := fields_first isDigit noneY
          rw [firstX, firstY] at sameTokens sameCounts
          obtain ⟨numbers, others⟩ := List.cons.inj sameTokens
          obtain ⟨lengths, counts⟩ := List.cons.inj sameCounts
          have ends : ∀ t : List UInt16, t = [] → tokens (fields isDigit t.tail) = [] := by
            rintro t rfl
            rw [List.tail_nil, fields_nil]
            rfl
          obtain ⟨heads, rest⟩ := same_separator (ends ta) (ends tb) others
          have runs : xa = xb := number_injective numbers lengths
          have shorter : ta.tail.length < n := by
            have some := List.length_pos_iff.mpr noneX
            rw [List.length_append] at bound some
            rw [List.length_tail]
            omega
          have tails : ta.tail = tb.tail := ih ta.tail.length shorter rest counts rfl
          rw [runs, same_list heads tails]

theorem nameKey_eq_iff (a b : JavaString) : nameKey isDigit a = nameKey isDigit b ↔
    min 1 a.value.length = min 1 b.value.length ∧ a.value.tail = b.value.tail := by
  constructor
  · intro same
    have lengths : min 1 a.value.length = min 1 b.value.length :=
      congrArg (fun key => (ofLex key).1) same
    have rest := congrArg (fun key => ofLex (ofLex key).2) same
    have sameTokens : tokens (fields isDigit a.value.tail) = tokens (fields isDigit b.value.tail) :=
      congrArg Prod.fst rest
    have sameCounts : digitCounts (fields isDigit a.value.tail) =
      digitCounts (fields isDigit b.value.tail) :=
      congrArg (fun key => (ofLex key.2).2) rest
    exact ⟨lengths, fields_injective sameTokens sameCounts⟩
  · rintro ⟨lengths, tails⟩
    rw [nameKey, nameKey, lengths, tails]

/-- The names differ in the character at index 0 and nowhere else. -/
def FirstOnly (a b : JavaString) : Prop :=
  ∃ x y rest, x ≠ y ∧ a.value = x :: rest ∧ b.value = y :: rest

theorem JavaString.eq_of_value {a b : JavaString} (same : a.value = b.value) : a = b := by
  cases a
  cases b
  cases same
  rfl

/-- Names with one key are equal, or differ in the first character only. -/
theorem same_key_iff (a b : JavaString) : nameKey isDigit a = nameKey isDigit b ↔
    a = b ∨ FirstOnly a b := by
  rw [nameKey_eq_iff]
  constructor
  · rintro ⟨lengths, tails⟩
    cases namesA : a.value with
    | nil =>
        cases namesB : b.value with
        | nil => exact .inl (JavaString.eq_of_value (namesA.trans namesB.symm))
        | cons y rb =>
            rw [namesA, namesB, List.length_nil, List.length_cons] at lengths
            omega
    | cons x ra =>
        cases namesB : b.value with
        | nil =>
            rw [namesA, namesB, List.length_nil, List.length_cons] at lengths
            omega
        | cons y rb =>
            rw [namesA, namesB] at tails
            obtain rfl : ra = rb := tails
            by_cases heads : x = y
            · exact .inl (JavaString.eq_of_value (by rw [namesA, namesB, heads]))
            · exact .inr ⟨x, y, ra, heads, namesA, namesB⟩
  · rintro (rfl | ⟨x, y, rest, -, namesA, namesB⟩)
    · exact ⟨rfl, rfl⟩
    · simp [namesA, namesB]

/-- `compare` is 0 on equal names only, exactly if the names do not differ in their first
characters alone. -/
theorem compare_distinguishes_iff (isDigit : UInt16 → Bool)
    (isLow : ∀ z, isDigit z = true → zero ≤ z) (a b : JavaString) :
    ∃ r, (∃ fuel, ∀ more, compare isDigit (fuel + more) a b = some (.ok r)) ∧
      ((r = 0 ↔ a = b) ↔ ¬FirstOnly a b) := by
  obtain ⟨r, ends, orders⟩ :=
    compare_follows (fun z digit => UInt16.le_iff_toNat_le.mp (isLow z digit)) a b
  have equal : r = 0 ↔ a = b ∨ FirstOnly a b := orders.equal.trans (same_key_iff a b)
  have apart : FirstOnly a b → a ≠ b := by
    rintro ⟨x, y, rest, ne, namesA, namesB⟩ rfl
    exact ne (List.cons.inj (namesA.symm.trans namesB)).1
  refine ⟨r, ends, ?_⟩
  rw [equal]
  constructor
  · exact fun exact' first => apart first (exact'.mp (.inr first))
  · exact fun none => or_iff_left none

theorem compare_distinguishes_ascii :
    ∃ r, (∃ fuel, ∀ more, compare (fun c => decide (48 ≤ c ∧ c ≤ 57)) (fuel + more)
        ⟨[67, 79, 77, 49], by decide⟩ ⟨[67, 79, 77, 48, 49], by decide⟩ = some (.ok r)) ∧
      ((r = 0 ↔ (⟨[67, 79, 77, 49], by decide⟩ : JavaString) = ⟨[67, 79, 77, 48, 49], by decide⟩) ↔
        ¬FirstOnly ⟨[67, 79, 77, 49], by decide⟩ ⟨[67, 79, 77, 48, 49], by decide⟩) :=
  compare_distinguishes_iff _ (fun _ digit => (of_decide_eq_true digit).1) _ _

/-- `A1` and `B1` compare as equal. -/
theorem compare_confuses : ¬∀ (a b : JavaString) (fuel : ℕ) (r : ℤ),
    compare (fun c => decide (48 ≤ c ∧ c ≤ 57)) fuel a b = some (.ok r) → (r = 0 ↔ a = b) := by
  intro distinguishes
  have same := (distinguishes ⟨[65, 49], by decide⟩ ⟨[66, 49], by decide⟩ 2 0 rfl).mp rfl
  exact absurd (congrArg JavaString.value same) (by decide)

end Spsw.PortnamesComparator

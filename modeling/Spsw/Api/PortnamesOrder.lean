import Mathlib.Data.List.TakeWhile
import Spsw.Api.PortnamesRuns

/-!
# The order of port names

The result of `compare` is the order of a key: the runs of digits as numbers,
alternating with the characters between them, and then the lengths of the runs.
The first characters of the names only count in that there are any.
-/
namespace Spsw.PortnamesComparator
open Sorting

variable {isDigit : UInt16 → Bool}

/-- The runs of digits, each with the character behind it. -/
def fields (isDigit : UInt16 → Bool) : List UInt16 → List (List UInt16 × Option UInt16)
  | [] => []
  | x :: xs =>
      ((x :: xs).takeWhile isDigit, ((x :: xs).dropWhile isDigit).head?) ::
        fields isDigit ((x :: xs).dropWhile isDigit).tail
  termination_by l => l.length
  decreasing_by
    have shorter := (List.dropWhile_suffix (l := x :: xs) isDigit).length_le
    rw [List.length_tail, List.length_cons] at *
    omega

/-- A separator compares by its code. -/
def separator (s : UInt16) : ℕ ×ₗ List ℕ := toLex (s.toNat, [])

/-- Numbers and separators in turn. -/
def tokens (fields : List (List UInt16 × Option UInt16)) : List (ℕ ×ₗ List ℕ) :=
  fields.flatMap fun field => number field.1 :: field.2.toList.map separator

def digitCounts (fields : List (List UInt16 × Option UInt16)) : List ℕ :=
  fields.map fun field => field.1.length

/-- Tokens come first, then a difference already found, then the digits counted. -/
def keyed (tokens : List (ℕ ×ₗ List ℕ)) (first : ℤ) (counts : List ℕ) :
    List (ℕ ×ₗ List ℕ) ×ₗ ℤ ×ₗ List ℕ :=
  toLex (tokens, toLex (first, counts))

/-- The key of a name. -/
def nameKey (isDigit : UInt16 → Bool) (name : JavaString) :
    ℕ ×ₗ List (ℕ ×ₗ List ℕ) ×ₗ ℤ ×ₗ List ℕ :=
  toLex (min 1 name.value.length,
    keyed (tokens (fields isDigit name.value.tail)) 0
      (digitCounts (fields isDigit name.value.tail)))

section Keys
variable {xa ta : List UInt16} {r first : ℤ} {t : ℕ ×ₗ List ℕ} {ts ts' : List (ℕ ×ₗ List ℕ)}
  {cs cs' : List ℕ}

theorem fields_append (digits : ∀ z ∈ xa, isDigit z = true) (headless : Headless isDigit ta)
    (some : xa ++ ta ≠ []) :
    fields isDigit (xa ++ ta) = (xa, ta.head?) :: fields isDigit ta.tail := by
  have none : ta.takeWhile isDigit = [] := by
    cases ta with
    | nil => rfl
    | cons z rest => simp [headless z rest rfl]
  have all : ta.dropWhile isDigit = ta := by
    cases ta with
    | nil => rfl
    | cons z rest => simp [headless z rest rfl]
  have take : (xa ++ ta).takeWhile isDigit = xa := by
    rw [List.takeWhile_append_of_pos digits, none, List.append_nil]
  have drop : (xa ++ ta).dropWhile isDigit = ta := by
    rw [List.dropWhile_append_of_pos digits, all]
  obtain ⟨x, xs, names⟩ := List.exists_cons_of_ne_nil some
  rw [names] at take drop ⊢
  rw [fields, take, drop]

/-- Every name is a run of digits and what follows it. -/
theorem splits (isDigit : UInt16 → Bool) (xs : List UInt16) :
    ∃ xa ta, xs = xa ++ ta ∧ (∀ z ∈ xa, isDigit z = true) ∧ Headless isDigit ta := by
  refine ⟨xs.takeWhile isDigit, xs.dropWhile isDigit, List.takeWhile_append_dropWhile.symm,
    fun z => List.mem_takeWhile_imp, fun z rest front => ?_⟩
  have some : xs.dropWhile isDigit ≠ [] := by simp [front]
  have other := List.head_dropWhile_not isDigit some
  simpa [front] using other

theorem keyed_cons (orders : Orders r (keyed ts first cs) (keyed ts' 0 cs')) (t : ℕ ×ₗ List ℕ) :
    Orders r (keyed (t :: ts) first cs) (keyed (t :: ts') 0 cs') := by
  have above := orders.above
  have below := orders.below
  simp only [keyed, Prod.Lex.toLex_lt_toLex] at above below
  refine ⟨above.trans ?_, below.trans ?_⟩
  · simp [keyed, Prod.Lex.toLex_lt_toLex]
  · simp [keyed, Prod.Lex.toLex_lt_toLex]

/-- The first difference of lengths is a lexicographic order of the lengths. -/
theorem keyed_tie {m n : ℕ} (orders : Orders r (keyed ts (tie first m n) cs) (keyed ts' 0 cs')) :
    Orders r (keyed ts first (m :: cs)) (keyed ts' 0 (n :: cs')) := by
  have above := orders.above
  have below := orders.below
  simp only [keyed, Prod.Lex.toLex_lt_toLex, tie] at above below
  constructor
  · rw [above]
    simp only [keyed, Prod.Lex.toLex_lt_toLex, List.cons_lt_cons_iff]
    grind
  · rw [below]
    simp only [keyed, Prod.Lex.toLex_lt_toLex, List.cons_lt_cons_iff]
    grind

theorem keyed_first (first : ℤ) (ts : List (ℕ ×ₗ List ℕ)) :
    Orders first (keyed ts first []) (keyed ts 0 []) := by
  have position : Orders first first 0 := ⟨Iff.rfl, Iff.rfl⟩
  refine Orders.snd ?_ ts
  by_cases none : first = 0
  · rw [none]
    exact orders_refl _
  · exact position.fst none

end Keys

section Comparing
variable {c : Comparison} {x₀ y₀ : UInt16} {ha hb ra rb ta tb xa xb : List UInt16}

/-- The comparison ends with a result that orders the keys. -/
def Compares (isDigit : UInt16 → Bool) (c : Comparison) (ts ts' : List (ℕ ×ₗ List ℕ))
    (cs cs' : List ℕ) : Prop :=
  ∃ r, Yields isDigit c r ∧ Orders r (keyed ts c.fisttStuffedAt cs) (keyed ts' 0 cs')

/-- Where one name ends the longer one is the larger; of equal length, the first
difference counts. -/
theorem compares_exit {ts ts' : List (ℕ ×ₗ List ℕ)} {cs cs' : List ℕ}
    (stands : Stands c (x₀ :: ra) (y₀ :: rb)) (last : ra = [] ∨ rb = []) (noneA : ts = [] ↔ ra = [])
    (noneB : ts' = [] ↔ rb = []) (countA : ra = [] → cs = []) (countB : rb = [] → cs' = []) :
    Compares isDigit c ts ts' cs cs' := by
  have short : (x₀ :: ra).length ≤ 1 ∨ (y₀ :: rb).length ≤ 1 := by
    rcases last with rfl | rfl
    · exact .inl le_rfl
    · exact .inr le_rfl
  refine ⟨_, yields_done (pass_exit stands short), ?_⟩
  cases ra with
  | nil =>
      cases rb with
      | nil =>
          rw [noneA.mpr rfl, noneB.mpr rfl, countA rfl, countB rfl, if_pos (by simp)]
          exact keyed_first _ _
      | cons y rb =>
          obtain ⟨t, ts', rfl⟩ := List.exists_cons_of_ne_nil (mt noneB.mp (List.cons_ne_nil y rb))
          rw [noneA.mpr rfl, if_neg (by simp)]
          refine (orders_lt ?_ (List.nil_lt_cons t ts')).fst (List.cons_ne_nil t ts').symm
          simp only [List.length_cons, List.length_nil]
          omega
  | cons x ra =>
      obtain ⟨t, ts, rfl⟩ := List.exists_cons_of_ne_nil (mt noneA.mp (List.cons_ne_nil x ra))
      have ends : rb = [] := last.resolve_left (List.cons_ne_nil x ra)
      subst ends
      rw [noneB.mpr rfl, if_neg (by simp)]
      refine (orders_gt ?_ (List.nil_lt_cons t ts)).fst (List.cons_ne_nil t ts)
      simp only [List.length_cons, List.length_nil]
      omega

/-- Behind a run neither name has a digit, so that one character each is looked at. -/
theorem look_behind (headlessA : Headless isDigit (x₀ :: ra))
    (headlessB : Headless isDigit (y₀ :: rb)) {x y : UInt16}
    (stands : Stands c (x :: x₀ :: ra) (y :: y₀ :: rb)) (few : c.digitsFound ≤ 1) :
    ∃ c' : Comparison, c.pass isDigit = .ok (look x₀ y₀ c') ∧ Stands c' (x₀ :: ra) (y₀ :: rb) ∧
      c'.digitsFound = 0 ∧ c'.fisttStuffedAt = c.fisttStuffedAt := by
  by_cases outside : c.digitsFound = 0
  · have runA : run isDigit (x₀ :: ra) = 0 := by simp [run, headlessA x₀ ra rfl]
    have runB : run isDigit (y₀ :: rb) = 0 := by simp [run, headlessB y₀ rb rfl]
    have fillA : padded isDigit (max 0 0) (x₀ :: ra) = x₀ :: ra := by simp [padded, runA]
    have fillB : padded isDigit (max 0 0) (y₀ :: rb) = y₀ :: rb := by simp [padded, runB]
    obtain ⟨c', step, next, idle, first⟩ := pass_align stands outside runA runB fillA fillB
    exact ⟨c', step, next, by simpa using idle, first.trans (tie_self _ 0)⟩
  · refine ⟨c.advance, pass_run isDigit stands outside, stands_advance stands, ?_, rfl⟩
    change c.digitsFound - 1 = 0
    omega

/-- Behind equal runs: either a name ends, or the characters differ, or they are passed over. -/
theorem compares_behind (headlessA : Headless isDigit ta) (headlessB : Headless isDigit tb)
    {x y : UInt16} (stands : Stands c (x :: ta) (y :: tb)) (few : c.digitsFound ≤ 1)
    (onward : ∀ (c' : Comparison) (s : UInt16), ta = s :: ta.tail → tb = s :: tb.tail →
      Stands c' (s :: ta.tail) (s :: tb.tail) → c'.digitsFound = 0 →
      Compares isDigit c' (tokens (fields isDigit ta.tail)) (tokens (fields isDigit tb.tail))
        (digitCounts (fields isDigit ta.tail)) (digitCounts (fields isDigit tb.tail))) :
    Compares isDigit c (ta.head?.toList.map separator ++ tokens (fields isDigit ta.tail))
      (tb.head?.toList.map separator ++ tokens (fields isDigit tb.tail))
      (digitCounts (fields isDigit ta.tail)) (digitCounts (fields isDigit tb.tail)) := by
  have none : fields isDigit [] = [] := by rw [fields]
  by_cases last : ta = [] ∨ tb = []
  · refine compares_exit stands last ?_ ?_ ?_ ?_
    · cases ta with
      | nil => simp [none, tokens]
      | cons a ra => simp
    · cases tb with
      | nil => simp [none, tokens]
      | cons b rb => simp
    · rintro rfl
      simp [none, digitCounts]
    · rintro rfl
      simp [none, digitCounts]
  · rw [not_or] at last
    obtain ⟨a, ra, rfl⟩ := List.exists_cons_of_ne_nil last.1
    obtain ⟨b, rb, rfl⟩ := List.exists_cons_of_ne_nil last.2
    obtain ⟨c', step, next, idle, first⟩ := look_behind headlessA headlessB stands few
    refine look_cases step ?_ ?_
    · rintro rfl leads
      obtain ⟨r, yields, orders⟩ := onward c' a rfl rfl next idle
      rw [first] at orders
      exact ⟨r, leads r yields, keyed_cons orders (separator a)⟩
    · rintro ne ⟨r, yields, orders⟩
      have codes : a.toNat ≠ b.toNat := toNat_ne ne
      have separators : separator a ≠ separator b :=
        fun same => codes (congrArg (fun t => (ofLex t).1) same)
      refine ⟨r, yields, ?_⟩
      have heads : Orders r (separator a) (separator b) := orders.fst codes
      exact (heads.head separators).fst fun same => separators (List.cons_eq_cons.mp same).1

theorem compares_fields (isLow : ∀ z, isDigit z = true → 48 ≤ z.toNat)
    (stands : Stands c (x₀ :: ra) (y₀ :: rb)) (outside : c.digitsFound = 0) :
    Compares isDigit c (tokens (fields isDigit ra)) (tokens (fields isDigit rb))
      (digitCounts (fields isDigit ra)) (digitCounts (fields isDigit rb)) := by
  have none : fields isDigit [] = [] := by rw [fields]
  have some : ∀ zs, tokens (fields isDigit zs) = [] ↔ zs = [] := by
    intro zs
    cases zs with
    | nil => simp [none, tokens]
    | cons z zs => simp [fields, tokens]
  induction bound : ra.length using Nat.strong_induction_on generalizing ra rb c x₀ y₀ with
  | _ n ih =>
      by_cases last : ra = [] ∨ rb = []
      · refine compares_exit stands last (some ra) (some rb) ?_ ?_
        · rintro rfl
          simp [none, digitCounts]
        · rintro rfl
          simp [none, digitCounts]
      · rw [not_or] at last
        obtain ⟨xa, ta, rfl, digitsA, headlessA⟩ := splits isDigit ra
        obtain ⟨xb, tb, rfl, digitsB, headlessB⟩ := splits isDigit rb
        rw [fields_append digitsA headlessA last.1, fields_append digitsB headlessB last.2]
        rcases runs isLow digitsA digitsB headlessA headlessB last.1 last.2 stands outside with
          ⟨equal, c', x, y, leads, behind, few, first⟩ | ⟨r, yields, orders, ne⟩
        · have rest := compares_behind headlessA headlessB behind few (by
            intro c'' s front _ next idle
            refine ih ta.tail.length ?_ next idle rfl
            have shorter := congrArg List.length front
            rw [List.length_append] at bound
            rw [List.length_cons] at shorter
            omega)
          obtain ⟨r, yields, orders⟩ := rest
          rw [first] at orders
          refine ⟨r, leads r yields, ?_⟩
          have numbers := keyed_cons (keyed_tie orders) (number xa)
          simp only [tokens, digitCounts, List.flatMap_cons, List.map_cons, ← equal]
          exact numbers
        · refine ⟨r, yields, ?_⟩
          simp only [tokens, List.flatMap_cons, List.cons_append]
          exact (orders.head ne).fst fun same => ne (List.cons_eq_cons.mp same).1

/-- Every comparison ends, with a result that orders the names by their keys. -/
theorem compare_follows (isLow : ∀ z, isDigit z = true → 48 ≤ z.toNat) (a b : JavaString) :
    ∃ r, (∃ fuel, ∀ more, compare isDigit (fuel + more) a b = some (.ok r)) ∧
      Orders r (nameKey isDigit a) (nameKey isDigit b) := by
  have stands : Stands ⟨.new a, .new b, 0, 0⟩ a.value b.value := by
    have idle : ∀ s : JavaString, (Iterator.new s).Fed :=
      fun s feeding => absurd feeding (Nat.lt_irrefl 0)
    refine ⟨?_, ?_, ?_, idle a, idle b, le_rfl, le_rfl, Nat.zero_le _, Nat.zero_le _⟩
    · simp [Iterator.new, Iterator.here]
    · simp [Iterator.new, Iterator.here]
    · simp [Iterator.new, Iterator.length]
  by_cases some : a.value = [] ∨ b.value = []
  · have short : a.value.length = 0 ∨ b.value.length = 0 := by simpa using some
    refine ⟨_, yields_done (pass_exit stands (by omega)), ?_⟩
    by_cases equal : a.value.length = b.value.length
    · have noneA : a.value = [] := List.eq_nil_of_length_eq_zero (by omega)
      have noneB : b.value = [] := List.eq_nil_of_length_eq_zero (by omega)
      rw [if_pos equal, nameKey, nameKey, noneA, noneB]
      exact orders_refl _
    · have shorter : Orders ((a.value.length : ℤ) - b.value.length) (min 1 a.value.length)
          (min 1 b.value.length) := ⟨by omega, by omega⟩
      rw [if_neg equal]
      exact shorter.fst (by omega)
  · rw [not_or] at some
    obtain ⟨x, ra, namesA⟩ := List.exists_cons_of_ne_nil some.1
    obtain ⟨y, rb, namesB⟩ := List.exists_cons_of_ne_nil some.2
    rw [namesA, namesB] at stands
    obtain ⟨r, yields, orders⟩ := compares_fields isLow stands rfl
    refine ⟨r, yields, ?_⟩
    have lengths : min 1 a.value.length = min 1 b.value.length := by simp [namesA, namesB]
    rw [nameKey, nameKey, lengths, namesA, namesB]
    exact orders.snd _

end Comparing

/-- `compare` ends on all names, without an exception, and is what sorting relies on. -/
theorem compare_lawful (isDigit : UInt16 → Bool) (isLow : ∀ z, isDigit z = true → zero ≤ z) :
    ∃ order : JavaString → JavaString → ℤ,
      (∀ a b, ∃ fuel, ∀ more, compare isDigit (fuel + more) a b = some (.ok (order a b))) ∧
      Lawful order := by
  have follows := compare_follows fun z digit => UInt16.le_iff_toNat_le.mp (isLow z digit)
  choose order ends orders using follows
  exact ⟨order, ends, lawful_of_key (nameKey isDigit) orders⟩

theorem compare_lawful_ascii :
    ∃ order : JavaString → JavaString → ℤ,
      (∀ a b, ∃ fuel, ∀ more,
        compare (fun c => decide (48 ≤ c ∧ c ≤ 57)) (fuel + more) a b = some (.ok (order a b))) ∧
      Lawful order :=
  compare_lawful _ fun _ digit => (of_decide_eq_true digit).1

/-- `COM9` comes before `COM10`. -/
example : compare (fun c => decide (48 ≤ c ∧ c ≤ 57)) 4 ⟨[67, 79, 77, 57], by decide⟩
    ⟨[67, 79, 77, 49, 48], by decide⟩ = some (.ok (-1)) := by
  rfl

end Spsw.PortnamesComparator

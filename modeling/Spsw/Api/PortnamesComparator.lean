import Spsw.Api.Exceptions
import Spsw.Sorting.Comparator
import Mathlib.Algebra.Group.Int.Defs
import Mathlib.Algebra.Group.Nat.Defs

/-!
# `PortnamesComparator`

Two iterators walk over the names; where one name has a shorter run of digits,
its iterator is fed zeros. Neither compares the character at index 0, since
`next()` comes before the first look. `Character.isDigit` is a parameter.
-/
namespace Spsw.PortnamesComparator

/-- A string as its UTF-16 code units; no string has more than an `int` can count. -/
structure JavaString where
  value : List UInt16
  bound : value.length < 2 ^ 31

/-- `'0'`. -/
def zero : UInt16 := 48

structure Iterator where
  value : JavaString
  pos : ℕ
  stuffedZeros : ℕ
  zerosToFeed : ℕ

namespace Iterator

def new (value : JavaString) : Iterator := ⟨value, 0, 0, 0⟩

def length (it : Iterator) : ℕ := it.value.value.length

/-- The loop of `getNumberOfDigits` over the characters from an index on; `charAt`
throws behind the last one. -/
def countDigits (isDigit : UInt16 → Bool) : List UInt16 → Except JavaException ℕ
  | [] => .error .indexOutOfBoundsException
  | c :: rest =>
      if isDigit c = true then
        if rest = [] then .ok 1 else (countDigits isDigit rest).map (· + 1)
      else .ok 0

def getNumberOfDigits (isDigit : UInt16 → Bool) (it : Iterator) : Except JavaException ℕ :=
  countDigits isDigit (it.value.value.drop it.pos)

def addZeros (it : Iterator) (zerosToFeed : ℕ) : Iterator :=
  { it with zerosToFeed := zerosToFeed, stuffedZeros := it.stuffedZeros + zerosToFeed }

def getChar (it : Iterator) : Except JavaException UInt16 :=
  if 0 < it.zerosToFeed then .ok zero
  else match it.value.value.drop it.pos with
    | c :: _ => .ok c
    | [] => .error .indexOutOfBoundsException

/-- The iterator after `next()`; its result is `hasChar` of that. -/
def next (it : Iterator) : Iterator :=
  if 0 < it.zerosToFeed then { it with zerosToFeed := it.zerosToFeed - 1 }
  else { it with pos := it.pos + 1 }

def hasChar (it : Iterator) : Bool := decide (it.pos < it.length)

/-- The sum may exceed an `int`. -/
def overallLength (it : Iterator) : Int32 := Int32.ofInt (it.length + it.stuffedZeros)

end Iterator

/-- The local variables of `compare`. -/
structure Comparison where
  iterA : Iterator
  iterB : Iterator
  fisttStuffedAt : ℤ
  digitsFound : ℕ

namespace Comparison

/-- Feeds zeros to the iterator with fewer digits ahead. -/
def align (isDigit : UInt16 → Bool) (c : Comparison) : Except JavaException Comparison := do
  let digitsA ← c.iterA.getNumberOfDigits isDigit
  let digitsB ← c.iterB.getNumberOfDigits isDigit
  if digitsA = digitsB then pure c
  else
    let fisttStuffedAt := if c.fisttStuffedAt = 0 then (digitsA : ℤ) - digitsB else c.fisttStuffedAt
    if digitsA > digitsB then
      pure { c with fisttStuffedAt := fisttStuffedAt
                    iterB := c.iterB.addZeros (digitsA - digitsB)
                    digitsFound := digitsA }
    else
      pure { c with fisttStuffedAt := fisttStuffedAt
                    iterA := c.iterA.addZeros (digitsB - digitsA)
                    digitsFound := digitsB }

/-- The body of the loop; on the right the result of `compare`. -/
def body (isDigit : UInt16 → Bool) (c : Comparison) : Except JavaException (Comparison ⊕ ℤ) := do
  let c ← if c.digitsFound = 0 then align isDigit c
    else pure { c with digitsFound := c.digitsFound - 1 }
  let charA ← c.iterA.getChar
  let charB ← c.iterB.getChar
  if charA = charB then pure (.inl c) else pure (.inr ((charA.toNat : ℤ) - charB.toNat))

/-- What follows the loop. -/
def result (c : Comparison) : ℤ :=
  let lengthDifference := c.iterA.overallLength - c.iterB.overallLength
  if lengthDifference = 0 then c.fisttStuffedAt else lengthDifference.toInt

/-- One evaluation of `iterA.next() && iterB.next()`, and the body if it holds. -/
def pass (isDigit : UInt16 → Bool) (c : Comparison) : Except JavaException (Comparison ⊕ ℤ) :=
  if c.iterA.next.hasChar = true then
    if c.iterB.next.hasChar = true then
      body isDigit { c with iterA := c.iterA.next, iterB := c.iterB.next }
    else .ok (.inr (result { c with iterA := c.iterA.next, iterB := c.iterB.next }))
  else .ok (.inr (result { c with iterA := c.iterA.next }))

/-- The loop, for at most `fuel` passes. -/
def loop (isDigit : UInt16 → Bool) : ℕ → Comparison → Option (Except JavaException ℤ)
  | 0, _ => none
  | fuel + 1, c =>
      match pass isDigit c with
      | .error e => some (.error e)
      | .ok (.inr r) => some (.ok r)
      | .ok (.inl c) => loop isDigit fuel c

end Comparison

/-- `compare(valueA, valueB)`, for at most `fuel` passes of its loop. -/
def compare (isDigit : UInt16 → Bool) (fuel : ℕ) (valueA valueB : JavaString) :
    Option (Except JavaException ℤ) :=
  Comparison.loop isDigit fuel ⟨.new valueA, .new valueB, 0, 0⟩

/-- The characters an iterator has from here on, the current one first. -/
def Iterator.here (it : Iterator) : List UInt16 :=
  List.replicate it.zerosToFeed zero ++ it.value.value.drop it.pos

/-- Zeros are fed only in front of a character. -/
def Iterator.Fed (it : Iterator) : Prop := 0 < it.zerosToFeed → it.pos < it.length

section Iterators
variable {it : Iterator} {isDigit : UInt16 → Bool}

theorem here_next (it : Iterator) (fed : it.Fed) : it.next.here = it.here.tail := by
  obtain ⟨value, pos, stuffed, feed⟩ := it
  cases feed with
  | zero => simp [Iterator.next, Iterator.here]
  | succ feed => simp [Iterator.next, Iterator.here, List.replicate_succ]

theorem fed_next (fed : it.Fed) : it.next.Fed := by
  unfold Iterator.next
  split
  · next feeding => exact fun _ => fed feeding
  · next idle => exact fun feeding => absurd feeding idle

theorem hasChar_iff (fed : it.Fed) : it.hasChar = true ↔ it.here ≠ [] := by
  simp only [Iterator.hasChar, decide_eq_true_eq, Iterator.here, ne_eq, List.append_eq_nil_iff,
    List.replicate_eq_nil_iff, List.drop_eq_nil_iff, not_and, not_le]
  constructor
  · exact fun more _ => more
  · intro some
    by_cases idle : it.zerosToFeed = 0
    · exact some idle
    · exact fed (Nat.pos_of_ne_zero idle)

theorem getChar_here {x : UInt16} {xs : List UInt16} (here : it.here = x :: xs) :
    it.getChar = .ok x := by
  obtain ⟨value, pos, stuffed, feed⟩ := it
  cases feed with
  | zero =>
      simp only [Iterator.here, List.replicate_zero, List.nil_append] at here
      simp [Iterator.getChar, here]
  | succ feed =>
      simp only [Iterator.here, List.replicate_succ, List.cons_append, List.cons.injEq] at here
      simp [Iterator.getChar, here.1]

theorem here_addZeros (idle : it.zerosToFeed = 0) (n : ℕ) :
    (it.addZeros n).here = List.replicate n zero ++ it.here := by
  simp [Iterator.addZeros, Iterator.here, idle]

theorem countDigits_eq {xs : List UInt16} (some : xs ≠ []) :
    Iterator.countDigits isDigit xs = .ok (xs.takeWhile isDigit).length := by
  induction xs with
  | nil => exact absurd rfl some
  | cons x xs ih =>
      simp only [Iterator.countDigits]
      split
      · next digit =>
          split
          · next last =>
              subst last
              simp [digit]
          · next more => simp [ih more, digit, Except.map]
      · next other => simp [other]

theorem getNumberOfDigits_eq (isDigit : UInt16 → Bool) (idle : it.zerosToFeed = 0)
    (some : it.here ≠ []) :
    it.getNumberOfDigits isDigit = .ok (it.here.takeWhile isDigit).length := by
  have here : it.here = it.value.value.drop it.pos := by simp [Iterator.here, idle]
  rw [here] at some ⊢
  exact countDigits_eq some

end Iterators

/-- The comparison stands at `ha` and `hb`, which are in step: the names differ in
length, zeros included, as these do. -/
structure Stands (c : Comparison) (ha hb : List UInt16) : Prop where
  hereA : c.iterA.here = ha
  hereB : c.iterB.here = hb
  lengths : (c.iterA.length + c.iterA.stuffedZeros : ℤ) - (c.iterB.length + c.iterB.stuffedZeros) =
    ha.length - hb.length
  fedA : c.iterA.Fed
  fedB : c.iterB.Fed
  zerosA : c.iterA.zerosToFeed ≤ c.digitsFound
  zerosB : c.iterB.zerosToFeed ≤ c.digitsFound
  digitsA : c.digitsFound ≤ ha.length
  digitsB : c.digitsFound ≤ hb.length

section Passes
variable {c : Comparison} {ha hb : List UInt16} {isDigit : UInt16 → Bool}

theorem here_length (it : Iterator) : it.here.length = it.zerosToFeed + (it.length - it.pos) := by
  simp [Iterator.here, Iterator.length]

theorem length_lt (it : Iterator) : it.length < 2 ^ 31 := it.value.bound

theorem next_length (it : Iterator) : it.next.length = it.length := by
  unfold Iterator.next
  split <;> rfl

theorem next_stuffed (it : Iterator) : it.next.stuffedZeros = it.stuffedZeros := by
  unfold Iterator.next
  split <;> rfl

theorem next_overallLength (it : Iterator) : it.next.overallLength = it.overallLength := by
  rw [Iterator.overallLength, Iterator.overallLength, next_length, next_stuffed]

/-- The difference of the overall lengths fits in an `int`, although these may not. -/
theorem lengthDifference {a b : Iterator} {d : ℤ}
    (exact : (a.length + a.stuffedZeros : ℤ) - (b.length + b.stuffedZeros) = d)
    (low : -2 ^ 31 ≤ d) (high : d < 2 ^ 31) :
    (a.overallLength - b.overallLength).toInt = d := by
  have size : Int32.size = 2 ^ 32 := by decide
  rw [Iterator.overallLength, Iterator.overallLength, Int32.toInt_sub, Int32.toInt_ofInt,
    Int32.toInt_ofInt, size, ← Int.sub_bmod, exact]
  exact Int.bmod_eq_of_le (by omega) (by omega)

/-- Once one name has no further character, what is left of the other decides. -/
theorem result_eq (stands : Stands c ha hb) {a b : Iterator}
    (sameA : a.overallLength = c.iterA.overallLength)
    (sameB : b.overallLength = c.iterB.overallLength) :
    ({ c with iterA := a, iterB := b } : Comparison).result =
      if ha.length = hb.length then c.fisttStuffedAt else (ha.length : ℤ) - hb.length := by
  have lengthA := here_length c.iterA
  have lengthB := here_length c.iterB
  rw [stands.hereA] at lengthA
  rw [stands.hereB] at lengthB
  have shortA := length_lt c.iterA
  have shortB := length_lt c.iterB
  have digitsA := stands.digitsA
  have digitsB := stands.digitsB
  have zerosA := stands.zerosA
  have zerosB := stands.zerosB
  have difference := lengthDifference stands.lengths (by omega) (by omega)
  have same : a.overallLength - b.overallLength = 0 ↔ ha.length = hb.length := by
    rw [sameA, sameB, ← Int32.toInt_inj, difference, Int32.toInt_zero]
    omega
  simp only [Comparison.result, same]
  split
  · rfl
  · rw [sameA, sameB, difference]

theorem tail_nil_iff (xs : List UInt16) : xs.tail = [] ↔ xs.length ≤ 1 := by
  rw [← List.length_eq_zero_iff, List.length_tail]
  omega

theorem next_hasChar {it : Iterator} (fed : it.Fed) : it.next.hasChar = true ↔
    it.here.tail ≠ [] := by
  rw [hasChar_iff (fed_next fed), here_next it fed]

theorem pass_exit (stands : Stands c ha hb) (last : ha.length ≤ 1 ∨ hb.length ≤ 1) :
    c.pass isDigit = .ok (.inr
      (if ha.length = hb.length then c.fisttStuffedAt else (ha.length : ℤ) - hb.length)) := by
  unfold Comparison.pass
  split
  · next moreA =>
      rw [next_hasChar stands.fedA, stands.hereA, ne_eq, tail_nil_iff] at moreA
      split
      · next moreB =>
          rw [next_hasChar stands.fedB, stands.hereB, ne_eq, tail_nil_iff] at moreB
          exact (last.elim moreA moreB).elim
      · rw [result_eq stands (next_overallLength _) (next_overallLength _)]
  · rw [result_eq stands (next_overallLength _) rfl]

/-- The outcome of a look at two characters. -/
def look (x y : UInt16) (c : Comparison) : Comparison ⊕ ℤ :=
  if x = y then .inl c else .inr ((x.toNat : ℤ) - y.toNat)

variable {x₀ y₀ x y : UInt16} {xs ys : List UInt16}

theorem look_eq (hereA : c.iterA.here = x :: xs) (hereB : c.iterB.here = y :: ys) :
    (do
      let charA ← c.iterA.getChar
      let charB ← c.iterB.getChar
      if charA = charB then pure (.inl c) else pure (.inr ((charA.toNat : ℤ) - charB.toNat)) :
        Except JavaException (Comparison ⊕ ℤ)) = .ok (look x y c) := by
  rw [getChar_here hereA, getChar_here hereB, look]
  change (if x = y then _ else _) = _
  split <;> rfl

theorem pass_body (stands : Stands c (x₀ :: x :: xs) (y₀ :: y :: ys)) :
    c.pass isDigit = Comparison.body isDigit
      { c with iterA := c.iterA.next, iterB := c.iterB.next } := by
  have moreA : c.iterA.next.hasChar = true := by
    rw [next_hasChar stands.fedA, stands.hereA]
    exact List.cons_ne_nil _ _
  have moreB : c.iterB.next.hasChar = true := by
    rw [next_hasChar stands.fedB, stands.hereB]
    exact List.cons_ne_nil _ _
  rw [Comparison.pass, if_pos moreA, if_pos moreB]

theorem next_zeros (it : Iterator) : it.next.zerosToFeed = it.zerosToFeed - 1 := by
  unfold Iterator.next
  split
  · rfl
  · next idle => simp only; omega

/-- The comparison after both `next()`, a digit of the run used up. -/
def Comparison.advance (c : Comparison) : Comparison :=
  ⟨c.iterA.next, c.iterB.next, c.fisttStuffedAt, c.digitsFound - 1⟩

theorem stands_advance (stands : Stands c (x₀ :: ha) (y₀ :: hb)) : Stands c.advance ha hb := by
  have lengths := stands.lengths
  have zerosA := stands.zerosA
  have zerosB := stands.zerosB
  have digitsA := stands.digitsA
  have digitsB := stands.digitsB
  simp only [List.length_cons] at lengths digitsA digitsB
  refine ⟨?_, ?_, ?_, fed_next stands.fedA, fed_next stands.fedB, ?_, ?_, ?_, ?_⟩
  · simp [Comparison.advance, here_next _ stands.fedA, stands.hereA]
  · simp [Comparison.advance, here_next _ stands.fedB, stands.hereB]
  · simp only [Comparison.advance, next_length, next_stuffed]
    omega
  · simp only [Comparison.advance, next_zeros]
    omega
  · simp only [Comparison.advance, next_zeros]
    omega
  · simp only [Comparison.advance]
    omega
  · simp only [Comparison.advance]
    omega

/-- Within a run of digits both iterators go on by one character. -/
theorem pass_run (isDigit : UInt16 → Bool) (stands : Stands c (x₀ :: x :: xs) (y₀ :: y :: ys))
    (within : c.digitsFound ≠ 0) :
    c.pass isDigit = .ok (look x y c.advance) := by
  have next := stands_advance stands
  rw [pass_body stands]
  simp only [Comparison.body, if_neg within, pure_bind]
  exact look_eq next.hereA next.hereB

/-- The first difference of two numbers of digits. -/
def tie (first : ℤ) (digitsA digitsB : ℕ) : ℤ :=
  if first = 0 then (digitsA : ℤ) - digitsB else first

theorem tie_self (first : ℤ) (n : ℕ) : tie first n n = first := by
  unfold tie
  split
  · next none => rw [none, Int.sub_self]
  · rfl

/-- How many digits `xs` begins with. -/
def run (isDigit : UInt16 → Bool) (xs : List UInt16) : ℕ := (xs.takeWhile isDigit).length

theorem run_le (isDigit : UInt16 → Bool) (xs : List UInt16) : run isDigit xs ≤ xs.length :=
  (List.takeWhile_prefix (l := xs) isDigit).length_le

/-- Zeros are fed to fill a run up to `digits`. -/
def padded (isDigit : UInt16 → Bool) (digits : ℕ) (xs : List UInt16) : List UInt16 :=
  List.replicate (digits - run isDigit xs) zero ++ xs

theorem fed_addZeros {it : Iterator} (idle : it.zerosToFeed = 0) (some : it.here ≠ []) (n : ℕ) :
    (it.addZeros n).Fed := by
  have fed : it.Fed := fun feeding => absurd idle (Nat.ne_of_gt feeding)
  have more := (hasChar_iff fed).mpr some
  exact fun _ => of_decide_eq_true more

theorem Stands.swap (stands : Stands c ha hb) (first : ℤ) :
    Stands ⟨c.iterB, c.iterA, first, c.digitsFound⟩ hb ha := by
  have lengths := stands.lengths
  refine ⟨stands.hereB, stands.hereA, ?_, stands.fedB, stands.fedA, stands.zerosB, stands.zerosA,
    stands.digitsB, stands.digitsA⟩
  change (c.iterB.length + c.iterB.stuffedZeros : ℤ) - (c.iterA.length + c.iterA.stuffedZeros) = _
  omega

/-- Zeros fed to one name keep both in step. -/
theorem Stands.addZeros (stands : Stands c ha hb) (idleA : c.iterA.zerosToFeed = 0)
    (idleB : c.iterB.zerosToFeed = 0) (some : ha ≠ []) (first : ℤ) {k n : ℕ} (fed : k ≤ n)
    (digitsA : n ≤ k + ha.length) (digitsB : n ≤ hb.length) :
    Stands ⟨c.iterA.addZeros k, c.iterB, first, n⟩ (List.replicate k zero ++ ha) hb := by
  have lengths := stands.lengths
  have filled : (List.replicate k zero ++ ha).length = k + ha.length := by simp
  have more : c.iterA.here ≠ [] := by rwa [stands.hereA]
  refine ⟨?_, stands.hereB, ?_, fed_addZeros idleA more _, stands.fedB, fed, ?_, ?_, digitsB⟩
  · rw [here_addZeros idleA, stands.hereA]
  · change ((c.iterA.length : ℤ) + ↑(c.iterA.stuffedZeros + k)) -
      (c.iterB.length + c.iterB.stuffedZeros) = _
    rw [filled]
    omega
  · change c.iterB.zerosToFeed ≤ n
    omega
  · rw [filled]
    exact digitsA

/-- Outside of a run the iterator with fewer digits ahead is fed zeros. -/
theorem align_stands (stands : Stands c (x :: xs) (y :: ys)) (outside : c.digitsFound = 0)
    {m n : ℕ} (runA : run isDigit (x :: xs) = m) (runB : run isDigit (y :: ys) = n) :
    ∃ c' : Comparison, c.align isDigit = .ok c' ∧
      Stands c' (padded isDigit (max m n) (x :: xs)) (padded isDigit (max m n) (y :: ys)) ∧
      c'.digitsFound = (if m = n then 0 else max m n) ∧
        c'.fisttStuffedAt = tie c.fisttStuffedAt m n := by
  have zerosA := stands.zerosA
  have zerosB := stands.zerosB
  have idleA : c.iterA.zerosToFeed = 0 := by omega
  have idleB : c.iterB.zerosToFeed = 0 := by omega
  have countA := getNumberOfDigits_eq isDigit idleA (by rw [stands.hereA]; simp)
  have countB := getNumberOfDigits_eq isDigit idleB (by rw [stands.hereB]; simp)
  rw [stands.hereA] at countA
  rw [stands.hereB] at countB
  have countA : c.iterA.getNumberOfDigits isDigit = .ok m := countA.trans (congrArg _ runA)
  have countB : c.iterB.getNumberOfDigits isDigit = .ok n := countB.trans (congrArg _ runB)
  have lengthA := run_le isDigit (x :: xs)
  have lengthB := run_le isDigit (y :: ys)
  have someA : x :: xs ≠ [] := List.cons_ne_nil x xs
  have someB : y :: ys ≠ [] := List.cons_ne_nil y ys
  simp only [Comparison.align, countA, countB, padded, runA, runB]
  rcases Nat.lt_trichotomy m n with less | rfl | more
  · have largest : max m n = n := by omega
    refine ⟨⟨c.iterA.addZeros (n - m), c.iterB, tie c.fisttStuffedAt m n, n⟩, ?_, ?_, ?_, rfl⟩
    · change (if m = n then _ else _) = _
      rw [if_neg (by omega), if_neg (by omega)]
      rfl
    · rw [largest, Nat.sub_self, List.replicate_zero, List.nil_append]
      exact stands.addZeros idleA idleB someA _ (by omega) (by omega) (by omega)
    · rw [if_neg (by omega), largest]
  · refine ⟨c, ?_, ?_, ?_, ?_⟩
    · change (if m = m then _ else _) = _
      rw [if_pos rfl]
      rfl
    · rw [Nat.max_self, Nat.sub_self, List.replicate_zero, List.nil_append, List.nil_append]
      exact stands
    · rw [if_pos rfl, outside]
    · exact (tie_self _ m).symm
  · have largest : max m n = m := by omega
    refine ⟨⟨c.iterA, c.iterB.addZeros (m - n), tie c.fisttStuffedAt m n, m⟩, ?_, ?_, ?_, rfl⟩
    · change (if m = n then _ else _) = _
      rw [if_neg (by omega), if_pos more]
      rfl
    · rw [largest, Nat.sub_self, List.replicate_zero, List.nil_append]
      have swapped := (stands.swap 0).addZeros idleB idleA someB 0 (k := m - n) (n := m) (by omega)
        (by omega) (by omega)
      exact swapped.swap _
    · rw [if_neg (by omega), largest]

/-- Outside of a run the first characters looked at are those of the filled runs. -/
theorem pass_align (stands : Stands c (x₀ :: x :: xs) (y₀ :: y :: ys)) (outside : c.digitsFound = 0)
    {m n : ℕ} (runA : run isDigit (x :: xs) = m) (runB : run isDigit (y :: ys) = n) {p q : UInt16}
    {ps qs : List UInt16} (fillA : padded isDigit (max m n) (x :: xs) = p :: ps)
    (fillB : padded isDigit (max m n) (y :: ys) = q :: qs) :
    ∃ c' : Comparison, c.pass isDigit = .ok (look p q c') ∧ Stands c' (p :: ps) (q :: qs) ∧
      c'.digitsFound = (if m = n then 0 else max m n) ∧
        c'.fisttStuffedAt = tie c.fisttStuffedAt m n := by
  have next := stands_advance stands
  have idle : c.advance.digitsFound = 0 := by simp [Comparison.advance, outside]
  obtain ⟨c', aligned, stands', digits, first⟩ := align_stands next idle runA runB
  rw [fillA, fillB] at stands'
  refine ⟨c', ?_, stands', digits, first⟩
  have same : ({ c with iterA := c.iterA.next, iterB := c.iterB.next } : Comparison) =
      c.advance := by
    simp [Comparison.advance, outside]
  rw [pass_body stands, same, Comparison.body, if_pos idle, aligned]
  exact look_eq stands'.hereA stands'.hereB

end Passes
end Spsw.PortnamesComparator

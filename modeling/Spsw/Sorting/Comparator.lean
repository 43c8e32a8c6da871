import Mathlib.Data.List.Lex
import Mathlib.Data.Prod.Lex
import Mathlib.Data.Int.Order.Basic

/-!
# Comparators that follow a key

A comparison that returns an integer is lawful when its sign is the order of a
key in some linear order. `Orders r x y` says so of one result, and the rules
below build it along lexicographic lists and pairs.
-/
namespace Sorting

/-- What sorting relies on. -/
structure Lawful {α : Type*} (compare : α → α → ℤ) : Prop where
  antisymmetric : ∀ a b, (compare a b).sign = -(compare b a).sign
  transitive : ∀ a b c, 0 < compare a b → 0 < compare b c → 0 < compare a c
  congruent : ∀ a b c, compare a b = 0 → (compare a c).sign = (compare b c).sign

/-- The sign of `r` is the order of `x` and `y`. -/
structure Orders {κ : Type*} [LinearOrder κ] (r : ℤ) (x y : κ) : Prop where
  above : 0 < r ↔ y < x
  below : r < 0 ↔ x < y

section Rules
variable {κ μ : Type*} [LinearOrder κ] [LinearOrder μ] {r : ℤ} {x y : κ}

theorem Orders.equal (orders : Orders r x y) : r = 0 ↔ x = y := by
  constructor
  · rintro rfl
    exact le_antisymm (not_lt.mp fun gt => (lt_irrefl _ (orders.above.mpr gt)))
      (not_lt.mp fun lt => (lt_irrefl _ (orders.below.mpr lt)))
  · rintro rfl
    by_contra ne
    rcases Int.lt_or_gt_of_ne ne with neg | pos
    · exact lt_irrefl _ (orders.below.mp neg)
    · exact lt_irrefl _ (orders.above.mp pos)

theorem orders_lt (neg : r < 0) (lt : x < y) : Orders r x y :=
  ⟨iff_of_false (by omega) (not_lt.mpr lt.le), iff_of_true neg lt⟩

theorem orders_gt (pos : 0 < r) (gt : y < x) : Orders r x y :=
  ⟨iff_of_true pos gt, iff_of_false (by omega) (not_lt.mpr gt.le)⟩

theorem orders_refl (x : κ) : Orders 0 x x :=
  ⟨iff_of_false (lt_irrefl 0) (lt_irrefl x), iff_of_false (lt_irrefl 0) (lt_irrefl x)⟩

theorem Orders.sign_eq {r' : ℤ} (orders : Orders r x y) (orders' : Orders r' x y) :
    r.sign = r'.sign := by
  rcases lt_trichotomy x y with lt | rfl | gt
  · rw [Int.sign_eq_neg_one_of_neg (orders.below.mpr lt),
      Int.sign_eq_neg_one_of_neg (orders'.below.mpr lt)]
  · rw [orders.equal.mpr rfl, orders'.equal.mpr rfl]
  · rw [Int.sign_eq_one_of_pos (orders.above.mpr gt), Int.sign_eq_one_of_pos (orders'.above.mpr gt)]

theorem orders_sub (m n : ℕ) : Orders ((m : ℤ) - n) m n :=
  ⟨by omega, by omega⟩

/-- Different heads decide. -/
theorem Orders.head {l m : List κ} (orders : Orders r x y) (ne : x ≠ y) :
    Orders r (x :: l) (y :: m) := by
  rcases lt_or_gt_of_ne ne with lt | gt
  · exact orders_lt (orders.below.mpr lt) (List.cons_lt_cons_iff.mpr (.inl lt))
  · exact orders_gt (orders.above.mpr gt) (List.cons_lt_cons_iff.mpr (.inl gt))

theorem Orders.cons {l m : List κ} (orders : Orders r l m) (x : κ) : Orders r (x :: l) (x :: m) :=
  ⟨orders.above.trans (by simp), orders.below.trans (by simp)⟩

/-- Different first components decide. -/
theorem Orders.fst {u v : μ} (orders : Orders r x y) (ne : x ≠ y) :
    Orders r (toLex (x, u)) (toLex (y, v)) := by
  rcases lt_or_gt_of_ne ne with lt | gt
  · exact orders_lt (orders.below.mpr lt) (Prod.Lex.toLex_lt_toLex.mpr (.inl lt))
  · exact orders_gt (orders.above.mpr gt) (Prod.Lex.toLex_lt_toLex.mpr (.inl gt))

theorem Orders.snd {u v : μ} (orders : Orders r u v) (x : κ) :
    Orders r (toLex (x, u)) (toLex (x, v)) := by
  constructor
  · rw [orders.above, Prod.Lex.toLex_lt_toLex]
    simp
  · rw [orders.below, Prod.Lex.toLex_lt_toLex]
    simp

end Rules

/-- A comparison that follows a key is lawful. -/
theorem lawful_of_key {α κ : Type*} [LinearOrder κ] {compare : α → α → ℤ} (key : α → κ)
    (follows : ∀ a b, Orders (compare a b) (key a) (key b)) : Lawful compare := by
  refine ⟨fun a b => ?_, fun a b c first second => ?_, fun a b c same => ?_⟩
  · have back : Orders (-compare b a) (key a) (key b) :=
      ⟨by rw [← (follows b a).below]; omega, by rw [← (follows b a).above]; omega⟩
    rw [(follows a b).sign_eq back, Int.sign_neg]
  · exact (follows a c).above.mpr
      (((follows b c).above.mp second).trans ((follows a b).above.mp first))
  · have eq := (follows a b).equal.mp same
    exact (follows a c).sign_eq (by rw [eq]; exact follows b c)

end Sorting

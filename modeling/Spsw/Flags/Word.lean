import Mathlib.Tactic.Common

/-!
# Words of flags

A word carries flags under masks. Setting or clearing one mask leaves what lies
under a mask apart from it, and a field under a mask reads back what was put there.
-/
namespace Flags
variable {w : ℕ} {k m n v x y z : BitVec w}

/-- The masks have no flag in common. -/
def Apart (m n : BitVec w) : Prop := m &&& n = 0#w

/-- All flags of `v` are flags of `m`. -/
def Within (v m : BitVec w) : Prop := v &&& m = v

/-- The words carry the same flags of `m`. -/
def Agree (m x y : BitVec w) : Prop := x &&& m = y &&& m

instance : Decidable (Apart m n) := inferInstanceAs (Decidable (_ = _))

instance : Decidable (Within v m) := inferInstanceAs (Decidable (_ = _))

section Masks

theorem apart_iff : Apart m n ↔ ∀ i, m.getLsbD i = true → n.getLsbD i = false := by
  constructor
  · intro apart i set
    have bit := congrArg (fun word => word.getLsbD i) apart
    simpa [set] using bit
  · intro bits
    apply BitVec.eq_of_getLsbD_eq
    intro i _
    have bit := bits i
    simpa using bit

theorem within_iff : Within v m ↔ ∀ i, v.getLsbD i = true → m.getLsbD i = true := by
  constructor
  · intro within i set
    have bit := congrArg (fun word => word.getLsbD i) within
    simpa [set] using bit
  · intro bits
    apply BitVec.eq_of_getLsbD_eq
    intro i _
    have bit := bits i
    simpa using bit

theorem Apart.symm (apart : Apart m n) : Apart n m := by
  rw [Apart, BitVec.and_comm]
  exact apart

theorem apart_zero (m : BitVec w) : Apart m 0#w := BitVec.and_zero

theorem Apart.or (first : Apart m n) (second : Apart m k) : Apart m (n ||| k) := by
  rw [Apart, BitVec.and_or_distrib_left, first, second, BitVec.or_self]

theorem within_refl (m : BitVec w) : Within m m := BitVec.and_self

theorem Within.or (first : Within v m) (second : Within k m) : Within (v ||| k) m := by
  rw [Within, BitVec.and_or_distrib_right, first, second]

theorem within_left (m n : BitVec w) : Within m (m ||| n) := by
  rw [within_iff]
  intro i set
  simp [set]

theorem within_right (m n : BitVec w) : Within n (m ||| n) := by
  rw [BitVec.or_comm]
  exact within_left n m

theorem Within.trans (first : Within k v) (second : Within v m) : Within k m := by
  rw [within_iff] at first second ⊢
  exact fun i set => second i (first i set)

/-- A field shows nothing under a mask apart from its own. -/
theorem Within.and_apart (within : Within v m) (apart : Apart m n) : v &&& n = 0#w := by
  rw [Within] at within
  rw [← within, BitVec.and_assoc, show m &&& n = 0#w from apart, BitVec.and_zero]

theorem Apart.within_not (apart : Apart m n) : Within m (~~~n) := by
  rw [within_iff]
  rw [apart_iff] at apart
  intro i set
  by_cases inside : i < w
  · have clear := apart i set
    simp only [BitVec.getLsbD_not, inside, clear]
    simp
  · simp [BitVec.getLsbD_of_ge m i (by omega)] at set

theorem Within.apart_not (within : Within v m) : Apart (~~~m) v := by
  rw [apart_iff]
  rw [within_iff] at within
  intro i set
  by_contra both
  have inside := within i (by simpa using both)
  simp [BitVec.getLsbD_not, inside] at set

end Masks

section Words

theorem agree_refl (m x : BitVec w) : Agree m x x := rfl

theorem Agree.trans (first : Agree m x y) (second : Agree m y z) : Agree m x z :=
  Eq.trans first second

theorem agree_iff : Agree m x y ↔ ∀ i, m.getLsbD i = true → x.getLsbD i = y.getLsbD i := by
  constructor
  · intro agree i set
    have bit := congrArg (fun word => word.getLsbD i) agree
    simpa [set] using bit
  · intro bits
    apply BitVec.eq_of_getLsbD_eq
    intro i _
    have bit := bits i
    cases set : m.getLsbD i with
    | false => simp [set]
    | true => simp [set, bit set]

theorem Agree.within (agree : Agree m x y) (within : Within k m) : Agree k x y := by
  rw [agree_iff] at agree ⊢
  rw [within_iff] at within
  exact fun i set => agree i (within i set)

/-- Clearing flags apart from a mask. -/
theorem agree_clear (apart : Apart m n) (x : BitVec w) : Agree m (x &&& ~~~n) x := by
  rw [agree_iff]
  rw [apart_iff] at apart
  intro i set
  by_cases inside : i < w
  · have clear := apart i set
    simp only [BitVec.getLsbD_and, BitVec.getLsbD_not, inside, clear]
    simp
  · simp [BitVec.getLsbD_of_ge m i (by omega)] at set

/-- Setting flags apart from a mask. -/
theorem agree_set (apart : Apart m n) (x : BitVec w) : Agree m (x ||| n) x := by
  rw [agree_iff]
  rw [apart_iff] at apart
  intro i set
  simp [apart i set]

theorem clear_under (within : Within m n) (x : BitVec w) : x &&& ~~~n &&& m = 0#w := by
  rw [within_iff] at within
  apply BitVec.eq_of_getLsbD_eq
  intro i inside
  have bit := within i
  cases set : m.getLsbD i with
  | false => simp [set]
  | true => simp [set, bit set]

theorem set_under (x m : BitVec w) : (x ||| m) &&& m = m := by
  apply BitVec.eq_of_getLsbD_eq
  intro i _
  cases set : m.getLsbD i with
  | false => simp [set]
  | true => simp [set]

/-- A field reads back what it was replaced by. -/
theorem put_under (within : Within v m) (x : BitVec w) : (x &&& ~~~m ||| v) &&& m = v := by
  rw [BitVec.and_or_distrib_right, clear_under (within_refl m), BitVec.zero_or]
  exact within

end Words
end Flags

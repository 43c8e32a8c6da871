import Mathlib.Data.List.Basic

/-!
# Writing into a list

`overwrite` puts a list over a part of another one and never beyond its end. `Placed` says
of the result what a frame rule needs: where the new elements are, and that no other
element has changed.
-/
namespace Slices
variable {α : Type}

def overwrite (dst : List α) (start : ℕ) (src : List α) : List α :=
  dst.take start ++ src.take (dst.length - start) ++ dst.drop (start + src.length)

/-- `data` is in `dst'` from `start` on, and everything else is as in `dst`. -/
structure Placed (start : ℕ) (data dst dst' : List α) : Prop where
  length : dst'.length = dst.length
  slice : (dst'.drop start).take data.length = data
  others : ∀ i, i < start ∨ start + data.length ≤ i → dst'[i]? = dst[i]?

section Rules
variable {dst src data : List α} {start : ℕ}

@[simp] theorem overwrite_length : (overwrite dst start src).length = dst.length := by
  simp only [overwrite, List.length_append, List.length_take, List.length_drop]
  omega

theorem overwrite_fits (fits : start + src.length ≤ dst.length) :
    overwrite dst start src = dst.take start ++ src ++ dst.drop (start + src.length) := by
  rw [overwrite, List.take_of_length_le (by omega : src.length ≤ dst.length - start)]

theorem overwrite_placed (fits : start + src.length ≤ dst.length) :
    Placed start src dst (overwrite dst start src) := by
  have before : (dst.take start).length = start := by
    rw [List.length_take]
    omega
  constructor
  case length => exact overwrite_length
  case slice =>
    have skipped : (dst.take start).drop start = [] := List.drop_eq_nil_of_le (by omega)
    rw [overwrite_fits fits, List.append_assoc,
      List.drop_append_of_le_length (by omega), skipped, List.nil_append]
    exact List.take_left
  case others =>
    intro i outside
    rw [overwrite_fits fits]
    rcases outside with lower | upper
    · rw [List.append_assoc, List.getElem?_append_left (by omega), List.getElem?_take_of_lt lower]
    · rw [List.getElem?_append_right
        (by rw [List.length_append]; omega), List.length_append, before, List.getElem?_drop]
      congr 1
      omega

/-- Over a list that already agrees with it behind `data`, only `data` is new. -/
theorem overwrite_same (fits : start + data.length ≤ dst.length) :
    overwrite dst start (data ++ (dst.drop start).drop data.length) = overwrite dst start data := by
  rw [overwrite_fits fits, overwrite_fits]
  · simp only [List.length_append, List.length_drop, List.drop_drop, List.append_assoc]
    rw [List.drop_eq_nil_of_le
      (by omega : dst.length ≤ start + (data.length +
      (dst.length - (start + data.length)))), List.append_nil]
  · simp only [List.length_append, List.length_drop]
    omega

end Rules
end Slices

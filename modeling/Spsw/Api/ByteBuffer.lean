import Mathlib.Data.Int.Notation
import Mathlib.Data.List.Basic

/-!
# `java.nio.ByteBuffer`

The cursor arithmetic the sockets and streams rely on. The bounds are fields, so
a buffer whose position has run past its limit cannot be built.
-/
namespace Spsw

structure ByteBuffer where
  bytes : List UInt8
  position : ℕ
  limit : ℕ
  position_le : position ≤ limit
  limit_le : limit ≤ bytes.length
  deriving DecidableEq

namespace ByteBuffer

def capacity (b : ByteBuffer) : ℕ := b.bytes.length

def remaining (b : ByteBuffer) : ℕ := b.limit - b.position

def hasRemaining (b : ByteBuffer) : Bool := decide (b.position < b.limit)

/-- The bytes between position and limit. -/
def pending (b : ByteBuffer) : List UInt8 := (b.bytes.take b.limit).drop b.position

def allocateDirect (n : ℕ) : ByteBuffer :=
  ⟨List.replicate n 0, 0, n, n.zero_le, by simp⟩

def wrap (bytes : List UInt8) : ByteBuffer := ⟨bytes, 0, bytes.length, Nat.zero_le _, Nat.le_refl _⟩

def clear (b : ByteBuffer) : ByteBuffer :=
  ⟨b.bytes, 0, b.bytes.length, Nat.zero_le _, Nat.le_refl _⟩

def flip (b : ByteBuffer) : ByteBuffer :=
  ⟨b.bytes, 0, b.position, Nat.zero_le _, Nat.le_trans b.position_le b.limit_le⟩

/-- `limit(n)`, or `none` for its IllegalArgumentException. -/
def setLimit (b : ByteBuffer) (n : ℕ) : Option ByteBuffer :=
  if fits : n ≤ b.bytes.length then some ⟨b.bytes, min b.position n, n, Nat.min_le_right _ _, fits⟩
  else none

/-- `position(n)`, or `none` for its IllegalArgumentException. -/
def setPosition (b : ByteBuffer) (n : ℤ) : Option ByteBuffer :=
  if fits : 0 ≤ n ∧ n ≤ b.limit then
    some ⟨b.bytes, n.toNat, b.limit, by omega, b.limit_le⟩ else none

/-- Moves the position over `k` bytes, at most to the limit. -/
def advance (b : ByteBuffer) (k : ℕ) : ByteBuffer :=
  ⟨b.bytes, min (b.position + k) b.limit, b.limit, Nat.min_le_right _ _, b.limit_le⟩

/-- Stores `src` at the position and moves the position behind it. -/
def place (b : ByteBuffer) (src : List UInt8) (fits : src.length ≤ b.remaining) : ByteBuffer :=
  ⟨b.bytes.take b.position ++ src ++ b.bytes.drop (b.position + src.length),
    b.position + src.length, b.limit, by
      have := b.position_le
      simp only [remaining] at fits
      omega, by
      have := b.limit_le
      have := b.position_le
      simp only [remaining] at fits
      simp only [List.length_append, List.length_take, List.length_drop]
      omega⟩

/-- `put(src)`, or `none` for its BufferOverflowException. -/
def put (b : ByteBuffer) (src : List UInt8) : Option ByteBuffer :=
  if fits : src.length ≤ b.remaining then some (b.place src fits) else none

/-- `get(dst, off, n)`: the bytes fetched, or `none` for its BufferUnderflowException. -/
def get (b : ByteBuffer) (n : ℕ) : Option (List UInt8 × ByteBuffer) :=
  if n ≤ b.remaining then some (b.pending.take n, b.advance n) else none

theorem hasRemaining_iff (b : ByteBuffer) : b.hasRemaining = true ↔ 0 < b.remaining := by
  simp only [hasRemaining, remaining, decide_eq_true_eq]
  omega

theorem hasRemaining_false_iff (b : ByteBuffer) : b.hasRemaining = false ↔ b.remaining = 0 := by
  simp only [hasRemaining, remaining, decide_eq_false_iff_not]
  omega

@[simp] theorem pending_length (b : ByteBuffer) : b.pending.length = b.remaining := by
  have := b.limit_le
  simp only [pending, remaining, List.length_drop, List.length_take]
  omega

theorem pending_eq_nil_iff (b : ByteBuffer) : b.pending = [] ↔ b.remaining = 0 := by
  rw [← List.length_eq_zero_iff, pending_length]

theorem advance_position (b : ByteBuffer) {k : ℕ} (fits : k ≤ b.remaining) :
    (b.advance k).position = b.position + k := by
  have := b.position_le
  simp only [advance, remaining] at *
  omega

theorem setPosition_advance (b : ByteBuffer) {k : ℕ} (fits : k ≤ b.remaining) :
    b.setPosition (b.position + k) = some (b.advance k) := by
  have := b.position_le
  simp only [remaining] at fits
  have within : (0 : ℤ) ≤ b.position + k ∧ (b.position : ℤ) + k ≤ b.limit := by omega
  simp only [setPosition, dif_pos within, advance, Option.some.injEq, mk.injEq, true_and, and_true]
  omega

@[simp] theorem advance_pending (b : ByteBuffer) (k : ℕ) :
    (b.advance k).pending = b.pending.drop k := by
  have := b.position_le
  have := b.limit_le
  simp only [pending, advance, List.drop_drop]
  by_cases fits : b.position + k ≤ b.limit
  · rw [Nat.min_eq_left fits]
  · rw [Nat.min_eq_right (by omega), List.drop_eq_nil_of_le (by rw [List.length_take]; omega),
      List.drop_eq_nil_of_le (by rw [List.length_take]; omega)]

@[simp] theorem advance_remaining (b : ByteBuffer) (k : ℕ) :
    (b.advance k).remaining = b.remaining - k := by
  rw [← pending_length, advance_pending, List.length_drop, pending_length]

@[simp] theorem advance_zero (b : ByteBuffer) : b.advance 0 = b := by
  have := b.position_le
  obtain ⟨bytes, position, limit, h₁, h₂⟩ := b
  simp only [advance, Nat.add_zero, mk.injEq, true_and, and_true]
  exact Nat.min_eq_left h₁

theorem advance_advance (b : ByteBuffer) (j k : ℕ) :
    (b.advance j).advance k = b.advance (j + k) := by
  simp only [advance, mk.injEq, true_and, and_true]
  omega

section Place
variable {b : ByteBuffer} {src more : List UInt8} (fits : src.length ≤ b.remaining)

@[simp] theorem place_position : (b.place src fits).position = b.position + src.length := rfl

@[simp] theorem place_limit : (b.place src fits).limit = b.limit := rfl

@[simp] theorem place_remaining : (b.place src fits).remaining = b.remaining - src.length := by
  simp only [remaining, place_position, place_limit]
  omega

@[simp] theorem place_capacity : (b.place src fits).capacity = b.capacity := by
  have := b.limit_le
  have := b.position_le
  simp only [remaining] at fits
  simp only [capacity, place, List.length_append, List.length_take, List.length_drop]
  omega

/-- What stands before the position grows by exactly what was put. -/
theorem place_written : (b.place src fits).bytes.take (b.place src fits).position =
    b.bytes.take b.position ++ src := by
  have := b.limit_le
  have := b.position_le
  have before : (b.bytes.take b.position ++ src).length = b.position + src.length := by
    simp only [List.length_append, List.length_take]
    omega
  change (b.bytes.take b.position ++ src ++ _).take (b.position + src.length) = _
  rw [← before]
  exact List.take_left

theorem place_nil (_none : [].length ≤ b.remaining) : b.place [] _none = b := by
  simp only [place, List.append_nil, List.length_nil, Nat.add_zero, List.take_append_drop]

theorem place_place (fits' : more.length ≤ (b.place src fits).remaining)
    (both : (src ++ more).length ≤ b.remaining) :
    (b.place src fits).place more fits' = b.place (src ++ more) both := by
  have len : (b.bytes.take b.position ++ src).length = b.position + src.length := by
    have := b.limit_le
    have := b.position_le
    simp only [List.length_append, List.length_take]
    omega
  have before := place_written fits
  have beyond : (b.place src fits).bytes.drop (b.position + src.length + more.length) =
      b.bytes.drop (b.position + src.length + more.length) := by
    change (b.bytes.take b.position ++ src ++ _).drop (b.position + src.length + more.length) = _
    rw [← len, List.drop_length_add_append, List.drop_drop, len]
  have bytes : (b.place src fits).bytes.take (b.place src fits).position ++ more ++
      (b.place src fits).bytes.drop ((b.place src fits).position + more.length) =
      b.bytes.take b.position ++ (src ++ more) ++
        b.bytes.drop (b.position + (src ++ more).length) := by
    rw [before, place_position, beyond, List.append_assoc (b.bytes.take _), List.length_append,
      Nat.add_assoc]
  simp only [place, mk.injEq, List.length_append, Nat.add_assoc, and_true]
  simpa only [place, List.length_append, Nat.add_assoc] using bytes

/-- `clear().put(src).flip()` leaves exactly `src` pending, whatever was there before. -/
theorem fill_pending (fits : src.length ≤ b.clear.remaining) :
    (b.clear.place src fits).flip.pending = src := by
  have written := place_written fits
  simpa [pending, flip, clear] using written

end Place

@[simp] theorem capacity_allocateDirect (n : ℕ) : (allocateDirect n).capacity = n := by
  simp [capacity, allocateDirect]

end ByteBuffer
end Spsw

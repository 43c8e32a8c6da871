import Mathlib.Data.Int.Order.Basic
import Spsw.Jnhw.Socket

/-!
# The time that is left

What `remainingTimeOut` has to do with the time until the deadline. The seconds and the
nanoseconds are subtracted apart from each other, the latter are rounded towards zero, and
all products and sums are those of Java's `int`.
-/
namespace Spsw.Jnhw

def INFINITE_TIMEOUT : ℤ := 0

def Socket.setTimeouts (s : Socket)
    (interByteReadTimeout overallReadTimeout overallWriteTimeout : ℤ) :
    Except JavaException Socket :=
  if overallWriteTimeout < 0 then
    .error (.illegalArgumentException "setTimeouts: overallWriteTimeout must >= 0")
  else if overallReadTimeout < 0 then
    .error (.illegalArgumentException "setTimeouts: overallReadTimeout must >= 0")
  else if interByteReadTimeout < 0 then
    .error (.illegalArgumentException "setReadTimeouts: interByteReadTimeout must >= 0")
  else
    .ok { s with
      interByteReadTimeout := interByteReadTimeout
      pollReadTimeout :=
        if overallReadTimeout = INFINITE_TIMEOUT then POLL_INFINITE_TIMEOUT else overallReadTimeout
      pollWriteTimeout :=
        if overallWriteTimeout = INFINITE_TIMEOUT then
          POLL_INFINITE_TIMEOUT else overallWriteTimeout }

namespace Timespec

/-- A point in time, in nanoseconds. -/
def nanos (t : Timespec) : ℤ := t.tv_sec * 1000000000 + t.tv_nsec

/-- What the clock reports. -/
def Normalised (t : Timespec) : Prop := 0 ≤ t.tv_nsec ∧ t.tv_nsec < 1000000000

end Timespec

section Arithmetic
variable {start now endTime : Timespec} {timeout : ℤ}

theorem toInt_small {x : ℤ} (low : -2147483648 ≤ x) (high : x ≤ 2147483647) : toInt x = x := by
  rw [toInt]
  exact Int.bmod_eq_of_le (by omega) (by omega)

/-- The carry moves the end time by nothing. -/
theorem plusMillis_nanos (start : Timespec) (timeout : ℤ) :
    (start.plusMillis timeout).nanos = start.nanos + timeout * 1000000 := by
  have split := Int.tdiv_mul_add_tmod timeout 1000
  unfold Timespec.plusMillis Timespec.nanos
  dsimp only
  split
  · dsimp only
    omega
  · dsimp only
    omega

theorem plusMillis_nsec (normal : start.Normalised) (positive : 0 ≤ timeout) :
    0 ≤ (start.plusMillis timeout).tv_nsec ∧ (start.plusMillis timeout).tv_nsec ≤ 1000000000 := by
  have low := Int.tmod_nonneg 1000 positive
  have high := Int.tmod_lt_of_pos timeout (show (0 : ℤ) < 1000 by decide)
  obtain ⟨startLow, startHigh⟩ := normal
  unfold Timespec.plusMillis
  dsimp only
  split
  · dsimp only
    omega
  · dsimp only
    omega

/-- The milliseconds as they would be without an `int`. -/
def unbounded (endTime now : Timespec) : ℤ :=
  (endTime.tv_sec - now.tv_sec) * 1000 + (endTime.tv_nsec - now.tv_nsec).tdiv 1000000

/-- Wherever `int` overflows on the way, the result is the one number that fits. -/
theorem remainingTimeOut_eq (endTime now : Timespec) :
    remainingTimeOut endTime now = toInt (unbounded endTime now) := by
  simp only [remainingTimeOut, unbounded, toInt]
  rw [Int.add_bmod_bmod, Int.bmod_add_bmod, Int.add_comm, ← Int.add_bmod_bmod,
    Int.bmod_mul_bmod, Int.add_bmod_bmod, Int.add_comm]

/-- Rounding either part towards zero loses less than a millisecond. -/
theorem unbounded_close (endTime now : Timespec) :
    endTime.nanos - now.nanos - 1000000 < unbounded endTime now * 1000000 ∧
      unbounded endTime now * 1000000 < endTime.nanos - now.nanos + 1000000 := by
  have rounded := Int.tdiv_mul_add_tmod (endTime.tv_nsec - now.tv_nsec) 1000000
  have low := Int.lt_tmod_of_pos (endTime.tv_nsec - now.tv_nsec) (show (0 : ℤ) < 1000000 by decide)
  have high := Int.tmod_lt_of_pos (endTime.tv_nsec - now.tv_nsec) (show (0 : ℤ) < 1000000 by decide)
  unfold unbounded Timespec.nanos
  omega

/-- The clock is read again within an `int` of milliseconds after the deadline. -/
structure Later (start : Timespec) (timeout : ℤ) (now : Timespec) : Prop where
  start_normal : start.Normalised
  normal : now.Normalised
  after : start.nanos ≤ now.nanos
  within : now.nanos ≤ start.nanos + (timeout + 2147483647) * 1000000

/-- `remaining` milliseconds for the `left` nanoseconds until a deadline
`timeout` milliseconds away. -/
structure Remains (timeout left remaining : ℤ) : Prop where
  above : left - 1000000 < remaining * 1000000
  below : remaining * 1000000 < left + 1000000
  atMost : remaining ≤ timeout
  passed : remaining < 0 → left < 0
  over_soon : left ≤ -1000000 → remaining < 0

/-- The computed time is the exact one, but for a part of a millisecond. -/
theorem remainingTimeOut_remains (positive : 1 ≤ timeout) (int : timeout ≤ 2147483647)
    (later : Later start timeout now) :
      Remains timeout (start.nanos + timeout * 1000000 - now.nanos)
      (remainingTimeOut (start.plusMillis timeout) now) := by
  obtain ⟨above, below⟩ := unbounded_close (start.plusMillis timeout) now
  have after := later.after
  have within := later.within
  rw [plusMillis_nanos] at above below
  have exact' : remainingTimeOut (start.plusMillis timeout) now =
      unbounded (start.plusMillis timeout) now := by
    rw [remainingTimeOut_eq]
    exact toInt_small (by omega) (by omega)
  rw [exact']
  exact ⟨above, below, by omega, by omega, by omega⟩

end Arithmetic

section Timeouts
variable {s s' : Socket} {interByte overallRead overallWrite : ℤ}

/-- Timeouts that are accepted are those the calls use, and none of them is negative. -/
theorem setTimeouts_accepted
    (accepted : s.setTimeouts interByte overallRead overallWrite = .ok s') :
    0 ≤ s'.interByteReadTimeout ∧ (0 < overallRead → s'.pollReadTimeout = overallRead) ∧
      (0 < overallWrite → s'.pollWriteTimeout = overallWrite) := by
  unfold Socket.setTimeouts INFINITE_TIMEOUT at accepted
  split at accepted
  · cases accepted
  · split at accepted
    · cases accepted
    · split at accepted
      · cases accepted
      · next interByteLow =>
          cases accepted
          exact ⟨not_lt.mp interByteLow,
            fun some => if_neg (by omega), fun some => if_neg (by omega)⟩

end Timeouts

end Spsw.Jnhw

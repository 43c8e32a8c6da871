import Spsw.Interaction.Matching
import Spsw.Jni.TermiosIO
import Spsw.Jnhw.Deadline

/-!
# The deadline in C

Where the native library computes its deadline, an `int32_t` that overflows is undefined,
and so is what `endTime` holds before it is set. `setTimeouts` keeps the timeout 0 away, for
which a write would look at an `endTime` that no clock has set.
-/
namespace Spsw.Jni.TermiosIO
open Interaction
open Interaction.Method (iterate MatchingM)
open Jnhw (Timespec remainingTimeOut remainingTimeOut_eq toInt_small unbounded
  unbounded_close plusMillis_nanos plusMillis_nsec)

def Settings.setTimeouts (s : Settings)
    (interByteReadTimeout overallReadTimeout overallWriteTimeout : ℤ) :
    Except JavaException Settings :=
  if overallWriteTimeout < 0 then
    .error (.illegalArgumentException "setTimeouts: overallWriteTimeout must >= 0")
  else if overallReadTimeout < 0 then
    .error (.illegalArgumentException "setTimeouts: overallReadTimeout must >= 0")
  else if interByteReadTimeout < 0 then
    .error (.illegalArgumentException "setReadTimeouts: interByteReadTimeout must >= 0")
  else
    .ok { s with
      interByteReadTimeout := interByteReadTimeout
      pollReadTimeout := if overallReadTimeout = 0 then -1 else overallReadTimeout
      pollWriteTimeout := if overallWriteTimeout = 0 then -1 else overallWriteTimeout }

/-- The number is an `int32_t`. -/
def InRange (x : ℤ) : Prop := -2147483648 ≤ x ∧ x ≤ 2147483647

/-- All that is computed in 32 bits for a deadline `timeout` milliseconds after `start`, and
for the time left of it at `now`. -/
structure Computed (start : Timespec) (timeout : ℤ) (now : Timespec) : Prop where
  remainder : InRange (timeout.tmod 1000 * 1000000)
  seconds : InRange ((start.plusMillis timeout).tv_sec - now.tv_sec)
  product : InRange (((start.plusMillis timeout).tv_sec - now.tv_sec) * 1000)
  nanos : InRange (((start.plusMillis timeout).tv_nsec - now.tv_nsec).tdiv 1000000)
  sum : InRange (unbounded (start.plusMillis timeout) now)

/-- The clock is read again before the deadline. -/
structure Before (start : Timespec) (timeout : ℤ) (now : Timespec) : Prop where
  start_normal : start.Normalised
  normal : now.Normalised
  after : start.nanos ≤ now.nanos
  inTime : now.nanos ≤ start.nanos + timeout * 1000000

/-- The remainder carries a timeout of 2147483 seconds into one more, and the clock is
read in the second it was first read in. -/
def Exceeds (start : Timespec) (timeout : ℤ) (now : Timespec) : Prop :=
  2147483000 ≤ timeout ∧ 1000000000 < start.tv_nsec + timeout.tmod 1000 * 1000000 ∧
    now.tv_sec = start.tv_sec

section Overflow
variable {start now : Timespec} {timeout : ℤ}

theorem plusMillis_sec (start : Timespec) (timeout : ℤ) : (start.plusMillis timeout).tv_sec =
    start.tv_sec + timeout.tdiv 1000 +
      if start.tv_nsec + timeout.tmod 1000 * 1000000 > 1000000000 then 1 else 0 := by
  unfold Timespec.plusMillis
  dsimp only
  split
  · rfl
  · exact (Int.add_zero _).symm

/-- The seconds left are too many for a product with 1000 in one case only. -/
theorem product_inRange_iff (positive : 0 ≤ timeout) (int : timeout ≤ 2147483647)
    (before : Before start timeout now) :
    InRange (((start.plusMillis timeout).tv_sec - now.tv_sec) * 1000) ↔
      ¬Exceeds start timeout now := by
  have split := Int.tdiv_mul_add_tmod timeout 1000
  have low := Int.tmod_nonneg 1000 positive
  have high := Int.tmod_lt_of_pos timeout (show (0 : ℤ) < 1000 by decide)
  have seconds := plusMillis_sec start timeout
  have ends := plusMillis_nanos start timeout
  obtain ⟨nsecLow, nsecHigh⟩ := plusMillis_nsec before.start_normal positive
  obtain ⟨⟨startLow, startHigh⟩, ⟨nowLow, nowHigh⟩, after, inTime⟩ := before
  unfold Timespec.nanos at after inTime ends
  unfold InRange Exceeds
  split at seconds
  · omega
  · omega

theorem computed_iff (positive : 0 ≤ timeout) (int : timeout ≤ 2147483647)
    (before : Before start timeout now) :
    Computed start timeout now ↔ ¬Exceeds start timeout now := by
  rw [← product_inRange_iff positive int before]
  refine ⟨Computed.product, fun product => ?_⟩
  have low := Int.tmod_nonneg 1000 positive
  have high := Int.tmod_lt_of_pos timeout (show (0 : ℤ) < 1000 by decide)
  have rounded := Int.tdiv_mul_add_tmod ((start.plusMillis timeout).tv_nsec - now.tv_nsec) 1000000
  have above := Int.lt_tmod_of_pos ((start.plusMillis timeout).tv_nsec - now.tv_nsec)
    (show (0 : ℤ) < 1000000 by decide)
  have below := Int.tmod_lt_of_pos ((start.plusMillis timeout).tv_nsec - now.tv_nsec)
    (show (0 : ℤ) < 1000000 by decide)
  obtain ⟨nsecLow, nsecHigh⟩ := plusMillis_nsec before.start_normal positive
  obtain ⟨close, close'⟩ := unbounded_close (start.plusMillis timeout) now
  rw [plusMillis_nanos] at close close'
  obtain ⟨-, ⟨nowLow, nowHigh⟩, after, inTime⟩ := before
  have seconds := product
  unfold InRange at seconds
  constructor
  · exact ⟨by omega, by omega⟩
  · exact ⟨by omega, by omega⟩
  · exact product
  · exact ⟨by omega, by omega⟩
  · exact ⟨by omega, by omega⟩

/-- Where nothing overflows, the number computed is the one meant. -/
theorem Computed.exact (computed : Computed start timeout now) :
    remainingTimeOut (start.plusMillis timeout) now = unbounded (start.plusMillis timeout) now := by
  rw [remainingTimeOut_eq]
  exact toInt_small computed.sum.1 computed.sum.2

end Overflow

/-- The clock works. -/
def ticking : Event termios → Prop
  | ⟨.clockGettime, r⟩ => ∃ now, r = .ok now
  | _ => True

section Unset
variable {s s' : Settings} {garbage : Timespec} {interByte overallRead overallWrite : ℤ}

/-- What the stack holds where `endTime` is declared. -/
def Settings.holding (s : Settings) (garbage : Timespec) : Settings := { s with endTime := garbage }

/-- A timeout as `setTimeouts` leaves it. -/
def Accepted (pollTimeout : ℤ) : Prop := pollTimeout = -1 ∨ 0 < pollTimeout

theorem setTimeouts_accepted
    (accepted : s.setTimeouts interByte overallRead overallWrite = .ok s') :
    0 ≤ overallRead ∧ 0 ≤ overallWrite ∧
      s'.pollReadTimeout = (if overallRead = 0 then -1 else overallRead) ∧
      s'.pollWriteTimeout = if overallWrite = 0 then -1 else overallWrite := by
  unfold Settings.setTimeouts at accepted
  split at accepted
  · cases accepted
  · split at accepted
    · cases accepted
    · split at accepted
      · cases accepted
      · cases accepted
        exact ⟨by omega, by omega, rfl, rfl⟩

theorem accepted_read (accepted : s.setTimeouts interByte overallRead overallWrite = .ok s') :
    Accepted s'.pollReadTimeout := by
  obtain ⟨low, -, same, -⟩ := setTimeouts_accepted accepted
  unfold Accepted
  split at same
  · exact .inl same
  · exact .inr (by omega)

theorem accepted_write (accepted : s.setTimeouts interByte overallRead overallWrite = .ok s') :
    Accepted s'.pollWriteTimeout := by
  obtain ⟨-, low, -, same⟩ := setTimeouts_accepted accepted
  unfold Accepted
  split at same
  · exact .inl same
  · exact .inr (by omega)

/-- A positive timeout sets `endTime` whenever the clock works. -/
theorem endTime_matching {α : Type} {next next' : Timespec → Native α} {pollTimeout : ℤ}
    (positive : 0 < pollTimeout) (same : ∀ e, MatchingM ticking (next e) (next' e)) :
    MatchingM ticking (endTime (s.holding garbage) pollTimeout >>= next)
      (endTime s pollTimeout >>= next') := by
  refine MatchingM.bind ?_ same
  rw [endTime, endTime, if_pos positive, if_pos positive]
  refine MatchingM.bind ?_ fun now => .refl _
  refine MatchingM.request fun r allowed => ?_
  obtain ⟨now, rfl⟩ := allowed
  exact .refl _

/-- Without a timeout a read does not look at `endTime`. -/
theorem readRound_untimed (none : s.pollReadTimeout = -1) (port close : ℤ)
    (len : ℕ) (e e' : Timespec) :
    readRound s port close len e = readRound s port close len e' := by
  funext overallRead
  rw [readRound, readRound, remaining, remaining, if_pos none, if_pos none]

theorem writeRound_untimed (none : s.pollWriteTimeout = -1) (fd close : ℤ)
    (buff : List UInt8) (e e' : Timespec) :
    writeRound s fd close buff e = writeRound s fd close buff e' := by
  have untimed : ¬0 ≤ s.pollWriteTimeout := by omega
  funext x
  rw [writeRound, writeRound, remainingWrite, remainingWrite, if_neg untimed, if_neg untimed]

theorem endTime_untimed {α : Type} {next : Timespec → Native α} {pollTimeout : ℤ}
    (none : pollTimeout = -1) (unread : ∀ e e', next e = next e') :
    MatchingM ticking (endTime (s.holding garbage) pollTimeout >>= next)
      (endTime s pollTimeout >>= next) := by
  have untimed : ¬0 < pollTimeout := by omega
  rw [endTime, endTime, if_neg untimed, if_neg untimed]
  intro env
  change Matching ticking (next garbage env) (next s.endTime env)
  rw [unread garbage s.endTime]
  exact .refl _

/-- Whatever follows the computation of `endTime`, a timeout that `setTimeouts` accepts
makes it independent of what the stack held. -/
theorem endTime_unset {α : Type} {next : Timespec → Native α} {pollTimeout : ℤ}
    (accepted : Accepted pollTimeout) (unread : pollTimeout = -1 → ∀ e e', next e = next e') :
    MatchingM ticking (endTime (s.holding garbage) pollTimeout >>= next)
      (endTime s pollTimeout >>= next) := by
  rcases accepted with none | positive
  · exact endTime_untimed none (unread none)
  · exact endTime_matching positive fun e => .refl _

theorem readBuffer_unset (accepted : Accepted s.pollReadTimeout) (len : ℕ) :
    MatchingM ticking (readBuffer (s.holding garbage) len) (readBuffer s len) := by
  refine MatchingM.bind (.refl _) fun port => MatchingM.bind (.refl _) fun close => ?_
  refine MatchingM.bind (.refl _) fun nread => endTime_unset accepted fun none e e' => ?_
  rw [readRound_untimed none port close len e e']

theorem writeBuffer_unset (accepted : Accepted s.pollWriteTimeout) (buff : List UInt8) :
    MatchingM ticking (writeBuffer (s.holding garbage) buff) (writeBuffer s buff) := by
  refine MatchingM.bind (.refl _) fun fd => MatchingM.bind (.refl _) fun written => ?_
  refine endTime_unset accepted fun none e e' => ?_
  have same : ∀ close, writeRound (s.holding garbage) fd close buff e =
    writeRound (s.holding garbage) fd close buff e' :=
    fun close => writeRound_untimed none fd close buff e e'
  simp only [same]

end Unset

/-- What C leaves undefined is not met, in a read and in a write whose clock has been read at
these times: every number is an `int32_t`, and what the stack held makes no difference. -/
structure Defined (s : Settings) (readStart readNow writeStart writeNow : Timespec) : Prop where
  read : s.pollReadTimeout ≠ -1 → Computed readStart s.pollReadTimeout readNow
  write : 0 ≤ s.pollWriteTimeout → Computed writeStart s.pollWriteTimeout writeNow
  readSet : ∀ garbage len, MatchingM ticking (readBuffer (s.holding garbage) len) (readBuffer s len)
  writeSet : ∀ garbage buff,
    MatchingM ticking (writeBuffer (s.holding garbage) buff) (writeBuffer s buff)

/-- For timeouts that `setTimeouts` accepts, only the product of the seconds can overflow, and
only for a carry of one of the longest timeouts. -/
theorem deadline_defined_iff {s s' : Settings} {interByte overallRead overallWrite : ℤ}
    (accepted : s.setTimeouts interByte overallRead overallWrite = .ok s')
    (intRead : overallRead ≤ 2147483647) (intWrite : overallWrite ≤ 2147483647)
    {readStart readNow writeStart writeNow : Timespec}
    (reading : Before readStart overallRead readNow)
    (writing : Before writeStart overallWrite writeNow) :
    Defined s' readStart readNow writeStart writeNow ↔
      ¬Exceeds readStart overallRead readNow ∧ ¬Exceeds writeStart overallWrite writeNow := by
  obtain ⟨lowRead, lowWrite, sameRead, sameWrite⟩ := setTimeouts_accepted accepted
  have short : ∀ {start now : Timespec}, ¬Exceeds start 0 now :=
    fun exceeds => absurd exceeds.1 (by decide)
  constructor
  · intro defined
    constructor
    · by_cases none : overallRead = 0
      · exact none ▸ short
      · rw [if_neg none] at sameRead
        have computed := defined.read (by omega)
        rw [sameRead] at computed
        exact (computed_iff lowRead intRead reading).mp computed
    · by_cases none : overallWrite = 0
      · exact none ▸ short
      · rw [if_neg none] at sameWrite
        have computed := defined.write (by omega)
        rw [sameWrite] at computed
        exact (computed_iff lowWrite intWrite writing).mp computed
  · rintro ⟨fitsRead, fitsWrite⟩
    refine ⟨fun timed => ?_, fun timed => ?_,
      fun garbage => readBuffer_unset (accepted_read accepted),
      fun garbage => writeBuffer_unset (accepted_write accepted)⟩
    · split at sameRead
      · exact absurd sameRead timed
      · rw [sameRead]
        exact (computed_iff lowRead intRead reading).mpr fitsRead
    · split at sameWrite
      · omega
      · rw [sameWrite]
        exact (computed_iff lowWrite intWrite writing).mpr fitsWrite

theorem deadline_defined_second :
    Defined { Settings.new with pollReadTimeout := 1000 } ⟨5, 999999999⟩ ⟨6, 0⟩ ⟨0, 0⟩ ⟨0, 0⟩ ↔
    ¬Exceeds ⟨5, 999999999⟩ 1000 ⟨6, 0⟩ ∧ ¬Exceeds ⟨0, 0⟩ 0 ⟨0, 0⟩ :=
  deadline_defined_iff (show Settings.new.setTimeouts 100 1000 0 = .ok _ from rfl)
    (by decide) (by decide) ⟨⟨by decide, by decide⟩, ⟨by decide, by decide⟩, by decide, by decide⟩
    ⟨⟨by decide, by decide⟩, ⟨by decide, by decide⟩, by decide, by decide⟩

/-- The longest timeout that `setTimeouts` takes, begun at the end of a second. -/
theorem deadline_undefined : ¬∀ (s s' : Settings) (interByte overallRead overallWrite : ℤ)
    (readStart readNow writeStart writeNow : Timespec),
    s.setTimeouts interByte overallRead overallWrite = .ok s' →
    overallRead ≤ 2147483647 → overallWrite ≤ 2147483647 → Before readStart overallRead readNow →
    Before writeStart overallWrite writeNow → Defined s' readStart readNow writeStart writeNow := by
  intro defined
  have late : Before ⟨5, 999999999⟩ 2147483647 ⟨5, 999999999⟩ :=
    ⟨⟨by decide, by decide⟩, ⟨by decide, by decide⟩, by decide, by decide⟩
  have longest :=
    defined .new _ 100 2147483647 2147483647 _ _ _ _ rfl (by decide) (by decide) late late
  exact absurd (longest.read (by decide)).product.2 (by decide)

end Spsw.Jni.TermiosIO

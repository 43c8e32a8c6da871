import Spsw.Jni.ClosingPort

/-!
# A write that overlaps a close

`close0` runs as a whole at some point of a `writeBuffer`: what the call asks before is
answered by the open port, what it asks after by the closed one. The call finds out by
its next `poll`, or by its next `write` on the number it has copied, and only the first
makes it throw an `AsynchronousCloseException`.
-/
namespace Spsw.Jni.TermiosIO
open Interaction
open Interaction.Method (mwp mwp_mono mwp_iterate)
open Jnhw (Direction Errno PollResult Timespec POLLIN POLLOUT POLLHUP POLLNVAL INVALID_FD)

/-- The port as the `i`-th request finds it, when `close0` runs before the `k`-th. -/
def portAt (n : Numbers) (k i : ℕ) : Port := if i < k then n.opened else .closed

/-- Every request is answered by the port as it is then. -/
def Split (n : Numbers) (k : ℕ) (h : History termios) : Prop :=
  ∀ (i : ℕ) (ev : Event termios), h[i]? = some ev → n.answers (portAt n k i) ev (portAt n k i)

/-- The first request after `close0` is a write. -/
def Struck (k : ℕ) (h : History termios) : Prop := ∃ fd bytes r, h[k]? = some ⟨.write fd bytes, r⟩

section Overlap
variable {n : Numbers} {k : ℕ} {h : History termios} {ev : Event termios}

theorem split_snoc : Split n k (h ++ [ev]) ↔
    Split n k h ∧ n.answers (portAt n k h.length) ev (portAt n k h.length) := by
  constructor
  · intro split
    refine ⟨fun i ev' found => split i ev' ?_, split h.length ev (by simp)⟩
    rw [List.getElem?_append_left (List.getElem?_eq_some_iff.mp found).1]
    exact found
  · rintro ⟨before, last⟩ i ev' found
    rcases Nat.lt_trichotomy i h.length with inside | rfl | outside
    · exact before i ev' (by rwa [List.getElem?_append_left inside] at found)
    · simp only [List.getElem?_concat_length, Option.some.injEq] at found
      exact found ▸ last
    · rw [List.getElem?_eq_none (by simp; omega)] at found
      cases found

theorem struck_early (early : h.length ≤ k) : ¬Struck k h := by
  rintro ⟨fd, bytes, r, found⟩
  rw [List.getElem?_eq_none early] at found
  cases found

theorem struck_last {fd : ℤ} {bytes : List UInt8} (r : Answer (.write fd bytes)) :
    Struck h.length (h ++ [⟨.write fd bytes, r⟩]) :=
  ⟨fd, bytes, r, by simp⟩

theorem portAt_open {i : ℕ} (early : i < k) : portAt n k i = n.opened := if_pos early

theorem portAt_closed {i : ℕ} (late : k ≤ i) : portAt n k i = .closed := if_neg (by omega)

theorem closed_invalid (fd : ℤ) : ¬n.Valid .closed fd := by simp [Numbers.Valid, Port.closed]

end Overlap

/-- Nothing is thrown so far, and no write has met the closed port. -/
structure Going (n : Numbers) (k : ℕ) (fd : ℤ) (h : History termios) (env : Env) : Prop where
  raised : env.raised = []
  fd : Split n k h → fd = n.port
  unstruck : Split n k h → ¬Struck k h

/-- If the call has thrown after `close0`, and not for its own timeout, it has reported
the close if and only if it was not struck in a write. -/
def Settled (n : Numbers) (k : ℕ) (h : History termios) (env : Env) : Prop :=
  Split n k h → k < h.length → env.raised ≠ [] → (∀ e ∈ env.raised, e.isTimeout = false) →
    (env.raised = [.asynchronousCloseException] ↔ ¬Struck k h)

/-- What a part of the call owes: it goes on with `Q`, or leaves the call settled. -/
def After {α : Type} (n : Numbers) (k : ℕ)
    (Q : History termios → Env → α → Prop) (h : History termios) (env : Env) : Except ℤ α → Prop
  | .ok a => Q h env a
  | .error _ => Settled n k h env

/-- What a `poll` that ends after `close0` reports. -/
def Verdict (n : Numbers) (k : ℕ) (h : History termios) (result : Except Errno PollResult) : Prop :=
  Split n k h → k < h.length →
    ∃ portEvents closeEvents, result = .ok (.ready portEvents closeEvents) ∧
    (closeEvents = POLLIN ∨ portEvents = POLLNVAL)

section Rules
variable {n : Numbers} {k : ℕ} {fd : ℤ} {h : History termios} {env : Env} {α : Type}

@[simp] theorem after_ok {Q : History termios → Env → α → Prop} {a : α} :
    After n k Q h env (.ok a) ↔ Q h env a := Iff.rfl

@[simp] theorem after_error {Q : History termios → Env → α → Prop} {result : ℤ} :
    After n k Q h env (.error result) ↔ Settled n k h env := Iff.rfl

theorem Settled.quiet (quiet : env.raised = []) : Settled n k h env :=
  fun _ _ thrown => absurd quiet thrown

/-- Before `close0` nothing is said of what is thrown. -/
theorem Settled.early (early : Split n k h → h.length ≤ k) : Settled n k h env := by
  intro split late
  exact absurd (early split) (by omega)

theorem Settled.timeout {transferred : ℤ} {message : Option String}
    (raised : env.raised = [.timeoutIOException transferred message]) : Settled n k h env := by
  intro _ _ _ own
  cases own _ (raised ▸ List.mem_singleton_self _)

theorem Settled.reported (raised : env.raised = [.asynchronousCloseException])
    (unstruck : Split n k h → ¬Struck k h) : Settled n k h env :=
  fun split _ _ _ => iff_of_true raised (unstruck split)

theorem Settled.missed {e : JavaException} (raised : env.raised = [e])
    (other : e ≠ .asynchronousCloseException) (struck : Split n k h → k < h.length → Struck k h) :
    Settled n k h env := by
  intro split late _ _
  refine iff_of_false ?_ (not_not_intro (struck split late))
  rw [raised]
  exact fun same => other (List.singleton_inj.mp same)

/-- Nothing is written and nothing thrown from one point to the other. -/
def Quietly (h : History termios) (env : Env) (h' : History termios) (env' : Env) : Prop :=
  (∃ t, h' = h ++ t ∧ ∀ ev ∈ t, ∀ fd bytes, ev.1 ≠ .write fd bytes) ∧ env'.raised = env.raised

theorem Quietly.refl (h : History termios) (env : Env) : Quietly h env h env :=
  ⟨⟨[], (List.append_nil h).symm, by simp⟩, rfl⟩

theorem Quietly.trans {h' h'' : History termios} {env' env'' : Env} (first : Quietly h env h' env')
    (next : Quietly h' env' h'' env'') : Quietly h env h'' env'' := by
  obtain ⟨⟨t, rfl, quiet⟩, same⟩ := first
  obtain ⟨⟨t', rfl, quiet'⟩, same'⟩ := next
  refine ⟨⟨t ++ t', List.append_assoc h t t', fun ev member => ?_⟩, same'.trans same⟩
  rcases List.mem_append.mp member with old | new
  · exact quiet ev old
  · exact quiet' ev new

theorem Quietly.event {ev : Event termios} {env' : Env} (other : ∀ fd bytes, ev.1 ≠ .write fd bytes)
    (same : env'.raised = env.raised) : Quietly h env (h ++ [ev]) env' :=
  ⟨⟨[ev], rfl, by simpa using other⟩, same⟩

theorem split_append {t : History termios} (split : Split n k (h ++ t)) : Split n k h := by
  intro i ev found
  refine split i ev ?_
  rw [List.getElem?_append_left (List.getElem?_eq_some_iff.mp found).1]
  exact found

theorem struck_append {t : History termios} (quiet : ∀ ev ∈ t, ∀ fd bytes, ev.1 ≠ .write fd bytes)
    (struck : Struck k (h ++ t)) : Struck k h := by
  obtain ⟨fd, bytes, r, found⟩ := struck
  refine ⟨fd, bytes, r, ?_⟩
  by_cases inside : k < h.length
  · rwa [List.getElem?_append_left inside] at found
  · rw [List.getElem?_append_right (by omega)] at found
    exact absurd rfl (quiet _ (List.mem_of_getElem? found) fd bytes)

theorem Going.quietly (going : Going n k fd h env) {h' : History termios} {env' : Env}
    (quietly : Quietly h env h' env') : Going n k fd h' env' := by
  obtain ⟨⟨t, rfl, quiet⟩, same⟩ := quietly
  exact ⟨same.trans going.raised, fun split => going.fd (split_append split),
    fun split struck => going.unstruck (split_append split) (struck_append quiet struck)⟩

/-- While `close0` is still to run, the call has the number of the event. -/
def Knows (n : Numbers) (k : ℕ) (close : ℤ) (h : History termios) : Prop :=
  Split n k h → h.length ≤ k → close = n.eventRead

theorem Knows.append {close : ℤ} (knows : Knows n k close h) (t : History termios) :
    Knows n k close (h ++ t) := by
  intro split early
  rw [List.length_append] at early
  exact knows (split_append split) (by omega)

/-- An accepted write was made on the open port. -/
theorem Going.accepted (fds : Split n k h → 0 < k → fd = n.port) {bytes : List UInt8} {env' : Env}
    {r : Answer (.write fd bytes)} (raised : env'.raised = []) (accepted : r ≠ .error .EBADF) :
    Going n k fd (h ++ [⟨.write fd bytes, r⟩]) env' := by
  have early : Split n k (h ++ [⟨.write fd bytes, r⟩]) → h.length < k := by
    intro split
    by_contra late
    have refused := (split_snoc.mp split).2
    rw [portAt_closed (by omega)] at refused
    exact accepted (refused.1 (closed_invalid _))
  refine ⟨raised, fun split => ?_, fun split => struck_early ?_⟩
  · exact fds (split_snoc.mp split).1 (Nat.zero_lt_of_lt (early split))
  · rw [List.length_append]
    exact early split

end Rules

section Specs
variable {n : Numbers} {k : ℕ} {fd close : ℤ} {h : History termios} {env : Env}
  {s : Settings} {buff : List UInt8}

theorem clock_gettime_quietly (t : Timespec) :
    mwp (fun _ => True) h env (clock_gettime t) (fun h' env' x => Quietly h env h' env' ∧
      ∃ now, x = .ok now) := by
  simp only [clock_gettime, Method.mwp_bind, mwp_ask, Method.rest_ok, true_and]
  intro r
  cases r with
  | ok now => exact Method.mwp_pure.mpr ⟨.event (by simp) rfl, _, rfl⟩
  | error errno =>
      simp only [Method.mwp_bind, mwp_setErrno, Method.rest_ok]
      exact Method.mwp_pure.mpr ⟨.event (by simp) rfl, _, rfl⟩

theorem endTime_quietly (timeout : ℤ) :
    mwp (fun _ => True) h env (endTime s timeout)
      (fun h' env' x => Quietly h env h' env' ∧ ∃ endTime, x = .ok endTime) := by
  rw [endTime]
  split
  · rw [Method.mwp_bind]
    apply mwp_mono (clock_gettime_quietly _)
    rintro h' env' x ⟨quietly, now, rfl⟩
    exact Method.rest_ok.mpr (Method.mwp_pure.mpr ⟨quietly, _, rfl⟩)
  · exact Method.mwp_pure.mpr ⟨.refl h env, _, rfl⟩

theorem remainingWrite_quietly (going : Going n k fd h env) (endTime : Timespec) (written : ℕ) :
    mwp (fun _ => True) h env (remainingWrite s endTime written) (After n k fun h' env' _ =>
      Quietly h env h' env') := by
  rw [remainingWrite]
  split
  · rw [Method.mwp_bind]
    apply mwp_mono (clock_gettime_quietly _)
    rintro h' env' x ⟨quietly, now, rfl⟩
    apply Method.rest_ok.mpr
    split
    · simp only [Method.mwp_bind, mwp_throwing, Method.rest_ok, mwp_leave]
      exact Settled.timeout (by rw [(going.quietly quietly).raised]; rfl)
    · exact Method.mwp_pure.mpr quietly
  · exact Method.mwp_pure.mpr (.refl h env)

/-- A `poll` that begins after `close0` finds the event or the released number. -/
theorem poll_verdict (going : Going n k fd h env) {timeout : ℤ}
    {ready : Option (Except Errno PollResult)}
    (split : Split n k (h ++ [⟨.poll .write fd close timeout, ready⟩])) (late : k ≤ h.length) :
    ∃ portEvents closeEvents, ready = some (.ok (.ready portEvents closeEvents)) ∧
      (closeEvents = POLLIN ∨ portEvents = POLLNVAL) := by
  obtain ⟨before, tells, released, -⟩ := split_snoc.mp split
  rw [portAt_closed late] at tells released
  have valid : fd ≠ INVALID_FD := going.fd before ▸ n.port_valid
  by_cases told : n.Told .closed close
  · obtain ⟨events, found⟩ := tells.1 told
    exact ⟨events, _, found, .inl rfl⟩
  · obtain ⟨events, found⟩ := released valid (closed_invalid _)
    exact ⟨_, events, found, .inr rfl⟩

theorem noted_quietly {h₀ : History termios} {env₀ : Env} {result : Except Errno PollResult}
    (quietly : Quietly h₀ env₀ h env) (verdict : Verdict n k h result) :
    mwp (fun _ => True) h env (noted result)
      (After n k fun h' env' result => Quietly h₀ env₀ h' env' ∧ Verdict n k h' result) := by
  cases result with
  | ok result => exact Method.mwp_pure.mpr ⟨quietly, verdict⟩
  | error errno =>
      simp only [noted, Method.mwp_bind, mwp_setErrno, Method.rest_ok, Method.mwp_pure, after_ok]
      exact ⟨quietly, verdict⟩

theorem poll_quietly (going : Going n k fd h env) (knows : Knows n k close h) (timeout : ℤ) :
    mwp (fun _ => True) h env (poll .write fd close timeout)
      (After n k fun h' env' result => Quietly h env h' env' ∧ Verdict n k h' result) := by
  simp only [poll, Method.mwp_bind, mwp_ask, Method.rest_ok, true_and]
  intro ready
  have begun : Quietly h env (h ++ [⟨.poll .write fd close timeout, ready⟩]) env :=
    .event (by simp) rfl
  cases ready with
  | some result =>
      refine Method.mwp_pure.mpr (noted_quietly begun ?_)
      intro split late
      rw [List.length_append] at late
      obtain ⟨portEvents, closeEvents, found, reports⟩ :=
        poll_verdict going split (Nat.le_of_lt_succ late)
      exact ⟨portEvents, closeEvents, Option.some.inj found, reports⟩
  | none =>
      refine mwp_ask.mpr fun result =>
        ⟨trivial, noted_quietly (begun.trans (.event (by simp) rfl)) ?_⟩
      intro split late
      obtain ⟨before, tells, -⟩ := split_snoc.mp split
      have early : h.length < k := by
        by_contra after
        obtain ⟨portEvents, closeEvents, found, -⟩ := poll_verdict going before (by omega)
        cases found
      simp only [List.length_append, List.length_singleton] at late tells
      rw [portAt_closed (by omega)] at tells
      obtain ⟨events, found⟩ := tells.1 ⟨knows (split_append before) (by omega), rfl⟩
      exact ⟨events, _, Option.some.inj found, .inl rfl⟩

/-- After `close0` the call does not get past a `poll`. -/
theorem checkWritable_going (going : Going n k fd h env) (written offset : ℕ)
    {result : Except Errno PollResult} (verdict : Verdict n k h result) :
      mwp (fun _ => True) h env (checkWritable s written offset result) (After n k fun h' env' _ =>
      h' = h ∧ env' = env ∧ (Split n k h → h.length ≤ k)) := by
  have alone : ∀ e, env.raised ++ [e] = [e] := fun e => by rw [going.raised, List.nil_append]
  -- What is no report of the close was found before `close0`.
  have early : (∀ portEvents closeEvents, result = .ok (.ready portEvents closeEvents) →
      closeEvents ≠ POLLIN ∧ portEvents ≠ POLLNVAL) → Split n k h → h.length ≤ k := by
    intro other split
    by_contra late
    obtain ⟨portEvents, closeEvents, found, reports⟩ := verdict split (by omega)
    rcases reports with reports | reports
    · exact (other _ _ found).1 reports
    · exact (other _ _ found).2 reports
  rcases result with errno | _ | ⟨portEvents, closeEvents⟩
  · simp only [checkWritable, Method.mwp_bind, mwp_throw_InterruptedIOExceptionWithError,
      Method.rest_ok, mwp_leave]
    exact Settled.early (early (by simp))
  · simp only [checkWritable, Method.mwp_bind, mwp_throwing, Method.rest_ok, mwp_leave]
    exact Settled.early (early (by simp))
  rw [checkWritable]
  split
  · simp only [Method.mwp_bind, mwp_throwing, Method.rest_ok, mwp_leave]
    exact Settled.reported (alone _) going.unstruck
  next quiet =>
  split
  · next ready =>
      refine Method.mwp_pure.mpr ⟨rfl, rfl, early ?_⟩
      rintro _ _ ⟨⟩
      exact ⟨quiet, by rw [ready]; decide⟩
  split
  · next gone =>
      simp only [Method.mwp_bind, mwp_throwing, Method.rest_ok, mwp_leave]
      refine Settled.early (early ?_)
      rintro _ _ ⟨⟩
      refine ⟨quiet, ?_⟩
      rintro rfl
      exact absurd gone (by decide)
  split
  · simp only [Method.mwp_bind, mwp_throwing, Method.rest_ok, mwp_leave]
    exact Settled.reported (alone _) going.unstruck
  next valid =>
  simp only [Method.mwp_bind, mwp_throw_InterruptedIOExceptionWithError, Method.rest_ok, mwp_leave]
  refine Settled.early (early ?_)
  rintro _ _ ⟨⟩
  refine ⟨quiet, ?_⟩
  rintro rfl
  exact valid (by decide)

/-- Where the call may stand before its first write: it has read the field. -/
def Begun (n : Numbers) (k : ℕ) (fd : ℤ) : Prop :=
  Split n k [⟨.getFd, fd⟩] → (0 < k → fd = n.port) ∧ (k = 0 → fd = INVALID_FD)

theorem begun (n : Numbers) (k : ℕ) (fd : ℤ) : Begun n k fd := by
  intro split
  obtain ⟨found, -⟩ := split 0 _ rfl
  constructor
  · intro late
    rwa [portAt_open late] at found
  · rintro rfl
    exact found

theorem firstWrite_going (fresh : env.raised = []) :
    mwp (fun _ => True) ([⟨.getFd, fd⟩] : History termios) env (firstWrite s fd buff)
      (After n k fun h' env' _ => Going n k fd h' env') := by
  have fds : Split n k [⟨.getFd, fd⟩] → 0 < k → fd = n.port := fun split => (begun n k fd split).1
  have alone : ∀ e, env.raised ++ [e] = [e] := fun e => by rw [fresh, List.nil_append]
  simp only [firstWrite, Method.mwp_bind, mwp_write, Method.rest_ok, true_and]
  constructor
  · intro written
    split
    · exact mwp_leave.mpr (.quiet fresh)
    · exact Method.mwp_pure.mpr (.accepted fds fresh (by simp))
  · intro errno
    split
    · next full => exact Method.mwp_pure.mpr (.accepted fds fresh (by rw [full]; simp))
    rw [Method.mwp_bind, writeFailed]
    split
    · next invalid =>
        simp only [mwp_throwing, Method.rest_ok, mwp_leave]
        refine Settled.reported (alone _) fun split struck => ?_
        obtain ⟨fd', bytes, r, found⟩ := struck
        have late : 0 < k := by
          rcases k with _ | k
          · cases found
          · exact Nat.succ_pos k
        exact n.port_valid ((fds (split_append split) late).symm.trans invalid)
    · next valid =>
        simp only [mwp_throw_InterruptedIOExceptionWithError, Method.rest_ok, mwp_leave]
        refine Settled.missed (alone _) (by simp) fun split late => ?_
        rcases k with _ | _ | k
        · exact absurd ((begun n 0 fd (split_append split)).2 rfl) valid
        · exact struck_last (h := [⟨.getFd, fd⟩]) _
        · simp only [List.length_append, List.length_singleton] at late
          omega

theorem writeRound_going (going : Going n k fd h env) (knows : Knows n k close h)
    (endTime : Timespec) (x : ℕ × ℕ) :
    mwp (fun _ => True) h env (writeRound s fd close buff endTime x)
      (Method.again (fun h' env' _ => Going n k fd h' env' ∧ Knows n k close h')
        (fun h' env' _ => Settled n k h' env')) := by
  rw [writeRound]
  apply Method.mwp_seq (remainingWrite_quietly going endTime x.1)
  · exact fun _ _ _ settled => settled
  intro h₁ env₁ timeout after
  have quietly : Quietly h env h₁ env₁ := after
  have going := going.quietly quietly
  obtain ⟨t, rfl, -⟩ := quietly.1
  have knows := knows.append t
  apply Method.mwp_seq (poll_quietly going knows timeout)
  · exact fun _ _ _ settled => settled
  intro h₂ env₂ polled after
  obtain ⟨quietly, verdict⟩ := (after : Quietly _ _ h₂ env₂ ∧ Verdict n k h₂ polled)
  have going := going.quietly quietly
  obtain ⟨t, rfl, -⟩ := quietly.1
  have knows := knows.append t
  apply Method.mwp_seq (checkWritable_going going x.1 x.2 verdict)
  · exact fun _ _ _ settled => settled
  intro h₃ env₃ _ after
  obtain ⟨rfl, rfl, early⟩ := after
  simp only [Method.rest_ok, Method.mwp_bind, mwp_write, true_and]
  constructor
  · intro written
    have accepted := Going.accepted (fun split _ => going.fd split) going.raised
      (r := (.ok written : Answer (.write fd (buff.drop x.2)))) (by simp)
    split
    · exact Method.mwp_pure.mpr ⟨accepted, knows.append _⟩
    · exact Method.mwp_pure.mpr (.quiet going.raised)
  · intro errno
    have alone : ∀ e, env₃.raised ++ [e] = [e] := fun e => by rw [going.raised, List.nil_append]
    rw [writeFailed]
    split
    · next invalid =>
        simp only [mwp_throwing, Method.rest_ok, mwp_leave]
        refine Settled.early fun split => ?_
        exact absurd ((going.fd (split_append split)).symm.trans invalid) n.port_valid
    · simp only [mwp_throw_InterruptedIOExceptionWithError, Method.rest_ok, mwp_leave]
      refine Settled.missed (alone _) (by simp) fun split late => ?_
      rw [List.length_append] at late
      rw [Nat.le_antisymm (Nat.le_of_lt_succ late) (early (split_append split))]
      exact struck_last _

theorem writeBuffer_settled (n : Numbers) (k : ℕ) (s : Settings) (buff : List UInt8)
    (fresh : env.raised = []) :
    mwp (fun _ => True) [] env (writeBuffer s buff) (fun h' env' _ => Settled n k h' env') := by
  simp only [writeBuffer, getFd, Method.mwp_bind, mwp_ask, Method.rest_ok,
    true_and, List.nil_append]
  intro fd
  apply mwp_mono (firstWrite_going fresh)
  rintro h₁ env₁ (result | written) after
  · exact after
  have going : Going n k fd h₁ env₁ := after
  simp only [Method.rest_ok, Method.mwp_bind]
  apply mwp_mono (endTime_quietly _)
  rintro h₂ env₂ x ⟨quietly, endTime, rfl⟩
  have going := going.quietly quietly
  simp only [Method.rest_ok, getCloseEventReadFd, Method.mwp_bind, mwp_ask, true_and]
  intro close
  have knows : Knows n k close (h₂ ++ [⟨.getCloseEventReadFd, close⟩]) := by
    intro split early
    have found := (split_snoc.mp split).2.1
    rw [List.length_append, List.length_singleton] at early
    rwa [portAt_open early] at found
  refine mwp_iterate (fun h' env' _ => Going n k fd h' env' ∧ Knows n k close h')
    ⟨going.quietly (.event (by simp) rfl), knows⟩ ?_
  rintro h' env' x ⟨going, knows⟩
  exact writeRound_going going knows endTime x

end Specs

/-- A write that throws after a `close0` in its midst, and not for its own timeout, throws
an `AsynchronousCloseException` if and only if `close0` did not run directly before one of
its system calls to write. -/
theorem overlapping_close_iff (n : Numbers) (s : Settings) (buff : List UInt8) (env : Env)
    (fresh : env.raised = []) (before after : History termios) (x : Except ℤ ℤ) (env' : Env)
    (run : Program.Returns (writeBuffer s buff env) (before ++ after) (x, env'))
    (closing : History termios) (closer : Env) (y : Except ℤ Unit × Env)
    (closes : Program.Returns (close0 s closer) closing y) (σ : Port)
    (closed : n.Answered n.opened closing σ)
    (answeredBefore : ∀ ev ∈ before, n.answers n.opened ev n.opened)
    (answeredAfter : ∀ ev ∈ after, n.answers σ ev σ) (overlaps : after ≠ [])
    (thrown : env'.raised ≠ []) (own : ∀ e ∈ env'.raised, e.isTimeout = false) :
    env'.raised = [.asynchronousCloseException] ↔
      ¬∃ fd bytes r rest, after = ⟨.write fd bytes, r⟩ :: rest := by
  obtain rfl : σ = .closed := wp_returns (Numbers.close0_closes n s closer) closes σ closed
  have settled := wp_returns (writeBuffer_settled n before.length s buff fresh) run
  have split : Split n before.length (before ++ after) := by
    intro i ev found
    by_cases early : i < before.length
    · rw [List.getElem?_append_left early] at found
      rw [portAt_open early]
      exact answeredBefore ev (List.mem_of_getElem? found)
    · rw [List.getElem?_append_right (by omega)] at found
      rw [portAt_closed (by omega)]
      exact answeredAfter ev (List.mem_of_getElem? found)
  have late : before.length < (before ++ after).length := by
    rw [List.length_append]
    have := List.length_pos_iff.mpr overlaps
    omega
  refine (settled split late thrown own).trans (not_congr ?_)
  constructor
  · rintro ⟨fd, bytes, r, found⟩
    rw [List.getElem?_append_right (Nat.le_refl _), Nat.sub_self] at found
    cases after with
    | nil => cases found
    | cons ev rest =>
        exact ⟨fd, bytes, r, rest, congrArg (fun x => x :: rest) (Option.some.inj found)⟩
  · rintro ⟨fd, bytes, r, rest, rfl⟩
    exact ⟨fd, bytes, r, by simp⟩

section Runs
theorem close0_runs : ∃ closing y, Program.Returns (close0 .new calling) closing y ∧
    numbers.Answered numbers.opened closing .closed := by
  refine ⟨[⟨.getFd, (5 : ℤ)⟩, ⟨.setFd INVALID_FD, ()⟩, ⟨.getCloseEventWriteFd, (6 : ℤ)⟩,
    ⟨.writeEvent 6, .ok ()⟩, ⟨.tcflush 5, .ok ()⟩, ⟨.setCloseEventWriteFd INVALID_FD, ()⟩,
    ⟨.setCloseEventReadFd INVALID_FD, ()⟩, ⟨.close 5, .ok ()⟩], _, Program.replay_sound 20 rfl, ?_⟩
  refine .cons ⟨rfl, rfl⟩
    (.cons rfl (.cons ⟨rfl, rfl⟩ (.cons ⟨fun _ => ⟨rfl, rfl⟩, fun other => absurd rfl other⟩ ?_)))
  exact .cons rfl (.cons rfl
    (.cons rfl (.cons ⟨fun _ => rfl, fun other => absurd rfl other⟩ (.nil _))))

/-- `close0` runs before the first wait. -/
theorem overlapping_close_iff_waiting : ∃ env', Program.Returns (writeBuffer .new [1] calling)
      ([⟨.getFd, (5 : ℤ)⟩, ⟨.write 5 [1], .error .EAGAIN⟩, ⟨.getCloseEventReadFd, (6 : ℤ)⟩] ++
        [⟨.poll .write 5 6 (-1), some (.ok (.ready POLLNVAL POLLIN))⟩]) (.error 0, env') ∧
    env'.raised = [.asynchronousCloseException] := by
  have run : Program.Returns (writeBuffer .new [1] calling)
      ([⟨.getFd, (5 : ℤ)⟩, ⟨.write 5 [1], .error .EAGAIN⟩, ⟨.getCloseEventReadFd, (6 : ℤ)⟩] ++
        [⟨.poll .write 5 6 (-1), some (.ok (.ready POLLNVAL POLLIN))⟩]) (.error 0, _) :=
    Program.replay_sound 20 rfl
  obtain ⟨closing, y, closes, closed⟩ := close0_runs
  refine ⟨_, run, (overlapping_close_iff numbers .new
    [1] calling rfl _ _ _ _ run closing calling y closes _ closed ?_ ?_
    (by simp) (by simp) ?_).mpr ?_⟩
  · intro ev member
    simp only [List.mem_cons, List.not_mem_nil, or_false] at member
    rcases member with rfl | rfl | rfl
    · exact ⟨rfl, rfl⟩
    · exact ⟨fun invalid => absurd ⟨rfl, rfl⟩ invalid, rfl⟩
    · exact ⟨rfl, rfl⟩
  · intro ev member
    cases List.mem_singleton.mp member
    exact ⟨⟨fun _ => ⟨_, rfl⟩, fun untold => absurd ⟨rfl, rfl⟩ untold⟩, fun _ _ => ⟨_, rfl⟩, rfl⟩
  · intro e member
    cases List.mem_singleton.mp member
    rfl
  · rintro ⟨fd, bytes, r, rest, ⟨⟩⟩

/-- `close0` runs between the reading of the field and the first write. -/
theorem overlapping_close_missed :
    ¬∀ (n : Numbers) (s : Settings) (buff : List UInt8) (before after : History termios)
      (x : Except ℤ ℤ) (env' : Env),
      Program.Returns (writeBuffer s buff calling) (before ++ after) (x, env') →
      (∀ ev ∈ before, n.answers n.opened ev n.opened) →
        (∀ ev ∈ after, n.answers .closed ev .closed) →
      after ≠ [] → env'.raised ≠ [] → (∀ e ∈ env'.raised, e.isTimeout = false) →
      env'.raised = [.asynchronousCloseException] := by
  intro reports
  have run : Program.Returns (writeBuffer .new [1] calling)
      ([⟨.getFd, (5 : ℤ)⟩] ++ [⟨.write 5 [1], .error .EBADF⟩]) (.error (-1), _) :=
    Program.replay_sound 20 rfl
  have reported := reports numbers .new [1] _ _ _ _ run ?_ ?_ (by simp) (by simp) ?_
  · cases reported
  · intro ev member
    cases List.mem_singleton.mp member
    exact ⟨rfl, rfl⟩
  · intro ev member
    cases List.mem_singleton.mp member
    exact ⟨fun _ => rfl, rfl⟩
  · intro e member
    cases List.mem_singleton.mp member
    rfl

end Runs
end Spsw.Jni.TermiosIO

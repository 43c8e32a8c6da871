import Spsw.Jnhw.Deadline
import Spsw.Jnhw.Read
import Spsw.Jnhw.Write

/-!
# The waits of a read or write with an overall timeout

A call notes the time when its first attempt has not done everything, and every iteration of
its loop reads the clock again before it waits. What may come next is told by the clock
readings so far, so that it can be said of every run, ended or not.
-/
namespace Spsw.Jnhw
open Interaction
open Interaction.Program (Returns Run)
open Interaction.Method (mwp mwp_mono mwp_seq mwp_iterate mwp_tryFinally again locals raise iterate)

/-- What a call has last waited or looked for. -/
inductive Look where
  | timedOut
  | woken
  | reading (now : Timespec)
  deriving DecidableEq

/-- The times a call knows of. -/
structure Clock where
  /-- the reading right before `begin`, from which the deadline is counted -/
  start : Option Timespec
  /-- `begin` is what came last -/
  begun : Bool
  /-- the reading that came last -/
  reading : Option Timespec
  look : Option Look
  deriving DecidableEq

def tick (c : Clock) : Event posix → Clock
  | ⟨.clockGettime, .ok now⟩ =>
      { c with begun := false, reading := some now, look := some (.reading now) }
  | ⟨.begin, _⟩ => { c with start := c.reading, begun := true, reading := none }
  | ⟨.poll _ _, .ok .timeout⟩ => { c with begun := false, reading := none, look := some .timedOut }
  | ⟨.poll _ _, _⟩ => { c with begun := false, reading := none, look := some .woken }
  | _ => { c with begun := false, reading := none }

def clock (h : History posix) : Clock := h.foldl tick ⟨none, false, none, none⟩

theorem clock_snoc (h : History posix) (ev : Event posix) :
    clock (h ++ [ev]) = tick (clock h) ev := by
  simp [clock]

/-- The nanoseconds until the deadline. -/
def left (start : Timespec) (timeout : ℤ) (now : Timespec) : ℤ :=
  start.nanos + timeout * 1000000 - now.nanos

/-- A wait for what remains of the timeout, as far as the call waits for that. -/
structure Awaits (timeout left : ℤ) (cap : ℤ → ℤ) (wait : ℤ) : Prop where
  low : 0 ≤ wait
  high : wait ≤ timeout
  remains : ∃ remaining, Remains timeout left remaining ∧ wait = cap remaining

/-- What may come next. A wait is the first one, of the whole timeout, or comes right after a
reading of the clock, for what remains of the timeout then. Something else comes after a
reading only when the deadline has passed. -/
def Timely (timeout : ℤ) (cap : ℤ → ℤ) (c : Clock) : Event posix → Prop
  | ⟨.poll _ wait, _⟩ => ∃ start, c.start = some start ∧ (c.begun = true ∧ wait = timeout ∨
      ∃ now, c.reading = some now ∧
        (Later start timeout now → Awaits timeout (left start timeout now) cap wait))
  | _ => ∀ start now, c.start = some start → c.reading = some now → Later start timeout now →
      left start timeout now < 0

/-- Every event of the call is in time. -/
def Punctual (timeout : ℤ) (cap : ℤ → ℤ) (h : History posix) : Prop :=
  ∀ before ev after, h = before ++ ev :: after → Timely timeout cap (clock before) ev

/-- The last wait was over without an event, or the last reading was after the deadline. -/
def Expired (timeout : ℤ) (c : Clock) : Prop :=
  c.look = some .timedOut ∨ ∃ start now, c.start = some start ∧ c.look = some (.reading now) ∧
    (Later start timeout now → left start timeout now < 0)

/-- The call has given up: it has thrown a `TimeoutIOException`, or has returned while its
buffer has room. -/
def GaveUp (f : Frame) : Except JavaException ℤ → Prop
  | .error e => e.isTimeout = true
  | .ok n => 0 ≤ n ∧ f.buffer.hasRemaining = true

section Histories
variable {timeout : ℤ} {cap : ℤ → ℤ} {h : History posix} {ev : Event posix}

theorem punctual_nil : Punctual timeout cap [] := by
  intro before ev after same
  simp at same

theorem punctual_snoc : Punctual timeout cap (h ++ [ev]) ↔
    Punctual timeout cap h ∧ Timely timeout cap (clock h) ev := by
  constructor
  · intro punctual
    refine ⟨fun before ev' after same => ?_, punctual h ev [] rfl⟩
    exact punctual before ev' (after ++ [ev]) (by simp [same])
  · rintro ⟨punctual, timely⟩ before ev' after same
    rcases List.eq_nil_or_concat after with rfl | ⟨after, last, rfl⟩
    · obtain ⟨rfl, ⟨⟩⟩ := List.append_inj' same rfl
      exact timely
    · rw [List.concat_eq_append, ← List.cons_append, ← List.append_assoc] at same
      exact punctual before ev' after (List.append_inj' same rfl).1

end Histories

/-- A request that neither waits nor looks at a clock. -/
def untimed : Request → Bool
  | .poll _ _ | .clockGettime | .begin => false
  | _ => true

theorem tick_untimed {e : Request} (own : untimed e = true) (r : Answer e) (c : Clock) :
    tick c ⟨e, r⟩ = { c with begun := false, reading := none } := by
  cases e with
  | poll d wait => cases own
  | clockGettime => cases own
  | begin => cases own
  | _ => rfl

theorem timely_untimed {timeout : ℤ} {cap : ℤ → ℤ} {c : Clock} {e : Request}
    (own : untimed e = true) {r : Answer e}
    (elapsed : ∀ start now, c.start = some start → c.reading = some now → Later start timeout now →
      left start timeout now < 0) : Timely timeout cap c ⟨e, r⟩ := by
  cases e with
  | poll d wait => cases own
  | _ => exact elapsed

/-- The call may go on, or end, without another wait. -/
structure Freely (timeout : ℤ) (cap : ℤ → ℤ) (start : Option Timespec)
    (h : History posix) : Prop where
  punctual : Punctual timeout cap h
  start : (clock h).start = start
  elapsed : ∀ start now, (clock h).start = some start → (clock h).reading = some now →
    Later start timeout now →
    left start timeout now < 0

section Parts
variable {timeout : ℤ} {cap : ℤ → ℤ} {start : Option Timespec} {h : History posix}
  {f : Frame} {α β : Type}

theorem Freely.untimed (freely : Freely timeout cap start h) {e : Request}
    (own : untimed e = true) (r : Answer e) :
    Freely timeout cap start (h ++ [⟨e, r⟩]) where
  punctual := punctual_snoc.mpr ⟨freely.punctual, timely_untimed own freely.elapsed⟩
  start := by
    rw [clock_snoc, tick_untimed own]
    exact freely.start
  elapsed := by
    intro start now _ reading
    rw [clock_snoc, tick_untimed own] at reading
    cases reading

theorem look_untimed {e : Request} (own : untimed e = true) (r : Answer e) :
    (clock (h ++ [⟨e, r⟩])).look = (clock h).look := by
  rw [clock_snoc, tick_untimed own]

/-- The method neither waits nor looks at a clock, and ends as `R` says. -/
def Untimed (timeout : ℤ) (cap : ℤ → ℤ) (start : Option Timespec) (m : Call α)
    (R : Frame → Except JavaException α → Prop) : Prop :=
  ∀ h f, Freely timeout cap start h → mwp (Punctual timeout cap) h f m fun h' f' x =>
    Freely timeout cap start h' ∧ (clock h').look = (clock h).look ∧ R f' x

/-- Nothing but an exception that is no timeout. -/
def ThrowsOther (_ : Frame) (x : Except JavaException α) : Prop :=
  ∃ e, x = .error e ∧ e.isTimeout = false

/-- At most an exception that is no timeout. -/
def Working (_ : Frame) (x : Except JavaException α) : Prop :=
  ∀ e, x = .error e → e.isTimeout = false

namespace Untimed
variable {R : Frame → Except JavaException α → Prop} {m : Call α}

theorem pure {a : α} (here : ∀ f, R f (.ok a)) : Untimed timeout cap start (Pure.pure a) R :=
  fun _ f freely => Method.mwp_pure.mpr ⟨freely, rfl, here f⟩

theorem raise {e : JavaException} (here : ∀ f, R f (.error e)) :
    Untimed timeout cap start (Method.raise e) R :=
  fun _ f freely => Method.mwp_raise.mpr ⟨freely, rfl, here f⟩

theorem complete {R : Frame → Except JavaException Unit → Prop} (here : ∀ f, R f (.ok ())) :
    Untimed timeout cap start complete R :=
  fun _ _ freely => mwp_complete.mpr ⟨freely, rfl, here _⟩

theorem locals {R : Frame → Except JavaException Frame → Prop} (here : ∀ f, R f (.ok f)) :
    Untimed timeout cap start Method.locals R :=
  fun _ f freely => Method.mwp_locals.mpr ⟨freely, rfl, here f⟩

theorem assign {g : Frame → Frame} {R : Frame → Except JavaException Unit → Prop}
    (here : ∀ f, R f (.ok ())) :
    Untimed timeout cap start (Method.assign g) R :=
  fun _ _ freely => Method.mwp_assign.mpr ⟨freely, rfl, here _⟩

theorem ask {e : Request} {out : Answer e → α} (own : untimed e = true)
    (here : ∀ f r, R f (.ok (out r))) :
    Untimed timeout cap start (Jnhw.ask e out) R := by
  intro h f freely
  refine mwp_ask.mpr fun r => ?_
  have later := freely.untimed own r
  exact ⟨later.punctual, later, look_untimed own r, here f r⟩

theorem mono {R' : Frame → Except JavaException α → Prop} (part : Untimed timeout cap start m R)
    (weaker : ∀ f x, R f x → R' f x) : Untimed timeout cap start m R' := by
  intro h f freely
  apply mwp_mono (part h f freely)
  rintro h' f' x ⟨free, look, holds⟩
  exact ⟨free, look, weaker f' x holds⟩

theorem bind {m : Call β} {next : β → Call α} (first : Untimed timeout cap start m Working)
    (thrown : ∀ f e, e.isTimeout = false → R f (.error e))
    (rest : ∀ b, Untimed timeout cap start (next b) R) :
    Untimed timeout cap start (m >>= next) R := by
  intro h f freely
  apply mwp_seq (first h f freely)
  · rintro h' f' e ⟨free, look, working⟩
    exact ⟨free, look, thrown f' e (working e rfl)⟩
  · rintro h' f' b ⟨free, look, -⟩
    apply mwp_mono (rest b h' f' free)
    rintro h'' f'' x ⟨free', look', holds⟩
    exact ⟨free', look'.trans look, holds⟩

theorem ite {c : Prop} [Decidable c] {m' : Call α} (yes : c → Untimed timeout cap start m R)
    (no : ¬c → Untimed timeout cap start m' R) :
    Untimed timeout cap start (if c then m else m') R := by
  split
  · next holds => exact yes holds
  · next fails => exact no fails

end Untimed

theorem working_ok {a : α} (f : Frame) : Working f (.ok a : Except JavaException α) :=
  fun e same => by cases same

theorem ThrowsOther.working {f : Frame} {x : Except JavaException α} (failing : ThrowsOther f x) :
    Working f x := by
  obtain ⟨e, rfl, other⟩ := failing
  rintro e' ⟨⟩
  exact other

theorem ask_working {e : Request} {out : Answer e → α} (own : untimed e = true) :
    Untimed timeout cap start (ask e out) Working :=
  .ask own fun f _ => working_ok f

theorem complete_working : Untimed timeout cap start complete Working := .complete working_ok

/-- `completed = true; throw` of something that is no timeout. -/
theorem complete_raise {e : JavaException} (other : e.isTimeout = false) :
    Untimed timeout cap start (do complete; raise e : Call α) ThrowsOther :=
  .bind complete_working (fun _ e other => ⟨e, rfl, other⟩) fun _ => .raise fun _ => ⟨e, rfl, other⟩

theorem closedOrCancelled_untimed :
    Untimed timeout cap start (closedOrCancelled : Call α) ThrowsOther :=
  .bind (ask_working rfl) (fun _ e other => ⟨e, rfl, other⟩) fun _ =>
    .ite (fun _ => .raise fun _ => ⟨_, rfl, rfl⟩) fun _ => .raise fun _ => ⟨_, rfl, rfl⟩

theorem complete_closed :
    Untimed timeout cap start (do complete; closedOrCancelled : Call α) ThrowsOther :=
  .bind complete_working (fun _ e other => ⟨e, rfl, other⟩) fun _ => closedOrCancelled_untimed

theorem formatMsg_untimed (s : Socket) (nee : Errno) (text : String) :
    Untimed timeout cap start (formatMsg s nee text) Working := by
  have thrown : ∀ (f : Frame) e, e.isTimeout = false →
      Working f (.error e : Except JavaException String) := by
    rintro f e other e' ⟨⟩
    exact other
  refine .bind (ask_working rfl) thrown fun _ => .ite (fun _ => .pure working_ok) fun _ => ?_
  exact .bind (ask_working rfl) thrown fun _ => .ite (fun _ => .pure working_ok)
    fun _ => .pure working_ok

theorem working_error {f : Frame} {e : JavaException} (other : e.isTimeout = false) :
    Working f (.error e : Except JavaException α) := by
  rintro e' ⟨⟩
  exact other

theorem unistdRead_untimed : Untimed timeout cap start Unistd.read Working := by
  refine .bind (.locals fun f => working_ok f) (fun _ _ => working_error) fun frame => ?_
  refine .bind (ask_working rfl) (fun _ _ => working_error) fun result => ?_
  cases result with
  | ok bytes =>
      exact .bind (.assign working_ok) (fun _ _ => working_error) fun _ => .pure working_ok
  | error nee => exact .pure working_ok

theorem unistdWrite_untimed : Untimed timeout cap start Unistd.write Working := by
  refine .bind (.locals fun f => working_ok f) (fun _ _ => working_error) fun frame => ?_
  refine .bind (ask_working rfl) (fun _ _ => working_error) fun result => ?_
  cases result with
  | ok k => exact .bind (.assign working_ok) (fun _ _ => working_error) fun _ => .pure working_ok
  | error nee => exact .pure working_ok

/-- The loop goes on, or has filled or emptied the buffer, or ends in an
exception that is no timeout. -/
def Proceeds (f : Frame) : Except JavaException (ℤ ⊕ ℤ) → Prop
  | .ok (.inl _) => True
  | .ok (.inr _) => f.buffer.hasRemaining = false
  | .error e => e.isTimeout = false

theorem ThrowsOther.proceeds {f : Frame} {x : Except JavaException (ℤ ⊕ ℤ)}
    (failing : ThrowsOther f x) : Proceeds f x := by
  obtain ⟨e, rfl, other⟩ := failing
  exact other

/-- The end of a round. -/
theorem counted_untimed (n : ℤ) : Untimed timeout cap start (do
    let frame ← locals
    if frame.buffer.hasRemaining = true then Pure.pure (.inl n)
    else do
      complete
      Pure.pure (.inr n) : Call (ℤ ⊕ ℤ)) Proceeds := by
  intro h f freely
  simp only [Method.mwp_bind, Method.mwp_locals, Method.rest_ok]
  split
  · exact Method.mwp_pure.mpr ⟨freely, rfl, trivial⟩
  · next full =>
      simp only [Method.mwp_bind, mwp_complete, Method.rest_ok, Method.mwp_pure]
      exact ⟨freely, trivial, Bool.eq_false_iff.mpr full⟩

theorem readFailed_untimed (nee : Errno) (message : String) :
    Untimed timeout cap start (readFailed nee message : Call α) ThrowsOther := by
  refine .bind (ask_working rfl) (fun _ e other => ⟨e, rfl, other⟩) fun invalid => ?_
  refine .ite (fun _ => complete_closed) fun _ => ?_
  exact .ite (fun _ => complete_raise rfl) fun _ => complete_raise rfl

theorem checkReadable_untimed (port : BitVec 16) :
    Untimed timeout cap start (checkReadable port) Working := by
  refine .ite (fun _ => .pure working_ok) fun _ => ?_
  refine .ite (fun _ => (complete_raise rfl).mono fun _ _ => ThrowsOther.working) fun _ => ?_
  refine .ite (fun _ => complete_closed.mono fun _ _ => ThrowsOther.working) fun _ => ?_
  refine .bind complete_working (fun _ _ => working_error) fun _ => ?_
  exact .bind (ask_working rfl) (fun _ _ => working_error) fun _ =>
    .raise fun _ => working_error rfl

theorem readOn_untimed (overallRead : ℤ) :
    Untimed timeout cap start (readOn overallRead) Proceeds := by
  refine .bind unistdRead_untimed (fun _ _ other => other) fun attempt => ?_
  cases attempt with
  | ok k => exact counted_untimed _
  | error nee => exact (readFailed_untimed nee _).mono fun _ _ => ThrowsOther.proceeds

theorem pollReadFailed_untimed (nee : Errno) (message : String) :
    Untimed timeout cap start (pollReadFailed nee message : Call α) ThrowsOther :=
  complete_raise rfl

/-- What follows a wait that was woken. -/
theorem readable_untimed (port : BitVec 16) (overallRead : ℤ) :
    Untimed timeout cap start (do checkReadable port; readOn overallRead) Proceeds :=
  .bind (checkReadable_untimed port) (fun _ _ other => other) fun _ => readOn_untimed overallRead

theorem writeFailed_untimed (s : Socket) (nee : Errno) (offset : ℤ) :
    Untimed timeout cap start (writeFailed s nee offset : Call α) ThrowsOther := by
  refine .bind (ask_working rfl) (fun _ e other => ⟨e, rfl, other⟩) fun invalid => ?_
  refine .ite (fun _ => complete_closed) fun _ => .ite (fun _ => complete_raise rfl) fun _ => ?_
  exact .bind (formatMsg_untimed s nee _) (fun _ e other => ⟨e, rfl, other⟩)
    fun _ => complete_raise rfl

theorem pollWriteFailed_untimed (s : Socket) (nee : Errno) (offset : ℤ) :
    Untimed timeout cap start (pollWriteFailed s nee offset : Call α) ThrowsOther :=
  .bind (formatMsg_untimed s nee _) (fun _ e other => ⟨e, rfl, other⟩) fun _ => complete_raise rfl

theorem checkWritable_untimed (written offset : ℤ) (port cancel : BitVec 16) :
    Untimed timeout cap start (checkWritable written offset (.ready port cancel)) Working := by
  refine .ite (fun _ => complete_closed.mono fun _ _ => ThrowsOther.working) fun _ => ?_
  refine .ite (fun _ => .pure working_ok) fun _ => ?_
  refine .ite (fun _ => (complete_raise rfl).mono fun _ _ => ThrowsOther.working) fun _ => ?_
  refine .ite (fun _ => complete_closed.mono fun _ _ => ThrowsOther.working) fun _ => ?_
  exact (complete_raise rfl).mono fun _ _ => ThrowsOther.working

end Parts

section Loops
variable {timeout : ℤ} {cap : ℤ → ℤ} {start : Timespec} {h : History posix} {f : Frame} {s : Socket}

/-- What a part of the call owes at its end. -/
def Settled (timeout : ℤ) (cap : ℤ → ℤ) (start : Timespec) (h : History posix) (f : Frame)
    (x : Except JavaException ℤ) : Prop :=
  Freely timeout cap (some start) h ∧ (GaveUp f x → Expired timeout (clock h))

abbrev Round (timeout : ℤ) (cap : ℤ → ℤ) (start : Timespec) :
    History posix → Frame → Except JavaException (ℤ ⊕ ℤ) → Prop :=
  again (fun h _ _ => Freely timeout cap (some start) h) (Settled timeout cap start)

theorem Untimed.round {m : Call (ℤ ⊕ ℤ)} (part : Untimed timeout cap (some start) m Proceeds)
    (freely : Freely timeout cap (some start) h) :
    mwp (Punctual timeout cap) h f m (Round timeout cap start) := by
  apply mwp_mono (part h f freely)
  rintro h' f' (e | n | n) ⟨free, -, proceeds⟩
  · refine ⟨free, fun gave => ?_⟩
    have other : e.isTimeout = false := proceeds
    rw [show e.isTimeout = true from gave] at other
    cases other
  · exact free
  · refine ⟨free, fun gave => ?_⟩
    have full : f'.buffer.hasRemaining = false := proceeds
    rw [gave.2] at full
    cases full

/-- What the `poll` of a loop tells: where it tells of a timeout the time is over. -/
def Waited (timeout : ℤ) (cap : ℤ → ℤ) (start : Timespec) (h : History posix) :
    Except JavaException (Except Errno PollResult) → Prop
  | .error _ => Freely timeout cap (some start) h ∧ Expired timeout (clock h)
  | .ok (.ok .timeout) => Freely timeout cap (some start) h ∧ Expired timeout (clock h)
  | .ok _ => Freely timeout cap (some start) h

/-- A `poll` that is in time. -/
theorem poll_timely {d : Direction} {wait : ℤ} (punctual : Punctual timeout cap h)
    (started : (clock h).start = some start)
    (timely : ∀ r, Timely timeout cap (clock h) ⟨.poll d wait, r⟩) :
    mwp (Punctual timeout cap) h f (poll d wait) fun h' f' x => f' = f ∧
      Waited timeout cap start h' x := by
  refine mwp_ask.mpr fun r => ?_
  have later : Punctual timeout cap (h ++ [⟨.poll d wait, r⟩]) :=
    punctual_snoc.mpr ⟨punctual, timely r⟩
  have same : (clock (h ++ [⟨.poll d wait, r⟩])).start = some start := by
    rw [clock_snoc]
    rcases r with nee | _ | _ <;> exact started
  have silent : (clock (h ++ [⟨.poll d wait, r⟩])).reading = none := by
    rw [clock_snoc]
    rcases r with nee | _ | _ <;> rfl
  have free : Freely timeout cap (some start) (h ++ [⟨.poll d wait, r⟩]) := by
    refine ⟨later, same, ?_⟩
    intro _ now _ reading
    rw [silent] at reading
    cases reading
  refine ⟨later, rfl, ?_⟩
  rcases r with nee | _ | _
  · exact free
  · refine ⟨free, .inl ?_⟩
    rw [clock_snoc]
    rfl
  · exact free

/-- A loop that waits for what remains of the timeout, as far as `cap` lets it. -/
theorem remains_polled (positive : 1 ≤ timeout) (int : timeout ≤ 2147483647)
    (low : ∀ r, 0 ≤ r → 0 ≤ cap r) (high : ∀ r, cap r ≤ r) {d : Direction}
    {passed : Call (Except Errno PollResult)} (freely : Freely timeout cap (some start) h)
    (gives : ∀ h, Freely timeout cap (some start) h → Expired timeout (clock h) →
      mwp (Punctual timeout cap) h f passed fun h' f' x => f' = f ∧ Waited timeout cap start h' x) :
    mwp (Punctual timeout cap) h f (do
      let now ← clock_gettime
      match now with
      | .error nee => Pure.pure (.error nee)
      | .ok currentTime =>
          if remainingTimeOut (start.plusMillis timeout) currentTime < 0 then passed
          else poll d (cap (remainingTimeOut (start.plusMillis timeout) currentTime)))
      fun h' f' x => f' = f ∧ Waited timeout cap start h' x := by
  simp only [clock_gettime, Method.mwp_bind]
  refine mwp_ask.mpr fun now => ?_
  have punctual : Punctual timeout cap (h ++ [⟨.clockGettime, now⟩]) :=
    punctual_snoc.mpr ⟨freely.punctual, freely.elapsed⟩
  refine ⟨punctual, ?_⟩
  cases now with
  | error nee =>
      refine Method.rest_ok.mpr (Method.mwp_pure.mpr ⟨rfl, punctual, ?_, ?_⟩)
      · rw [clock_snoc]
        exact freely.start
      · rw [clock_snoc]
        intro start now _ reading
        cases reading
  | ok now =>
      have started : (clock (h ++ [⟨.clockGettime, .ok now⟩])).start = some start := by
        rw [clock_snoc]
        exact freely.start
      have read : (clock (h ++ [⟨.clockGettime, .ok now⟩])).reading = some now := by
        rw [clock_snoc]
        rfl
      simp only [Method.rest_ok]
      split
      · next negative =>
          have passed : Later start timeout now → left start timeout now < 0 := fun later =>
            (remainingTimeOut_remains positive int later).passed negative
          refine gives _ ⟨punctual, started, ?_⟩ (.inr ⟨start, now, started, ?_, passed⟩)
          · intro start' now' started' read'
            obtain rfl := Option.some.inj (started.symm.trans started')
            obtain rfl := Option.some.inj (read.symm.trans read')
            exact passed
          · rw [clock_snoc]
            rfl
      · next some =>
          refine poll_timely punctual started fun r =>
            ⟨start, started, .inr ⟨now, read, fun later => ?_⟩⟩
          have remains := remainingTimeOut_remains positive int later
          exact ⟨low _ (not_lt.mp some), le_trans (high _) remains.atMost, _, remains, rfl⟩

theorem pollForWrite_timely (positive : 1 ≤ timeout) (int : timeout ≤ 2147483647)
    (freely : Freely timeout id (some start) h) :
    mwp (Punctual timeout id) h f (pollForWrite (some (start.plusMillis timeout)))
      fun h' f' x => f' = f ∧ Waited timeout id start h' x := by
  refine remains_polled positive int (fun _ low => low) (fun _ => le_rfl) freely ?_
  exact fun h free expired => Method.mwp_raise.mpr ⟨rfl, free, expired⟩

theorem pollForRead_timely (positive : 1 ≤ timeout) (int : timeout ≤ 2147483647)
    (low : 0 ≤ s.interByteReadTimeout)
    (freely : Freely timeout (min s.interByteReadTimeout) (some start) h) :
    mwp (Punctual timeout (min s.interByteReadTimeout)) h f
      (pollForRead s (some (start.plusMillis timeout))) fun h' f' x => f' = f ∧
      Waited timeout (min s.interByteReadTimeout) start h' x := by
  refine remains_polled positive int (fun _ => le_min low) (fun _ => min_le_right _ _) freely ?_
  exact fun h free expired => Method.mwp_pure.mpr ⟨rfl, free, expired⟩

theorem writeRound_round (positive : 1 ≤ timeout) (int : timeout ≤ 2147483647) (written offset : ℤ)
    (freely : Freely timeout id (some start) h) :
    mwp (Punctual timeout id) h f (writeRound s (some (start.plusMillis timeout)) written offset)
      (Round timeout id start) := by
  apply Method.mwp_seq (pollForWrite_timely positive int freely)
  · rintro h f e ⟨rfl, free, expired⟩
    exact ⟨free, fun _ => expired⟩
  · rintro h f (nee | _ | ⟨port, cancel⟩) ⟨rfl, polled⟩
    · exact ((pollWriteFailed_untimed s nee offset).mono fun _ _ =>
        ThrowsOther.proceeds).round polled
    · obtain ⟨free, expired⟩ := polled
      simp only [checkWritable, Method.mwp_bind, mwp_complete, Method.rest_ok,
        Method.mwp_raise, Method.rest_error]
      exact ⟨free, fun _ => expired⟩
    · refine Untimed.round ?_ polled
      refine .bind (checkWritable_untimed written offset port cancel)
        (fun _ _ other => other) fun _ => ?_
      refine .bind unistdWrite_untimed (fun _ _ other => other) fun attempt => ?_
      cases attempt with
      | ok k => exact counted_untimed _
      | error nee => exact (writeFailed_untimed s nee offset).mono fun _ _ => ThrowsOther.proceeds

theorem readRound_round (positive : 1 ≤ timeout) (int : timeout ≤ 2147483647)
    (low : 0 ≤ s.interByteReadTimeout) (overallRead : ℤ)
    (freely : Freely timeout (min s.interByteReadTimeout) (some start) h) :
    mwp (Punctual timeout (min s.interByteReadTimeout)) h f
      (readRound s (some (start.plusMillis timeout)) overallRead)
        (Round timeout (min s.interByteReadTimeout) start) := by
  apply Method.mwp_seq (pollForRead_timely positive int low freely)
  · rintro h f e ⟨rfl, free, expired⟩
    exact ⟨free, fun _ => expired⟩
  · rintro h f (nee | _ | ⟨port, cancel⟩) ⟨rfl, polled⟩
    · exact ((pollReadFailed_untimed nee _).mono fun _ _ => ThrowsOther.proceeds).round polled
    · obtain ⟨free, expired⟩ := polled
      simp only [Method.mwp_bind, mwp_complete, Method.rest_ok, Method.mwp_pure]
      exact ⟨free, fun _ => expired⟩
    · dsimp only
      split
      · simp only [Method.mwp_bind, mwp_complete, Method.rest_ok, Method.mwp_pure]
        exact ⟨polled, fun gave => absurd gave.1 (by decide)⟩
      · exact (readable_untimed port overallRead).round polled

/-- The first wait, of the whole timeout. -/
theorem awaitFirst_round (timed : s.pollReadTimeout = timeout) (punctual : Punctual timeout cap h)
    (started : (clock h).start = some start) (begun : (clock h).begun = true) :
    mwp (Punctual timeout cap) h f (awaitFirst s) (Round timeout cap start) := by
  apply Method.mwp_seq (poll_timely punctual started fun r => ⟨start, started, .inl ⟨begun, timed⟩⟩)
  · rintro h f e ⟨rfl, free, expired⟩
    exact ⟨free, fun _ => expired⟩
  · rintro h f (nee | _ | ⟨port, cancel⟩) ⟨rfl, polled⟩
    · exact ((pollReadFailed_untimed nee _).mono fun _ _ => ThrowsOther.proceeds).round polled
    · obtain ⟨free, expired⟩ := polled
      simp only [Method.mwp_bind, mwp_complete, Method.rest_ok, Method.mwp_raise]
      exact ⟨free, fun _ => expired⟩
    · dsimp only
      split
      · exact (complete_closed.mono fun _ _ => ThrowsOther.proceeds).round polled
      · exact (readable_untimed port 0).round polled

end Loops

section Calls
variable {timeout : ℤ} {cap : ℤ → ℤ} {start : Timespec} {h : History posix} {f : Frame} {s : Socket}

theorem Expired.untimed (expired : Expired timeout (clock h)) {e : Request}
    (own : untimed e = true) (r : Answer e) :
    Expired timeout (clock (h ++ [⟨e, r⟩])) := by
  rw [clock_snoc, tick_untimed own]
  exact expired

/-- A call that gives up does so when its time is over. -/
def InTime (timeout : ℤ) (h : History posix) (f : Frame) (x : Except JavaException ℤ) : Prop :=
  GaveUp f x → Expired timeout (clock h)

theorem inTime_other {e : JavaException} (other : e.isTimeout = false) :
    InTime timeout h f (.error e) := by
  intro gave
  rw [show e.isTimeout = true from gave] at other
  cases other

/-- `end` throws nothing that is a timeout, and what the call was about to do it does. -/
theorem endBlocking_inTime {x : Except JavaException ℤ}
    (settled : Settled timeout cap start h f x) :
    mwp (Punctual timeout cap) h f endBlocking (Method.settle (InTime timeout) x) := by
  obtain ⟨free, inTime⟩ := settled
  simp only [endBlocking, isInterrupted, isClosed, Method.mwp_bind,
    Method.mwp_locals, Method.rest_ok]
  refine mwp_ask.mpr fun interrupted => ?_
  have asked := free.untimed (e := .interrupted) rfl interrupted
  refine ⟨asked.punctual, ?_⟩
  simp only [Method.rest_ok]
  split
  · exact Method.mwp_raise.mpr (inTime_other rfl)
  · split
    · exact Method.mwp_pure.mpr fun gave => (inTime gave).untimed rfl interrupted
    · simp only [Method.mwp_bind]
      refine mwp_ask.mpr fun closed => ?_
      refine ⟨(asked.untimed (e := .channelClosed) rfl closed).punctual, ?_⟩
      simp only [Method.rest_ok]
      split
      · exact Method.mwp_raise.mpr (inTime_other rfl)
      · exact Method.mwp_pure.mpr fun gave =>
          ((inTime gave).untimed rfl interrupted).untimed rfl closed

/-- A blocking part that counts its time from the reading before it. -/
theorem timed_inTime (positive : 1 ≤ timeout) {body : Option Timespec → Call ℤ}
    (freely : Freely timeout cap none h) (whole : ∀ h f start, Punctual timeout cap h →
    (clock h).start = some start → (clock h).begun = true →
      (clock h).reading = none →
      mwp (Punctual timeout cap) h f (body (some (start.plusMillis timeout)))
        (Settled timeout cap start)) :
    mwp (Punctual timeout cap) h f (do
      let endTime ← deadline timeout
      blocking (body endTime)) (InTime timeout) := by
  have finite : timeout ≠ POLL_INFINITE_TIMEOUT := by
    rintro rfl
    exact absurd positive (by decide)
  simp only [deadline, if_neg finite, clock_gettime, Method.mwp_bind]
  refine mwp_ask.mpr fun now => ?_
  have punctual : Punctual timeout cap (h ++ [⟨.clockGettime, now⟩]) :=
    punctual_snoc.mpr ⟨freely.punctual, freely.elapsed⟩
  refine ⟨punctual, ?_⟩
  cases now with
  | error nee =>
      simp only [Method.rest_ok, Method.mwp_raise, Method.rest_error]
      exact inTime_other rfl
  | ok now =>
      simp only [Method.rest_ok, Method.mwp_pure]
      have unstarted : (clock (h ++ [⟨.clockGettime, .ok now⟩])).start = none := by
        rw [clock_snoc]
        exact freely.start
      have opened : Punctual timeout cap (h ++ [⟨.clockGettime, .ok now⟩] ++ [⟨.begin, ()⟩]) := by
        refine punctual_snoc.mpr ⟨punctual, ?_⟩
        intro start _ started
        rw [unstarted] at started
        cases started
      apply mwp_blocking opened
      have read : (clock (h ++ [⟨.clockGettime, .ok now⟩])).reading = some now := by
        rw [clock_snoc]
        rfl
      apply mwp_mono (whole _ _ now opened
        (by rw [clock_snoc]; exact read) (by rw [clock_snoc]; rfl) (by rw [clock_snoc]; rfl))
      exact fun h' f' x settled => endBlocking_inTime settled

theorem continueWrite_inTime (positive : 1 ≤ timeout) (int : timeout ≤ 2147483647)
    (timed : s.pollWriteTimeout = timeout) (written : ℤ) (freely : Freely timeout id none h) :
    mwp (Punctual timeout id) h f (continueWrite s written) (InTime timeout) := by
  rw [continueWrite, timed]
  apply timed_inTime positive freely
  intro h f start punctual started begun silent
  refine mwp_iterate (fun h _ _ => Freely timeout id (some start) h) ⟨punctual, started, ?_⟩ ?_
  · intro _ now _ reading
    rw [silent] at reading
    cases reading
  · exact fun h f offset free => writeRound_round positive int written offset free

theorem continueRead_inTime (positive : 1 ≤ timeout) (int : timeout ≤ 2147483647)
    (timed : s.pollReadTimeout = timeout) (low : 0 ≤ s.interByteReadTimeout) (nread : ℤ)
    (freely : Freely timeout (min s.interByteReadTimeout) none h) :
    mwp (Punctual timeout (min s.interByteReadTimeout)) h f (continueRead s nread)
      (InTime timeout) := by
  rw [continueRead, timed]
  apply timed_inTime positive freely
  intro h f start punctual started begun silent
  have first : mwp (Punctual timeout (min s.interByteReadTimeout)) h f (firstWait s nread)
      (Round timeout (min s.interByteReadTimeout) start) := by
    rw [firstWait]
    split
    · exact awaitFirst_round timed punctual started begun
    · refine Method.mwp_pure.mpr ⟨punctual, started, ?_⟩
      intro _ now _ reading
      rw [silent] at reading
      cases reading
  apply Method.mwp_seq first
  · exact fun h f e settled => settled
  · rintro h f (count | count) done
    · refine mwp_iterate (fun h _ _ =>
        Freely timeout (min s.interByteReadTimeout) (some start) h) done ?_
      exact fun h f overallRead free => readRound_round positive int low overallRead free
    · exact Method.mwp_pure.mpr done

theorem Freely.first : Freely timeout cap none [] := by
  refine ⟨punctual_nil, rfl, ?_⟩
  intro start _ started
  cases started

/-- A first attempt that ends the call is no timeout. -/
theorem Untimed.inTime {m : Call ℤ} (part : Untimed timeout cap none m ThrowsOther)
    (freely : Freely timeout cap none h) :
    mwp (Punctual timeout cap) h f m (InTime timeout) := by
  apply mwp_mono (part h f freely)
  rintro h' f' x ⟨-, -, e, rfl, other⟩
  exact inTime_other other

theorem full_inTime {n : ℤ} (full : ¬f.buffer.hasRemaining = true) :
    mwp (Punctual timeout cap) h f (pure n) (InTime timeout) :=
  Method.mwp_pure.mpr fun gave => absurd gave.2 full

theorem writeRefused_untimed (nee : Errno) {α : Type} {start : Option Timespec} :
    Untimed timeout cap start (writeRefused s nee : Call α) ThrowsOther := by
  refine .bind (ask_working rfl) (fun _ e other => ⟨e, rfl, other⟩) fun _ => ?_
  refine .ite (fun _ => .raise fun _ => ⟨_, rfl, rfl⟩) fun _ =>
    .ite (fun _ => .raise fun _ => ⟨_, rfl, rfl⟩) fun _ => ?_
  exact .bind (formatMsg_untimed s nee _) (fun _ e other => ⟨e, rfl, other⟩) fun _ =>
    .raise fun _ => ⟨_, rfl, rfl⟩

theorem write_inTime (positive : 1 ≤ timeout) (int : timeout ≤ 2147483647)
    (timed : s.pollWriteTimeout = timeout) (freely : Freely timeout id none h) :
    mwp (Punctual timeout id) h f (write s) (InTime timeout) := by
  simp only [write, Method.mwp_bind, Method.mwp_locals, Method.rest_ok]
  split
  · apply Method.mwp_seq (unistdWrite_untimed h f freely)
    · rintro h f e ⟨-, -, working⟩
      exact inTime_other (working e rfl)
    · rintro h f (nee | written) ⟨free, -, -⟩
      · dsimp only
        split
        · exact continueWrite_inTime positive int timed 0 free
        · exact (writeRefused_untimed nee).inTime free
      · simp only [Method.mwp_bind, Method.mwp_locals, Method.rest_ok]
        split
        · exact continueWrite_inTime positive int timed written free
        · next full => exact full_inTime full
  · next full => exact full_inTime full

theorem firstRead_untimed {start : Option Timespec} :
    Untimed timeout cap start firstRead Working := by
  refine .bind unistdRead_untimed (fun _ _ => working_error) fun attempt => ?_
  cases attempt with
  | ok nread => exact .pure working_ok
  | error nee =>
      refine .bind (ask_working rfl) (fun _ _ => working_error) fun invalid => ?_
      refine .ite (fun _ => .raise fun _ => working_error rfl) fun _ => ?_
      refine .ite (fun _ => .pure working_ok) fun _ => ?_
      exact .ite (fun _ => .raise fun _ => working_error rfl) fun _ =>
        .raise fun _ => working_error rfl

theorem read_inTime (positive : 1 ≤ timeout) (int : timeout ≤ 2147483647)
    (timed : s.pollReadTimeout = timeout) (low : 0 ≤ s.interByteReadTimeout)
    (freely : Freely timeout (min s.interByteReadTimeout) none h) :
    mwp (Punctual timeout (min s.interByteReadTimeout)) h f (read s) (InTime timeout) := by
  simp only [read, Method.mwp_bind, Method.mwp_locals, Method.rest_ok]
  split
  · apply Method.mwp_seq (firstRead_untimed h f freely)
    · rintro h f e ⟨-, -, working⟩
      exact inTime_other (working e rfl)
    · rintro h f nread ⟨free, -, -⟩
      simp only [Method.mwp_bind, Method.mwp_locals, Method.rest_ok]
      split
      · exact continueRead_inTime positive int timed low nread free
      · next full => exact full_inTime full
  · next full => exact full_inTime full

/-- Every wait of the call is in time, in runs that have not ended too, and it gives up
only when its time is over. -/
def KeepsTime (timeout : ℤ) (cap : ℤ → ℤ) (call : Call ℤ) : Prop :=
  (∀ f h q, Run (call f) h q → Punctual timeout cap h) ∧
    ∀ f h x f', Returns (call f) h (x, f') → GaveUp f' x → Expired timeout (clock h)

theorem keepsTime {call : Call ℤ}
    (inTime : ∀ f, mwp (Punctual timeout cap) [] f call (InTime timeout)) :
    KeepsTime timeout cap call := by
  constructor
  · intro f h q run
    rcases eq_or_ne h [] with rfl | some
    · exact punctual_nil
    · exact (inTime f h q run).1 some
  · intro f h x f' run
    exact (inTime f h _ run).2 _ rfl

end Calls

/-- What is left of a timeout is computed to less than a millisecond, and in every run of a
write or read the waits are what is left, the first one of a read the whole timeout, and none
gives up early. -/
theorem deadlines_kept (timeout : ℤ) (positive : 1 ≤ timeout) (int : timeout ≤ 2147483647) :
    (∀ start now, Later start timeout now → Remains timeout (left start timeout now)
      (remainingTimeOut (start.plusMillis timeout) now)) ∧
    (∀ (s s' : Socket) (interByte overallRead : ℤ),
      s.setTimeouts interByte overallRead timeout = .ok s' →
      KeepsTime timeout id (write s') ∧
        ∀ written, KeepsTime timeout id (continueWrite s' written)) ∧
    (∀ (s s' : Socket) (interByte overallWrite : ℤ),
      s.setTimeouts interByte timeout overallWrite = .ok s' →
      KeepsTime timeout (min s'.interByteReadTimeout) (read s') ∧
        ∀ nread, KeepsTime timeout (min s'.interByteReadTimeout) (continueRead s' nread)) := by
  refine ⟨fun start now later => remainingTimeOut_remains positive int later, ?_, ?_⟩
  · intro s s' interByte overallRead accepted
    have timed := (setTimeouts_accepted accepted).2.2 (by omega)
    constructor
    · exact keepsTime fun f => write_inTime positive int timed .first
    · exact fun written => keepsTime fun f => continueWrite_inTime positive int timed written .first
  · intro s s' interByte overallWrite accepted
    obtain ⟨low, timed, -⟩ := setTimeouts_accepted accepted
    replace timed := timed (by omega)
    constructor
    · exact keepsTime fun f => read_inTime positive int timed low .first
    · exact fun nread => keepsTime fun f => continueRead_inTime positive int timed low nread .first

/-- The longest timeout, with a carry: its product of the seconds is no `int`. -/
theorem deadlines_kept_longest : Remains 2147483647 2147483647000000
    (remainingTimeOut (Timespec.plusMillis ⟨5, 999999999⟩ 2147483647) ⟨5, 999999999⟩) :=
  (deadlines_kept 2147483647 (by decide) (by decide)).1 ⟨5, 999999999⟩ ⟨5, 999999999⟩
    ⟨⟨by decide, by decide⟩, ⟨by decide, by decide⟩, by decide, by decide⟩

end Spsw.Jnhw

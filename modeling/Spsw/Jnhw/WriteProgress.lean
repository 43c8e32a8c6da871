import Spsw.Jnhw.Write

/-!
# What a write reports of its progress

`write(ByteBuffer)` and `continueWrite` throw a timeout in two places. Where the deadline has
passed the exception says that nothing was written, where `poll` times out it says what the
first attempt has written; neither has the running total.
-/
namespace Spsw.Jnhw
open Interaction
open Interaction.Method (locals iterate mwp mwp_mono mwp_iterate settle)

/-- `startWrite` and, for what is left, `continueWrite`: what is done for one `writeAsync`. -/
def startAndContinueWrite (s : Socket) : Call ℤ := do
  let written ← startWrite s
  let frame ← locals
  if frame.buffer.hasRemaining = true then continueWrite s written else pure written

/-- The two ways to write a buffer. -/
inductive Writing where
  | write
  | startAndContinueWrite
  deriving DecidableEq, Repr

def Writing.call (s : Socket) : Writing → Call ℤ
  | .write => Jnhw.write s
  | .startAndContinueWrite => Jnhw.startAndContinueWrite s

/-- The call has read the clock and waits no more, and nothing else has stopped it. -/
def Late (h : History posix) : Prop :=
  ∃ t now, h = t ++ [⟨.clockGettime, .ok now⟩, ⟨.interrupted, false⟩, ⟨.channelClosed, false⟩]

/-- The last wait has timed out, and nothing else has stopped the call. -/
def WaitedOut (h : History posix) : Prop :=
  ∃ t direction timeout, h = t ++ [⟨.poll direction timeout, .ok .timeout⟩, ⟨.interrupted, false⟩]

/-- The events of the loop. -/
def looped (h : History posix) : History posix := (h.dropWhile fun ev => ev.1 ≠ .begin).tail

/-- A timeout has the number of bytes accepted, by which the position has advanced. -/
def ReportsProgress (b₀ : ByteBuffer) (h : History posix) (f : Frame)
    (x : Except JavaException ℤ) : Prop :=
  ∀ n message, x = .error (.timeoutIOException n message) →
    n = (sent h).length ∧ (f.buffer.position : ℤ) = b₀.position + n

/-- A deadline passes only before anything is accepted, a wait only before the loop has
written anything. -/
structure Foreseen (h : History posix) : Prop where
  deadline : Late h → sent h = []
  wait : WaitedOut h → sent (looped h) = []

section Aside
variable {α β : Type} {R : Except JavaException α → Prop}

/-- Requests that only look at the descriptor. -/
def looks : Request → Bool
  | .fdIsInvalid | .isFdValid => true
  | _ => false

/-- The part at most looks at the descriptor, and ends as `R` says. -/
def Aside (m : Call α) (R : Except JavaException α → Prop) : Prop :=
  ∀ h f, mwp (fun _ => True) h f m (fun h' _ x =>
    (∃ t, h' = h ++ t ∧ ∀ ev ∈ t, looks ev.1 = true) ∧ R x)

/-- The part throws something else than a timeout. -/
def Failing (x : Except JavaException α) : Prop := ∃ e, x = .error e ∧ e.isTimeout = false

namespace Aside

theorem pure {a : α} (r : R (.ok a)) : Aside (Pure.pure a) R :=
  fun h _ => Method.mwp_pure.mpr ⟨⟨[], (List.append_nil h).symm, by simp⟩, r⟩

theorem raise {e : JavaException} (r : R (.error e)) : Aside (Method.raise e) R :=
  fun h _ => Method.mwp_raise.mpr ⟨⟨[], (List.append_nil h).symm, by simp⟩, r⟩

theorem complete : Aside complete Returning :=
  fun h _ => mwp_complete.mpr ⟨⟨[], (List.append_nil h).symm, by simp⟩, (), rfl⟩

theorem ask {e : Request} {out : Answer e → α} (aside : looks e = true) :
    Aside (Jnhw.ask e out) Returning :=
  fun h _ => mwp_ask.mpr fun r => ⟨trivial, ⟨[⟨e, r⟩], rfl, by simpa using aside⟩, _, rfl⟩

theorem bind {m : Call β} {next : β → Call α} (first : Aside m Returning)
    (rest : ∀ b, Aside (next b) R) :
    Aside (m >>= next) R := by
  intro h f
  rw [Method.mwp_bind]
  apply mwp_mono (first h f)
  rintro h' f' x ⟨⟨t, rfl, aside⟩, b, rfl⟩
  apply Method.rest_ok.mpr
  apply mwp_mono (rest b (h ++ t) f')
  rintro h'' f'' x ⟨⟨t', rfl, aside'⟩, r⟩
  exact ⟨⟨t ++ t', List.append_assoc h t t', List.forall_mem_append.mpr ⟨aside, aside'⟩⟩, r⟩

theorem ite {c : Prop} [Decidable c] {m m' : Call α} (yes : Aside m R) (no : Aside m' R) :
    Aside (if c then m else m') R := by
  split
  · exact yes
  · exact no

end Aside

theorem closedOrCancelled_aside : Aside (closedOrCancelled : Call α) Failing :=
  .bind (.ask rfl) fun _ => .ite (.raise ⟨_, rfl, rfl⟩) (.raise ⟨_, rfl, rfl⟩)

theorem formatMsg_aside (s : Socket) (nee : Errno) (text : String) :
    Aside (formatMsg s nee text) Returning :=
  .bind (.ask rfl) fun _ =>
    .ite (.pure ⟨_, rfl⟩) (.bind (.ask rfl) fun _ => .ite (.pure ⟨_, rfl⟩) (.pure ⟨_, rfl⟩))

theorem pollWriteFailed_aside (s : Socket) (nee : Errno) (offset : ℤ) :
    Aside (pollWriteFailed s nee offset : Call α) Failing :=
  .bind (formatMsg_aside s nee _) fun _ => .bind .complete fun _ => .raise ⟨_, rfl, rfl⟩

theorem writeFailed_aside (s : Socket) (nee : Errno) (offset : ℤ) :
    Aside (writeFailed s nee offset : Call α) Failing := by
  refine .bind (.ask rfl) fun _ => .ite (.bind .complete fun _ => closedOrCancelled_aside) ?_
  refine .ite (.bind .complete fun _ => .raise ⟨_, rfl, rfl⟩) ?_
  exact .bind (formatMsg_aside s nee _) fun _ => .bind .complete fun _ => .raise ⟨_, rfl, rfl⟩

theorem writeRefused_aside (s : Socket) (nee : Errno) :
    Aside (writeRefused s nee : Call α) Failing := by
  refine .bind (.ask rfl) fun _ => .ite (.raise ⟨_, rfl, rfl⟩) ?_
  refine .ite (.raise ⟨_, rfl, rfl⟩) ?_
  exact .bind (formatMsg_aside s nee _) fun _ => .raise ⟨_, rfl, rfl⟩

end Aside

section Ends
variable {h h₁ : History posix} {f : Frame} {s : Socket} {written : ℤ} {x : Except JavaException ℤ}

/-- Neither a clock reading nor the end of a wait by its timeout. -/
def Plain : Event posix → Prop
  | ⟨.clockGettime, .ok _⟩ => False
  | ⟨.poll _ _, .ok .timeout⟩ => False
  | _ => True

/-- The last event is a plain one. -/
def EndsPlain (h : History posix) : Prop := ∃ t ev, h = t ++ [ev] ∧ Plain ev

theorem endsPlain_snoc (t : History posix) {ev : Event posix} (plain : Plain ev) :
    EndsPlain (t ++ [ev]) :=
  ⟨t, ev, rfl, plain⟩

theorem plain_looks {ev : Event posix} (aside : looks ev.1 = true) : Plain ev := by
  obtain ⟨e, r⟩ := ev
  cases e with
  | fdIsInvalid => trivial
  | isFdValid => trivial
  | _ => cases aside

theorem EndsPlain.aside (ends : EndsPlain h) {t : History posix}
    (aside : ∀ ev ∈ t, looks ev.1 = true) :
    EndsPlain (h ++ t) := by
  rcases List.eq_nil_or_concat t with rfl | ⟨t, ev, rfl⟩
  · rwa [List.append_nil]
  · refine ⟨h ++ t, ev, ?_, plain_looks (aside ev ?_)⟩
    · rw [List.concat_eq_append, List.append_assoc]
    · simp

/-- How the loop ends: what the last event was decides whether it is with a timeout. -/
inductive BodyEnd (written : ℤ) : History posix → Bool → Except JavaException ℤ → Prop
  | late (t : History posix) (now : Timespec) :
      BodyEnd written (t ++ [⟨.clockGettime, .ok now⟩]) false (.error (.timeoutIOException 0))
  | waited (t : History posix) (direction : Direction) (timeout : ℤ) :
      BodyEnd written (t ++ [⟨.poll direction timeout, .ok .timeout⟩]) true
        (.error (.timeoutIOException written))
  | other {h : History posix} (ends : EndsPlain h) (completed : Bool) {x : Except JavaException ℤ}
      (none : ∀ n message, x ≠ .error (.timeoutIOException n message)) :
        BodyEnd written h completed x

/-- The loop has begun after `h₁`. -/
def Since (h₁ h : History posix) : Prop := ∃ t, h = h₁ ++ ⟨.begin, ()⟩ :: t

theorem Since.append (since : Since h₁ h) (t : History posix) : Since h₁ (h ++ t) := by
  obtain ⟨t', rfl⟩ := since
  exact ⟨t' ++ t, by simp⟩

theorem failing_other {α : Type} {x : Except JavaException α} (failing : Failing x) (n : ℤ)
    (message : Option String) :
    x ≠ .error (.timeoutIOException n message) := by
  obtain ⟨e, rfl, other⟩ := failing
  rintro ⟨⟩
  cases other

/-- What waiting for the descriptor leaves behind. -/
def Awaited (written : ℤ) (h : History posix) (completed : Bool) :
    Except JavaException (Except Errno PollResult) → Prop
  | .error e => BodyEnd written h completed (.error e)
  | .ok (.ok .timeout) => ∃ t direction timeout, h = t ++ [⟨.poll direction timeout, .ok .timeout⟩]
  | .ok _ => EndsPlain h

theorem mwp_poll {direction : Direction} {timeout : ℤ} (since : Since h₁ h)
    (fresh : f.completed = false) :
    mwp (fun _ => True) h f (poll direction timeout) (fun h' f' x =>
      Since h₁ h' ∧ f'.completed = false ∧ Awaited written h' f'.completed x) := by
  refine mwp_ask.mpr fun r => ⟨trivial, since.append _, fresh, ?_⟩
  rcases r with nee | (_ | ⟨port, cancel⟩)
  · exact endsPlain_snoc h trivial
  · exact ⟨h, direction, timeout, rfl⟩
  · exact endsPlain_snoc h trivial

theorem pollForWrite_awaited (endTime : Option Timespec) (since : Since h₁ h)
    (fresh : f.completed = false) :
    mwp (fun _ => True) h f (pollForWrite endTime) (fun h' f' x =>
      Since h₁ h' ∧ f'.completed = false ∧ Awaited written h' f'.completed x) := by
  cases endTime with
  | none => exact mwp_poll since fresh
  | some endTime =>
      simp only [pollForWrite, clock_gettime, Method.mwp_bind, mwp_ask]
      intro now
      refine ⟨trivial, Method.rest_ok.mpr ?_⟩
      cases now with
      | error nee => exact Method.mwp_pure.mpr ⟨since.append _, fresh, endsPlain_snoc h trivial⟩
      | ok currentTime =>
          dsimp only
          split
          · refine Method.mwp_raise.mpr ⟨since.append _, fresh, ?_⟩
            rw [fresh]
            exact .late h currentTime
          · exact mwp_poll (since.append _) fresh

/-- A part that at most looks at the descriptor ends the loop with another exception. -/
theorem mwp_aside {α : Type} (written : ℤ) {m : Call α}
    {post : History posix → Frame → Except JavaException α → Prop} (aside : Aside m Failing)
    (since : Since h₁ h) (ends : EndsPlain h)
    (stop : ∀ h f e, Since h₁ h → BodyEnd written h f.completed (.error e) → post h f (.error e)) :
    mwp (fun _ => True) h f m post := by
  apply mwp_mono (aside h f)
  intro h' f' x ended
  obtain ⟨⟨t, rfl, looking⟩, e, rfl, other⟩ := ended
  refine stop _ _ _ (since.append t) (.other (ends.aside looking) _ ?_)
  exact failing_other ⟨e, rfl, other⟩

theorem checkWritable_ready {offset : ℤ} {port cancel : BitVec 16}
    (since : Since h₁ h) (ends : EndsPlain h) (fresh : f.completed = false) :
    mwp (fun _ => True) h f (checkWritable written offset (.ready port cancel))
      (fun h' f' x => Since h₁ h' ∧
      match x with
      | .ok _ => f'.completed = false
      | .error e => BodyEnd written h' f'.completed (.error e)) := by
  have stop {m : Call Unit} (aside : Aside m Failing) : mwp (fun _ => True) h f m
      (fun h' f' x => Since h₁ h' ∧
      match x with
      | .ok _ => f'.completed = false
      | .error e => BodyEnd written h' f'.completed (.error e)) :=
    mwp_aside written aside since ends fun _ _ _ since ended => ⟨since, ended⟩
  unfold checkWritable
  dsimp only
  split
  · exact stop (.bind .complete fun _ => closedOrCancelled_aside)
  split
  · exact Method.mwp_pure.mpr ⟨since, fresh⟩
  split
  · exact stop (.bind .complete fun _ => .raise ⟨_, rfl, rfl⟩)
  split
  · exact stop (.bind .complete fun _ => closedOrCancelled_aside)
  · exact stop (.bind .complete fun _ => .raise ⟨_, rfl, rfl⟩)

/-- One round either goes on or ends with its last event. -/
theorem writeRound_ended {endTime : Option Timespec} {offset : ℤ} (since : Since h₁ h)
    (fresh : f.completed = false) :
    mwp (fun _ => True) h f (writeRound s endTime written offset)
      (Method.again (fun h' f' _ => Since h₁ h' ∧ f'.completed = false)
        (fun h' f' x => Since h₁ h' ∧ BodyEnd written h' f'.completed x)) := by
  have stop {h : History posix} {f : Frame} {m : Call (ℤ ⊕ ℤ)}
      (since : Since h₁ h) (ends : EndsPlain h) (aside : Aside m Failing) :
        mwp (fun _ => True) h f m (Method.again (fun h' f' _ => Since h₁ h' ∧ f'.completed = false)
          (fun h' f' x => Since h₁ h' ∧ BodyEnd written h' f'.completed x)) :=
    mwp_aside written aside since ends fun _ _ _ since ended =>
      Method.again_error.mpr ⟨since, ended⟩
  simp only [writeRound, Method.mwp_bind]
  apply mwp_mono (pollForWrite_awaited endTime since fresh)
  intro h f x polled
  obtain ⟨since, fresh, awaited⟩ := polled
  rcases x with e | nee | result
  · exact ⟨since, awaited⟩
  · exact stop since awaited (pollWriteFailed_aside s nee offset)
  simp only [Method.rest_ok, Method.mwp_bind]
  cases result with
  | timeout =>
      obtain ⟨t, direction, timeout, rfl⟩ := awaited
      simp only [checkWritable, Method.mwp_bind, mwp_complete, Method.rest_ok,
        Method.mwp_raise, Method.rest_error, Method.again_error]
      exact ⟨since, .waited t direction timeout⟩
  | ready port cancel =>
      apply mwp_mono (checkWritable_ready since awaited fresh)
      intro h f x checked
      obtain ⟨since, checked⟩ := checked
      cases x with
      | error e => exact ⟨since, checked⟩
      | ok u =>
          simp only [Method.rest_ok, Method.mwp_bind, mwp_write, true_and]
          constructor
          · intro k
            simp only [Method.mwp_locals, Method.rest_ok]
            split
            · exact Method.mwp_pure.mpr ⟨since.append _, checked⟩
            · simp only [Method.mwp_bind, mwp_complete, Method.rest_ok,
                Method.mwp_pure, Method.again_done]
              have ends : EndsPlain (h ++ [⟨.write f.buffer.pending, .ok k⟩]) :=
                endsPlain_snoc h trivial
              exact ⟨since.append _, .other ends _ (by simp)⟩
          · intro nee
            have ends : EndsPlain (h ++ [⟨.write f.buffer.pending, .error nee⟩]) :=
              endsPlain_snoc h trivial
            exact stop (since.append _) ends (writeFailed_aside s nee offset)

/-- How the whole call ends. -/
inductive Concluded : History posix → Except JavaException ℤ → Prop
  | late {h : History posix} (late : Late h) : Concluded h (.error (.timeoutIOException 0))
  | waited {h₁ h : History posix} (clean : ∀ ev ∈ h₁, ev.1 ≠ .begin) (since : Since h₁ h)
      (waited : WaitedOut h) :
      Concluded h (.error (.timeoutIOException (sent h₁).length))
  | other {h : History posix} {x : Except JavaException ℤ} (early : ¬Late h) (ready : ¬WaitedOut h)
      (none : ∀ n message, x ≠ .error (.timeoutIOException n message)) : Concluded h x

/-- A call that has not asked for an interruption has not come to its loop's end. -/
theorem concluded_before {x : Except JavaException ℤ} (before : ∀ ev ∈ h, ev.1 ≠ .interrupted)
    (none : ∀ n message, x ≠ .error (.timeoutIOException n message)) : Concluded h x := by
  refine .other ?_ ?_ none
  · rintro ⟨t, now, rfl⟩
    exact before ⟨.interrupted, false⟩ (by simp) rfl
  · rintro ⟨t, direction, timeout, rfl⟩
    exact before ⟨.interrupted, false⟩ (by simp) rfl

theorem Late.last (late : Late h) : h.getLast? = some ⟨.channelClosed, false⟩ := by
  obtain ⟨t, now, rfl⟩ := late
  simp

theorem WaitedOut.last (waited : WaitedOut h) : h.getLast? = some ⟨.interrupted, false⟩ := by
  obtain ⟨t, direction, timeout, rfl⟩ := waited
  simp

theorem not_late {t : History posix} {ev : Event posix} (other : ev ≠ ⟨.channelClosed, false⟩) :
    ¬Late (t ++ [ev]) := by
  intro late
  have last := late.last
  rw [List.getLast?_concat, Option.some.injEq] at last
  exact other last

theorem not_waitedOut {t : History posix} {ev : Event posix} (other : ev ≠ ⟨.interrupted, false⟩) :
    ¬WaitedOut (t ++ [ev]) := by
  intro waited
  have last := waited.last
  rw [List.getLast?_concat, Option.some.injEq] at last
  exact other last

theorem late_after {t : History posix} {ev : Event posix} {r r' : Bool}
    (late : Late (t ++ [ev] ++ [⟨.interrupted, r⟩] ++ [⟨.channelClosed, r'⟩])) : ¬Plain ev := by
  obtain ⟨t', now, same⟩ := late
  simp only [List.append_assoc, List.cons_append, List.nil_append] at same
  cases (List.append_inj' same rfl).2
  exact id

theorem waitedOut_after {t : History posix} {ev : Event posix} {r : Bool}
    (waited : WaitedOut (t ++ [ev] ++ [⟨.interrupted, r⟩])) : ¬Plain ev := by
  obtain ⟨t', direction, timeout, same⟩ := waited
  simp only [List.append_assoc, List.cons_append, List.nil_append] at same
  cases (List.append_inj' same rfl).2
  exact id

/-- The answers that let the outcome of the loop pass. -/
def passed (h : History posix) : Bool → History posix
  | true => h ++ [⟨.interrupted, false⟩]
  | false => h ++ [⟨.interrupted, false⟩] ++ [⟨.channelClosed, false⟩]

theorem endBlocking_passes {post : History posix → Except JavaException ℤ → Prop}
    (other : ∀ h' e, ¬Late h' → ¬WaitedOut h' → (∀ n message, e ≠ .timeoutIOException n message) →
    post h' (.error e)) (pass : post (passed h f.completed) x) :
    mwp (fun _ => True) h f endBlocking (settle (fun h' _ x => post h' x) x) := by
  simp only [endBlocking, isInterrupted, isClosed, Method.mwp_bind, Method.mwp_locals,
    Method.rest_ok, mwp_ask, true_and]
  intro interrupted
  cases interrupted with
  | true => exact Method.mwp_raise.mpr (other _ _
      (not_late (by simp)) (not_waitedOut (by simp)) (by simp))
  | false =>
      cases completed : f.completed with
      | true =>
          rw [completed] at pass
          exact Method.mwp_pure.mpr pass
      | false =>
          rw [completed] at pass
          simp only [Method.rest_ok, Bool.false_eq_true, if_false,
            Method.mwp_bind, mwp_ask, true_and]
          intro closed
          cases closed with
          | true => exact Method.mwp_raise.mpr (other _ _
              (not_late (by simp)) (not_waitedOut (by simp)) (by simp))
          | false => exact Method.mwp_pure.mpr pass

/-- `end(completed)` after the loop: unless it throws itself, its questions tell
how the loop ended. -/
theorem endBlocking_concluded (clean : ∀ ev ∈ h₁, ev.1 ≠ .begin) (since : Since h₁ h)
    (ended : BodyEnd (sent h₁).length h f.completed x) :
    mwp (fun _ => True) h f endBlocking (settle (fun h' _ x => Concluded h' x) x) := by
  apply endBlocking_passes
  · intro h' e early ready none
    exact .other early ready fun n message same => none n message (by cases same; rfl)
  obtain ⟨buffer, completed⟩ := f
  cases ended with
  | late t now => exact .late ⟨t, now, by simp [passed]⟩
  | waited t direction timeout =>
      exact .waited clean (since.append _) ⟨t, direction, timeout, List.append_assoc t _ _⟩
  | other ends completed none =>
      obtain ⟨t, ev, rfl, plain⟩ := ends
      cases completed with
      | true => exact .other (not_late (by simp)) (fun waited => waitedOut_after waited plain) none
      | false => exact .other (fun late => late_after late plain) (not_waitedOut (by simp)) none

/-- Before the loop begins: neither `begin` nor a question of `end` has been asked. -/
def Beforehand (h : History posix) : Prop := ∀ ev ∈ h, ev.1 ≠ .begin ∧ ev.1 ≠ .interrupted

theorem beforehand_nil : Beforehand [] := fun _ member => absurd member List.not_mem_nil

theorem Beforehand.snoc (before : Beforehand h) {ev : Event posix}
    (other : ev.1 ≠ .begin ∧ ev.1 ≠ .interrupted) :
    Beforehand (h ++ [ev]) := by
  intro ev' member
  rcases List.mem_append.mp member with old | new
  · exact before ev' old
  · rwa [List.mem_singleton.mp new]

theorem Beforehand.concluded (before : Beforehand h) {x : Except JavaException ℤ}
    (none : ∀ n message, x ≠ .error (.timeoutIOException n message)) : Concluded h x :=
  concluded_before (fun ev member => (before ev member).2) none

theorem continueWrite_concluded (before : Beforehand h) (number : written = (sent h).length) :
    mwp (fun _ => True) h f (continueWrite s written) (fun h' _ x => Concluded h' x) := by
  have loop {h : History posix} {f : Frame} {endTime : Option Timespec} (before : Beforehand h)
      (number : written = (sent h).length) :
      mwp (fun _ => True) h f (blocking (iterate (writeRound s endTime written) written))
        (fun h' _ x => Concluded h' x) := by
    refine mwp_blocking trivial ?_
    have looped : mwp (fun _ => True) (h ++ [⟨.begin, ()⟩]) { f with completed := false }
        (iterate (writeRound s endTime written) written)
        (fun h' f' x => Since h h' ∧ BodyEnd written h' f'.completed x) :=
      mwp_iterate (fun h' f' _ => Since h h' ∧ f'.completed = false) ⟨⟨[], rfl⟩, rfl⟩
        fun h' f' offset here => writeRound_ended here.1 here.2
    apply mwp_mono looped
    intro h' f' x ended
    subst number
    exact endBlocking_concluded (fun ev member => (before ev member).1) ended.1 ended.2
  simp only [continueWrite, deadline, Method.mwp_bind]
  split
  · exact Method.mwp_pure.mpr (loop before number)
  · simp only [clock_gettime, Method.mwp_bind, mwp_ask, true_and]
    intro now
    have before : Beforehand (h ++ [⟨.clockGettime, now⟩]) := before.snoc ⟨by simp, by simp⟩
    cases now with
    | ok now => exact Method.mwp_pure.mpr (loop before (by simpa using number))
    | error nee => exact Method.mwp_raise.mpr (before.concluded (by simp))

theorem writeRefused_concluded (nee : Errno) (before : Beforehand h) :
    mwp (fun _ => True) h f (writeRefused s nee : Call ℤ) (fun h' _ x => ∃ e, x = .error e ∧
      Concluded h' (.error e)) := by
  apply mwp_mono (writeRefused_aside s nee h f)
  intro h' f' x ended
  obtain ⟨⟨t, rfl, looking⟩, e, rfl, other⟩ := ended
  refine ⟨e, rfl, Beforehand.concluded ?_ (failing_other ⟨e, rfl, other⟩)⟩
  intro ev member
  rcases List.mem_append.mp member with old | new
  · exact before ev old
  · have looks := looking ev new
    constructor <;> intro same <;> rw [same] at looks <;> cases looks

/-- The first attempt is part of neither the deadline nor the loop. -/
theorem attempted (before : Beforehand h) (bytes : List UInt8)
    (r : Except Errno (Fin (bytes.length + 1))) :
    Beforehand (h ++ [⟨.write bytes, r⟩]) := before.snoc ⟨by simp, by simp⟩

theorem attempt_number {bytes : List UInt8} (k : Fin (bytes.length + 1)) :
    ((k.val : ℕ) : ℤ) = (sent [⟨.write bytes, .ok k⟩]).length := by
  have := k.isLt
  simp only [sent_cons, sent_nil, accepted, List.append_nil, List.length_take, Int.ofNat_inj]
  omega

/-- A first half either hands on what it has written, or the call is over with it. -/
def Attempted (h : History posix) : Except JavaException ℤ → Prop
  | .ok written => Beforehand h ∧ written = (sent h).length
  | .error e => Concluded h (.error e)

theorem startWrite_attempted :
    mwp (fun _ => True) [] f (startWrite s) (fun h' _ x => Attempted h' x) := by
  have before := beforehand_nil
  simp only [startWrite, Method.mwp_bind, Method.mwp_locals, Method.rest_ok]
  split
  · simp only [Method.mwp_bind, mwp_write, true_and]
    constructor
    · intro k
      have here : Attempted _ (.ok (k.val : ℤ)) :=
        ⟨attempted before f.buffer.pending (.ok k), attempt_number k⟩
      exact Method.rest_ok.mpr (Method.mwp_pure.mpr here)
    · intro nee
      simp only [Method.rest_ok]
      split
      · have here : Attempted _ (.ok 0) := ⟨attempted before f.buffer.pending (.error nee), rfl⟩
        exact Method.mwp_pure.mpr here
      · apply mwp_mono (writeRefused_concluded nee (attempted before f.buffer.pending (.error nee)))
        intro h' f' x refused
        obtain ⟨e, rfl, concluded⟩ := refused
        exact concluded
  · have here : Attempted _ (.ok 0) := ⟨before, rfl⟩
    exact Method.mwp_pure.mpr here

theorem write_concluded :
    mwp (fun _ => True) [] f (Jnhw.write s) (fun h' _ x => Concluded h' x) := by
  have before := beforehand_nil
  simp only [Jnhw.write, Method.mwp_bind, Method.mwp_locals, Method.rest_ok]
  split
  · simp only [Method.mwp_bind, mwp_write, true_and]
    constructor
    · intro k
      simp only [Method.rest_ok, Method.mwp_bind, Method.mwp_locals]
      split
      · exact continueWrite_concluded (attempted before f.buffer.pending (.ok k)) (attempt_number k)
      · exact Method.mwp_pure.mpr ((attempted before f.buffer.pending (.ok k)).concluded (by simp))
    · intro nee
      simp only [Method.rest_ok]
      split
      · exact continueWrite_concluded (attempted before f.buffer.pending (.error nee)) rfl
      · apply mwp_mono (writeRefused_concluded nee (attempted before f.buffer.pending (.error nee)))
        intro h' f' x refused
        obtain ⟨e, rfl, concluded⟩ := refused
        exact concluded
  · exact Method.mwp_pure.mpr (before.concluded (by simp))

theorem startAndContinueWrite_concluded :
    mwp (fun _ => True) [] f (startAndContinueWrite s) (fun h' _ x => Concluded h' x) := by
  simp only [startAndContinueWrite, Method.mwp_bind]
  apply mwp_mono startWrite_attempted
  intro h' f' x started
  cases x with
  | error e => exact started
  | ok written =>
      simp only [Method.rest_ok, Method.mwp_bind, Method.mwp_locals]
      split
      · exact continueWrite_concluded started.1 started.2
      · exact Method.mwp_pure.mpr (started.1.concluded (by simp))

end Ends

/-- Both ways hand over a first part of the buffer. -/
theorem Writing.call_wrote (w : Writing) (s : Socket) (f : Frame) :
    mwp (InOrder [] f.buffer) [] f (w.call s) (fun h' f' _ =>
      ∃ n, Handed [] f.buffer n h' f'.buffer) := by
  cases w with
  | write => exact mwp_mono write_wrote fun h' f' x wrote => ⟨wrote.choose, wrote.choose_spec.1⟩
  | startAndContinueWrite =>
      simp only [Writing.call, Jnhw.startAndContinueWrite, Method.mwp_bind]
      apply mwp_mono startWrite_started
      intro h' f' x started
      obtain ⟨n, handed, number⟩ := started
      cases x with
      | error e => exact ⟨n, handed⟩
      | ok written =>
          simp only [Method.rest_ok, Method.mwp_bind, Method.mwp_locals]
          split
          · rw [number written rfl]
            apply mwp_mono (continueWrite_wrote handed)
            intro h'' f'' x wrote
            exact ⟨wrote.choose, wrote.choose_spec.1⟩
          · exact Method.mwp_pure.mpr ⟨n, handed⟩

theorem Writing.call_concluded (w : Writing) (s : Socket) (f : Frame) :
    mwp (fun _ => True) [] f (w.call s) (fun h' _ x => Concluded h' x) := by
  cases w with
  | write => exact write_concluded
  | startAndContinueWrite => exact startAndContinueWrite_concluded

theorem sent_since {h₁ h : History posix} (clean : ∀ ev ∈ h₁, ev.1 ≠ .begin) (since : Since h₁ h) :
    sent h = sent h₁ ++ sent (looped h) := by
  obtain ⟨t, rfl⟩ := since
  have rest : looped (h₁ ++ ⟨.begin, ()⟩ :: t) = t := by
    rw [looped, List.dropWhile_append_of_pos (by simpa using clean)]
    rfl
  rw [rest, sent_append, sent_cons]
  rfl

/-- Of the two places that throw a timeout the one reports nothing, the other the first attempt. -/
theorem Concluded.reports_iff {b₀ : ByteBuffer} {h : History posix} {f : Frame}
    {x : Except JavaException ℤ} (concluded : Concluded h x)
    (position : (f.buffer.position : ℤ) = b₀.position + (sent h).length) :
    ReportsProgress b₀ h f x ↔ Foreseen h := by
  have reports_iff {m : ℤ} {message : Option String} :
      ReportsProgress b₀ h f (.error (.timeoutIOException m message)) ↔ m = (sent h).length := by
    constructor
    · intro reports
      exact (reports m message rfl).1
    · intro same n message' thrown
      cases thrown
      exact ⟨same, by rw [same, position]⟩
  cases concluded with
  | late late =>
      have ready : ¬WaitedOut h := fun waited => by cases late.last.symm.trans waited.last
      rw [reports_iff]
      constructor
      · intro same
        refine ⟨fun _ => ?_, fun waited => absurd waited ready⟩
        exact List.length_eq_zero_iff.mp (by omega)
      · intro foreseen
        rw [foreseen.deadline late]
        rfl
  | @waited h₁ _ clean since waited =>
      have early : ¬Late h := fun late => by cases late.last.symm.trans waited.last
      have split := sent_since clean since
      rw [reports_iff, split, List.length_append]
      constructor
      · intro same
        refine ⟨fun late => absurd late early, fun _ => ?_⟩
        exact List.length_eq_zero_iff.mp (by omega)
      · intro foreseen
        rw [foreseen.wait waited, List.length_nil, Nat.add_zero]
  | other early ready none =>
      refine iff_of_true (fun n message thrown => absurd thrown (none n message)) ?_
      exact ⟨fun late => absurd late early, fun waited => absurd waited ready⟩

/-- In every run of a write, a timeout reports what has been accepted exactly if it is foreseen. -/
theorem write_reports_iff (w : Writing) (s : Socket) (f : Frame) {h : History posix}
    {x : Except JavaException ℤ} {f' : Frame} (run : Program.Returns (w.call s f) h (x, f')) :
    ReportsProgress f.buffer h f' x ↔ Foreseen h := by
  have wrote : ∃ n, Handed [] f.buffer n h f'.buffer := wp_returns (w.call_wrote s f) run
  have concluded : Concluded h x := wp_returns (w.call_concluded s f) run
  obtain ⟨n, handed⟩ := wrote
  apply concluded.reports_iff
  have number : (sent h).length = n := by
    rw [handed.sent, sent_nil, List.nil_append, List.length_take, ByteBuffer.pending_length]
    exact Nat.min_eq_left handed.fits
  rw [handed.buffer, number, ByteBuffer.advance_position f.buffer handed.fits]
  exact Int.natCast_add f.buffer.position n

/-- A wait that times out before the loop has written anything reports the first attempt. -/
theorem write_reports_first : ∃ h f', Program.Returns
      (Writing.startAndContinueWrite.call
        { Socket.new "/dev/ttyUSB0" with pollWriteTimeout := 1000 }
        ⟨ByteBuffer.wrap [1, 2], false⟩) h (.error (.timeoutIOException 1), f') ∧
    ReportsProgress (ByteBuffer.wrap [1, 2]) h f' (.error (.timeoutIOException 1)) := by
  have run : Program.Returns (Writing.startAndContinueWrite.call
      { Socket.new "/dev/ttyUSB0" with pollWriteTimeout := 1000 } ⟨ByteBuffer.wrap [1, 2], false⟩)
      [⟨.write [1, 2], .ok 1⟩, ⟨.clockGettime, .ok ⟨0, 0⟩⟩, ⟨.begin, ()⟩,
        ⟨.clockGettime, .ok ⟨0, 0⟩⟩, ⟨.poll .write 1000, .ok .timeout⟩, ⟨.interrupted, false⟩]
        (.error (.timeoutIOException 1), _) :=
    Program.replay_sound 20 rfl
  refine ⟨_, _, run, (write_reports_iff _ _ _ run).mpr ⟨fun late => ?_, fun _ => rfl⟩⟩
  cases late.last

/-- The deadline passes after one of two bytes has been accepted. -/
theorem write_forgets :
    ¬∀ (w : Writing) (s : Socket) (f : Frame) (h : History posix) (x : Except JavaException ℤ)
    (f' : Frame), Program.Returns (w.call s f) h (x, f') → ReportsProgress f.buffer h f' x := by
  intro reports
  have run : Program.Returns
      (Writing.write.call { Socket.new "/dev/ttyUSB0" with pollWriteTimeout := 1000 }
      ⟨ByteBuffer.wrap [1, 2], false⟩) [⟨.write [1, 2], .ok 1⟩, ⟨.clockGettime, .ok ⟨0, 0⟩⟩,
        ⟨.begin, ()⟩, ⟨.clockGettime, .ok ⟨3, 0⟩⟩, ⟨.interrupted, false⟩, ⟨.channelClosed, false⟩]
        (.error (.timeoutIOException 0), _) :=
    Program.replay_sound 20 rfl
  exact absurd (reports _ _ _ _ _ _ run 0 none rfl).1 (by decide)

end Spsw.Jnhw

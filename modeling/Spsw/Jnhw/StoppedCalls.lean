import Spsw.Jnhw.Read
import Spsw.Jnhw.Write

/-!
# Calls that are stopped by closing

A call learns that its socket is closed from the cancel event, from a system call that
has found no open descriptor, or from the field. Where the field stays cleared once a
call can know of it, `read(ByteBuffer)` and `write(ByteBuffer)` end as the closing of a
channel demands.
-/
namespace Spsw.Jnhw.CloseProtocol
open Interaction
open Interaction.Method (mwp mwp_mono mwp_iterate mwp_tryFinally locals assign
  raise iterate settle again)

/-- A read or write has found no open descriptor. -/
def refuses : Event posix → Bool
  | ⟨.read _, .error .EBADF⟩ | ⟨.write _, .error .EBADF⟩ => true
  | _ => false

/-- A `poll` reports the cancel event. -/
def cancels : Event posix → Bool
  | ⟨.poll _ _, .ok (.ready _ cancel)⟩ => decide (cancel = POLLIN)
  | _ => false

/-- The field has been found cleared. -/
def finds : Event posix → Bool
  | ⟨.fdIsInvalid, invalid⟩ => invalid
  | _ => false

def Refused (h : History posix) : Prop := ∃ ev ∈ h, refuses ev = true

def Cancelled (h : History posix) : Prop := ∃ ev ∈ h, cancels ev = true

def Stopped (h : History posix) : Prop := Refused h ∨ Cancelled h

/-- A call that has been told of closing may rely on the field. -/
def Revealed (h : History posix) : Prop := Stopped h ∨ ∃ ev ∈ h, finds ev = true

/-- What may come next: the field stays cleared, and the port is open until the cancel
event is there. -/
def Fits (h : History posix) : Event posix → Prop
  | ⟨.fdIsInvalid, invalid⟩ => Revealed h → invalid = true
  | ⟨.poll _ _, .ok (.ready port cancel)⟩ => cancel ≠ POLLIN → port &&& POLLNVAL ≠ POLLNVAL
  | _ => True

/-- What a call is told while its socket is being closed. -/
inductive Told : History posix → Prop
  | nil : Told []
  | snoc {h : History posix} {ev : Event posix} (told : Told h) (fits : Fits h ev) :
      Told (h ++ [ev])

section Histories
variable {h : History posix} {ev : Event posix}

theorem told_snoc : Told (h ++ [ev]) ↔ Told h ∧ Fits h ev := by
  constructor
  · intro told
    generalize same : h ++ [ev] = whole at told
    cases told with
    | nil => simp at same
    | snoc told fits =>
        obtain ⟨rfl, rfl⟩ := List.append_inj' same rfl |>.imp_right List.singleton_inj.mp
        exact ⟨told, fits⟩
  · exact fun both => .snoc both.1 both.2

theorem exists_mem_snoc {p : Event posix → Bool} :
    (∃ ev' ∈ h ++ [ev], p ev' = true) ↔ (∃ ev' ∈ h, p ev' = true) ∨ p ev = true := by
  simp only [List.mem_append, List.mem_singleton, or_and_right, exists_or, exists_eq_left]

@[simp] theorem refused_snoc : Refused (h ++ [ev]) ↔ Refused h ∨ refuses ev = true :=
  exists_mem_snoc

@[simp] theorem cancelled_snoc : Cancelled (h ++ [ev]) ↔ Cancelled h ∨ cancels ev = true :=
  exists_mem_snoc

theorem stopped_snoc : Stopped (h ++ [ev]) ↔ Stopped h ∨ refuses ev = true ∨ cancels ev = true := by
  simp only [Stopped, refused_snoc, cancelled_snoc]
  tauto

theorem revealed_snoc : Revealed (h ++ [ev]) ↔
    Revealed h ∨ refuses ev = true ∨ cancels ev = true ∨ finds ev = true := by
  simp only [Revealed, stopped_snoc, exists_mem_snoc, or_assoc, or_left_comm]

end Histories

/-- How a call may end: what it returns once it has seen the cancel event is in `A`. -/
def Ended {α : Type} (A : α → Prop) (h : History posix) : Except JavaException α → Prop
  | .ok a => ¬Refused h ∧ (Cancelled h → A a)
  | .error e => e ≠ .asynchronousCancelException ∧ (Stopped h → e.isAsynchronousClose = true)

/-- The part of a call ends so, where it starts from what `P` says. -/
def EndsIf {α : Type} (P : History posix → Prop) (A : α → Prop) (m : Call α) : Prop :=
  ∀ h f, (Told h → P h) → mwp (fun _ => True) h f m (fun h' _ x => Told h' → Ended A h' x)

def Running (h : History posix) : Prop := ¬Stopped h

abbrev Ends {α : Type} (A : α → Prop) (m : Call α) : Prop := EndsIf Running A m

/-- No value is returned by a part that has been stopped. -/
def Never {α : Type} (_ : α) : Prop := False

/-- The event tells nothing of closing. -/
def silent : Request → Bool
  | .write _ | .read _ | .poll _ _ | .fdIsInvalid => false
  | _ => true

section Rules
variable {α β : Type} {P : History posix → Prop} {A : α → Prop} {h : History posix}

theorem silent_stopped {e : Request} (quiet : silent e = true) (r : Answer e) :
    refuses ⟨e, r⟩ = false ∧ cancels ⟨e, r⟩ = false := by
  cases e with
  | write bytes => cases quiet
  | read room => cases quiet
  | poll d timeout => cases quiet
  | fdIsInvalid => cases quiet
  | _ => exact ⟨rfl, rfl⟩

theorem ended_silent {e : Request} (quiet : silent e = true) {r : Answer e}
    {x : Except JavaException α} :
    Ended A (h ++ [⟨e, r⟩]) x ↔ Ended A h x := by
  obtain ⟨refused, cancelled⟩ := silent_stopped quiet r
  cases x <;> simp [Ended, Stopped, refused, cancelled]

theorem running_snoc {ev : Event posix} (running : Running h) (goes : refuses ev = false)
    (on : cancels ev = false) :
    Running (h ++ [ev]) := by
  rw [Running, stopped_snoc, goes, on]
  simpa [Running] using running

theorem Running.returned (running : Running h) (a : α) : Ended A h (.ok a) :=
  ⟨fun refused => running (.inl refused), fun cancelled => absurd (.inr cancelled) running⟩

theorem Running.thrown (running : Running h) {e : JavaException}
    (other : e ≠ .asynchronousCancelException) :
    Ended A h (.error e) :=
  ⟨other, fun stopped => absurd stopped running⟩

/-- A part that has not been stopped goes on. -/
theorem running_of_ended {a : α} (ended : Ended Never h (.ok a)) : Running h := by
  rintro (refused | cancelled)
  · exact ended.1 refused
  · exact ended.2 cancelled

theorem ended_closed : Ended A h (.error .asynchronousCloseException) := ⟨by simp, fun _ => rfl⟩

namespace EndsIf

theorem pure (a : α) : Ends A (Pure.pure a) :=
  fun _ _ running => Method.mwp_pure.mpr fun told => (running told).returned a

theorem raise {e : JavaException} (other : e ≠ .asynchronousCancelException) :
    Ends A (Method.raise e) :=
  fun _ _ running => Method.mwp_raise.mpr fun told => (running told).thrown other

theorem locals : Ends Never (Method.locals : Call Frame) :=
  fun _ _ running => Method.mwp_locals.mpr fun told => (running told).returned _

theorem ask {e : Request} {out : Answer e → α} (quiet : silent e = true) :
    Ends Never (Jnhw.ask e out) := by
  refine fun h f running => mwp_ask.mpr fun r => ⟨trivial, fun told => ?_⟩
  exact (ended_silent quiet).mpr ((running (told_snoc.mp told).1).returned _)

/-- The field is read; a call that is not stopped goes on either way. -/
theorem fdIsInvalid : Ends Never Jnhw.fdIsInvalid := by
  refine fun h f running => mwp_ask.mpr fun r => ⟨trivial, fun told => ?_⟩
  exact (running_snoc (running (told_snoc.mp told).1) rfl rfl).returned _

end EndsIf

theorem EndsIf.bind {m : Call β} {next : β → Call α} (first : EndsIf P Never m)
    (rest : ∀ b, Ends A (next b)) :
    EndsIf P A (m >>= next) := by
  intro h f start
  apply Method.mwp_seq (first h f start)
  · exact fun _ _ _ ended => ended
  intro h' f' b ended
  exact rest b h' f' fun told => running_of_ended (ended told)

theorem EndsIf.complete_bind {next : Unit → Call α} (rest : ∀ u, EndsIf P A (next u)) :
    EndsIf P A (Jnhw.complete >>= next) := by
  intro h f start
  rw [Method.mwp_bind, mwp_complete]
  exact rest () h _ start

theorem EndsIf.iterate {τ : Type} {body : τ → Call (τ ⊕ α)}
    (round : ∀ t, Ends (Sum.elim Never A) (body t)) (t : τ) :
    Ends A (Method.iterate body t) := by
  intro h f start
  refine mwp_iterate (fun h' _ _ => Told h' → Running h') start fun h' f' t running => ?_
  apply mwp_mono (round t h' f' running)
  rintro h'' f'' (e | t' | a) ended
  · exact ended
  · exact fun told => running_of_ended (a := t') (ended told)
  · exact ended

/-- A part that goes on only where it finds the field set. -/
theorem endsIf_fdIsInvalid {m m' : Call α} (found : EndsIf Revealed A m) (set : Ends A m') :
    EndsIf (fun _ => True) A (do
      let invalid ← fdIsInvalid
      if invalid = true then m else m') := by
  intro h f _
  simp only [fdIsInvalid, Method.mwp_bind, mwp_ask, Method.rest_ok]
  intro invalid
  refine ⟨trivial, ?_⟩
  cases invalid with
  | true => exact found _ _ fun _ => revealed_snoc.mpr (.inr (.inr (.inr rfl)))
  | false =>
      refine set _ _ fun told => running_snoc (fun stopped => ?_) rfl rfl
      cases (told_snoc.mp told).2 (.inl stopped)

theorem closedOrCancelled_ends : EndsIf Revealed A (closedOrCancelled : Call α) := by
  intro h f revealed
  simp only [closedOrCancelled, Jnhw.fdIsInvalid, Method.mwp_bind, mwp_ask, Method.rest_ok]
  intro invalid
  refine ⟨trivial, ?_⟩
  cases invalid with
  | true => exact Method.mwp_raise.mpr fun _ => ended_closed
  | false =>
      refine Method.mwp_raise.mpr fun told => ?_
      obtain ⟨told, fits⟩ := told_snoc.mp told
      cases fits (revealed told)

theorem raise_closed_ends : EndsIf P A (Method.raise .asynchronousCloseException : Call α) :=
  fun _ _ _ => Method.mwp_raise.mpr fun _ => ended_closed

theorem formatMsg_ends (s : Socket) (nee : Errno) (text : String) :
    Ends Never (formatMsg s nee text) := by
  refine .bind .fdIsInvalid fun invalid => ?_
  split
  · exact .pure _
  · refine .bind (.ask rfl) fun valid => ?_
    split
    · exact .pure _
    · exact .pure _

theorem deadline_ends (timeout : ℤ) : Ends Never (deadline timeout) := by
  rw [deadline]
  split
  · exact .pure _
  · refine .bind (.ask rfl) fun now => ?_
    cases now with
    | ok now => exact .pure _
    | error nee => exact .raise (by simp)

/-- `end` leaves the outcome alone or throws what closing demands. -/
theorem endBlocking_ends {x : Except JavaException α} {f : Frame} (ended : Told h → Ended A h x) :
    mwp (fun _ => True) h f endBlocking (settle (fun h' _ x => Told h' → Ended A h' x) x) := by
  simp only [endBlocking, isInterrupted, isClosed, Method.mwp_bind, Method.mwp_locals,
    Method.rest_ok, mwp_ask]
  refine fun interrupted => ⟨trivial, ?_⟩
  have kept : Told (h ++ [⟨.interrupted, interrupted⟩]) →
    Ended A (h ++ [⟨.interrupted, interrupted⟩]) x :=
    fun told => (ended_silent (e := .interrupted) rfl).mpr (ended (told_snoc.mp told).1)
  split
  · exact Method.mwp_raise.mpr fun _ => ⟨by simp, fun _ => rfl⟩
  split
  · exact Method.mwp_pure.mpr kept
  simp only [Method.mwp_bind, mwp_ask, Method.rest_ok]
  refine fun closed => ⟨trivial, ?_⟩
  split
  · exact Method.mwp_raise.mpr fun _ => ended_closed
  · exact Method.mwp_pure.mpr fun told =>
      (ended_silent (e := .channelClosed) rfl).mpr (kept (told_snoc.mp told).1)

theorem blocking_ends {body : Call α} (ends : Ends A body) : Ends A (blocking body) := by
  intro h f running
  refine mwp_blocking trivial (mwp_mono (ends _ _ fun told => ?_) fun h' f' x ended =>
    endBlocking_ends ended)
  exact running_snoc (running (told_snoc.mp told).1) rfl rfl

end Rules
section Parts
variable {α : Type} {A : α → Prop} {P Q : History posix → Prop}

theorem EndsIf.weaken {m : Call α} (ends : EndsIf P A m) (stronger : ∀ h, Q h → P h) :
    EndsIf Q A m :=
  fun h f start => ends h f fun told => stronger h (start told)

theorem EndsIf.ite {c : Prop} [Decidable c] {m m' : Call α} (yes : c → EndsIf P A m)
    (no : ¬c → EndsIf P A m') :
    EndsIf P A (if c then m else m') := by
  split
  · next holds => exact yes holds
  · next fails => exact no fails

/-- The cancel event is seen by a call that nothing else has stopped. -/
def Noticed (h : History posix) : Prop := ¬Refused h ∧ Cancelled h

/-- The port has reported something, and is open. -/
def Ready (port : BitVec 16) (h : History posix) : Prop := Running h ∧ port &&& POLLNVAL ≠ POLLNVAL

/-- What a call knows by what `poll` has reported. -/
def Polled (h : History posix) : Except Errno PollResult → Prop
  | .ok (.ready port cancel) => (cancel = POLLIN → Noticed h) ∧ (cancel ≠ POLLIN → Ready port h)
  | _ => Running h

/-- The part waits, or throws before it does. -/
def Waits (m : Call (Except Errno PollResult)) : Prop :=
  ∀ h f, (Told h → Running h) → mwp (fun _ => True) h f m (fun h' _ x => Told h' → match x with
    | .ok result => Polled h' result
    | .error e => Ended A h' (.error e))

theorem poll_waits (d : Direction) (timeout : ℤ) : Waits (A := A) (poll d timeout) := by
  refine fun h f running => mwp_ask.mpr fun result => ⟨trivial, fun told => ?_⟩
  obtain ⟨before, fits⟩ := told_snoc.mp told
  have running : Running h := running before
  rcases result with nee | _ | ⟨port, cancel⟩
  · exact running_snoc running rfl rfl
  · exact running_snoc running rfl rfl
  constructor
  · rintro rfl
    refine ⟨fun refused => running (.inl ?_), cancelled_snoc.mpr (.inr rfl)⟩
    exact (refused_snoc.mp refused).resolve_right Bool.false_ne_true
  · intro other
    exact ⟨running_snoc running rfl (decide_eq_false other), fits other⟩

theorem Waits.bind {m : Call (Except Errno PollResult)} {next : Except Errno PollResult → Call α}
    (waits : Waits (A := A) m) (failed : ∀ nee, Ends A (next (.error nee)))
    (timeout : Ends A (next (.ok .timeout)))
    (cancelled : ∀ port, EndsIf Noticed A (next (.ok (.ready port POLLIN)))) (ready : ∀ port cancel,
    cancel ≠ POLLIN → EndsIf (Ready port) A (next (.ok (.ready port cancel)))) :
    Ends A (m >>= next) := by
  intro h f running
  rw [Method.mwp_bind]
  apply mwp_mono (waits h f running)
  rintro h' f' (e | nee | _ | ⟨port, cancel⟩) polled
  · exact polled
  · exact failed nee h' f' polled
  · exact timeout h' f' polled
  by_cases seen : cancel = POLLIN
  · subst seen
    exact cancelled port h' f' fun told => (polled told).1 rfl
  · exact ready port cancel seen h' f' fun told => (polled told).2 seen

/-- After a failed attempt only `EBADF` has stopped the call. -/
def Failed (nee : Errno) (h : History posix) : Prop := nee ≠ .EBADF → Running h

theorem read_bind {next : Except Errno ℕ → Call α} (obtains : ∀ k, Ends A (next (.ok k)))
    (fails : ∀ nee, EndsIf (Failed nee) A (next (.error nee))) : Ends A (Unistd.read >>= next) := by
  intro h f running
  simp only [Method.mwp_bind, mwp_read, Method.rest_ok]
  constructor
  · exact fun bytes =>
      ⟨trivial, obtains _ _ _ fun told => running_snoc (running (told_snoc.mp told).1) rfl rfl⟩
  · refine fun nee => ⟨trivial, fails nee _ _ fun told other =>
      running_snoc (running (told_snoc.mp told).1) ?_ rfl⟩
    cases nee <;> first | rfl | exact absurd rfl other

theorem write_bind {next : Except Errno ℕ → Call α} (accepts : ∀ k, Ends A (next (.ok k)))
    (fails : ∀ nee, EndsIf (Failed nee) A (next (.error nee))) :
    Ends A (Unistd.write >>= next) := by
  intro h f running
  simp only [Method.mwp_bind, mwp_write, Method.rest_ok]
  constructor
  · exact fun k => ⟨trivial, accepts _ _ _ fun told =>
      running_snoc (running (told_snoc.mp told).1) rfl rfl⟩
  · refine fun nee => ⟨trivial, fails nee _ _ fun told other =>
      running_snoc (running (told_snoc.mp told).1) ?_ rfl⟩
    cases nee <;> first | rfl | exact absurd rfl other

/-- `completed = true; throw` of something else than a cancellation. -/
theorem complete_raise {e : JavaException} (other : e ≠ .asynchronousCancelException) :
    Ends A (do complete; raise e : Call α) :=
  .complete_bind fun _ => .raise other

theorem complete_closed : EndsIf Revealed A (do complete; closedOrCancelled : Call α) :=
  .complete_bind fun _ => closedOrCancelled_ends

theorem noticed_closed : EndsIf Noticed A (do complete; closedOrCancelled : Call α) :=
  complete_closed.weaken fun _ noticed => .inl (.inr noticed.2)

theorem endsIf_any {m : Call α} (ends : EndsIf (fun _ => True) A m) : EndsIf P A m :=
  ends.weaken fun _ _ => trivial

end Parts

section Reading
variable {s : Socket} {A : ℤ → Prop}

theorem firstRead_ends : Ends Never firstRead := by
  refine read_bind (fun k => .pure _) fun nee =>
    endsIf_any (endsIf_fdIsInvalid raise_closed_ends ?_)
  refine .ite (fun _ => .pure _) fun _ => ?_
  exact .ite (fun _ => .raise (by simp)) fun _ => .raise (by simp)

theorem checkReadable_ends (port : BitVec 16) : EndsIf (Ready port) Never (checkReadable port) := by
  have running : ∀ h, Ready port h → Running h := fun _ ready => ready.1
  refine .ite (fun _ => EndsIf.weaken (.pure _) running) fun _ => ?_
  refine .ite (fun _ => (complete_raise (by simp)).weaken running) fun _ => ?_
  refine .ite (fun invalid => ?_) fun _ => ?_
  · exact fun h f ready => complete_closed h f fun told => absurd invalid (ready told).2
  · exact EndsIf.weaken (.complete_bind fun _ => .bind (.ask rfl) fun fds =>
      .raise (by simp)) running

theorem readFailed_ends {α : Type} {A : α → Prop} (nee : Errno) (message : String) :
    EndsIf (fun _ => True) A (readFailed nee message) := by
  refine endsIf_fdIsInvalid complete_closed ?_
  exact .ite (fun _ => complete_raise (by simp)) fun _ => complete_raise (by simp)

theorem readOn_ends (overallRead : ℤ) : Ends (Sum.elim Never A) (readOn overallRead) := by
  refine read_bind (fun k => .bind .locals fun frame => ?_) fun nee =>
    endsIf_any (readFailed_ends nee _)
  exact .ite (fun _ => .pure _) fun _ => .complete_bind fun _ => .pure _

theorem awaitFirst_ends : Ends (Sum.elim Never A) (awaitFirst s) := by
  refine (poll_waits _ _).bind (fun nee => ?_) ?_ (fun port => ?_) ?_
  · exact complete_raise (by simp)
  · exact complete_raise (by simp)
  · exact noticed_closed
  · intro port cancel other
    simp only [if_neg other]
    exact .bind (checkReadable_ends port) fun _ => readOn_ends 0

theorem pollForRead_waits {α : Type} {A : α → Prop} (endTime : Option Timespec) :
    Waits (A := A) (pollForRead s endTime) := by
  cases endTime with
  | none => exact poll_waits _ _
  | some endTime =>
      intro h f running
      simp only [pollForRead, clock_gettime, Method.mwp_bind, mwp_ask, Method.rest_ok]
      refine fun now => ⟨trivial, ?_⟩
      have running : Told (h ++ [⟨.clockGettime, now⟩]) → Running (h ++ [⟨.clockGettime, now⟩]) :=
        fun told => running_snoc (running (told_snoc.mp told).1) rfl rfl
      cases now with
      | error nee => exact Method.mwp_pure.mpr running
      | ok now =>
          by_cases elapsed : remainingTimeOut endTime now < 0
          · simp only [if_pos elapsed]
            exact Method.mwp_pure.mpr running
          · simp only [if_neg elapsed]
            exact poll_waits _ _ _ f running

theorem readRound_ends (endTime : Option Timespec) (overallRead : ℤ) :
    Ends (Sum.elim Never (· = -1)) (readRound s endTime overallRead) := by
  refine (pollForRead_waits endTime).bind (fun nee => ?_) ?_ (fun port => ?_) ?_
  · exact complete_raise (by simp)
  · exact .complete_bind fun _ => .pure _
  · exact .complete_bind fun _ h f noticed => Method.mwp_pure.mpr fun told =>
      ⟨(noticed told).1, fun _ => rfl⟩
  · intro port cancel other
    simp only [if_neg other]
    exact .bind (checkReadable_ends port) fun _ => readOn_ends overallRead

theorem continueRead_ends (nread : ℤ) : Ends (· = -1) (continueRead s nread) := by
  refine .bind (deadline_ends _) fun endTime => blocking_ends ?_
  intro h f running
  rw [Method.mwp_bind]
  have first : Ends (Sum.elim Never (· = -1)) (firstWait s nread) :=
    .ite (fun _ => awaitFirst_ends) fun _ => .pure _
  apply mwp_mono (first h f running)
  rintro h' f' (e | nread | a) ended
  · exact ended
  · exact EndsIf.iterate (readRound_ends endTime) nread h' f' fun told =>
      running_of_ended (a := nread) (ended told)
  · apply Method.rest_ok.mpr
    apply Method.mwp_pure.mpr
    exact ended

/-- `read(ByteBuffer)` returns only `-1` once it has seen the cancel event. -/
theorem read_ends (s : Socket) : Ends (· = -1) (read s) := by
  refine .bind .locals fun frame => .ite (fun _ => ?_) fun _ => .pure _
  refine .bind firstRead_ends fun nread => .bind .locals fun frame => ?_
  exact .ite (fun _ => continueRead_ends nread) fun _ => .pure _

end Reading

section Writing
variable {s : Socket}

theorem writeRefused_ends {α : Type} {A : α → Prop} (nee : Errno) :
    EndsIf (fun _ => True) A (writeRefused s nee) := by
  refine endsIf_fdIsInvalid raise_closed_ends (.ite (fun _ => .raise (by simp)) fun _ => ?_)
  exact .bind (formatMsg_ends _ _ _) fun message => .raise (by simp)

theorem writeFailed_ends {α : Type} {A : α → Prop} (nee : Errno) (offset : ℤ) :
    EndsIf (fun _ => True) A (writeFailed s nee offset) := by
  refine endsIf_fdIsInvalid complete_closed (.ite (fun _ => complete_raise (by simp)) fun _ => ?_)
  exact .bind (formatMsg_ends _ _ _) fun message => complete_raise (by simp)

theorem checkWritable_ready {written offset : ℤ} {port cancel : BitVec 16}
    (other : cancel ≠ POLLIN) :
    EndsIf (Ready port) Never (checkWritable written offset (.ready port cancel)) := by
  have running : ∀ h, Ready port h → Running h := fun _ ready => ready.1
  rw [checkWritable, if_neg other]
  refine .ite (fun _ => EndsIf.weaken (.pure _) running) fun _ => ?_
  refine .ite (fun _ => (complete_raise (by simp)).weaken running) fun _ => ?_
  refine .ite (fun invalid => ?_) fun _ => (complete_raise (by simp)).weaken running
  exact fun h f ready => complete_closed h f fun told => absurd invalid (ready told).2

theorem pollForWrite_waits {α : Type} {A : α → Prop} (endTime : Option Timespec) :
    Waits (A := A) (pollForWrite endTime) := by
  cases endTime with
  | none => exact poll_waits _ _
  | some endTime =>
      intro h f running
      simp only [pollForWrite, clock_gettime, Method.mwp_bind, mwp_ask, Method.rest_ok]
      refine fun now => ⟨trivial, ?_⟩
      have running : Told (h ++ [⟨.clockGettime, now⟩]) → Running (h ++ [⟨.clockGettime, now⟩]) :=
        fun told => running_snoc (running (told_snoc.mp told).1) rfl rfl
      cases now with
      | error nee => exact Method.mwp_pure.mpr running
      | ok now =>
          by_cases elapsed : remainingTimeOut endTime now < 0
          · simp only [if_pos elapsed]
            exact Method.mwp_raise.mpr fun told => (running told).thrown (by simp)
          · simp only [if_neg elapsed]
            exact poll_waits _ _ _ f running

theorem writeRound_ends (endTime : Option Timespec) (written offset : ℤ) :
    Ends (Sum.elim Never Never) (writeRound s endTime written offset) := by
  refine (pollForWrite_waits endTime).bind (fun nee => ?_)
    (.bind (complete_raise (by simp)) fun _ => ?_) (fun port => .bind noticed_closed fun _ => ?_)
    fun port cancel other => .bind (checkWritable_ready other) fun _ => ?_
  · exact .bind (formatMsg_ends _ _ _) fun message => complete_raise (by simp)
  -- what is left of the round is the same write, however the wait went
  all_goals
    refine write_bind (fun k => .bind .locals fun frame => ?_) fun nee =>
      endsIf_any (writeFailed_ends nee offset)
    exact .ite (fun _ => .pure _) fun _ => .complete_bind fun _ => .pure _

theorem continueWrite_ends (written : ℤ) : Ends Never (continueWrite s written) :=
  .bind (deadline_ends _) fun endTime =>
    blocking_ends (.iterate (writeRound_ends endTime written) written)

/-- `write(ByteBuffer)` returns nothing once it has seen the cancel event. -/
theorem write_ends (s : Socket) : Ends Never (write s) := by
  refine .bind .locals fun frame => .ite (fun _ => ?_) fun _ => .pure _
  refine write_bind (fun written => .bind .locals fun frame => ?_) fun nee => ?_
  · exact .ite (fun _ => continueWrite_ends written) fun _ => .pure _
  · refine .ite (fun again => ?_) fun _ => endsIf_any (writeRefused_ends nee)
    exact (continueWrite_ends 0).weaken fun _ failed => failed (again ▸ by simp)

end Writing

end Spsw.Jnhw.CloseProtocol

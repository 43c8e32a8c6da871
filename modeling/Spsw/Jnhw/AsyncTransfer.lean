import Spsw.Jnhw.Async
import Spsw.Jnhw.ReadBuffer

/-!
# What one asynchronous call transfers

Whatever the other calls do: at each of its locations a writing call has handed
over a first part of its buffer, and a reading call has put into its buffer what
it has taken from the descriptor.
-/
namespace Spsw.Jnhw.Async
open Interaction
open Interaction.Method (mwp mwp_mono)

/-- What the system calls of an operation keep to, after each of them. -/
def Ordered (b₀ : ByteBuffer) : Direction → History posix → Prop
  | .read, _ => True
  | .write, h => InOrder [] b₀ h

/-- A first half has returned `n`. -/
def Begun (b₀ : ByteBuffer) (h : History posix) (buf : ByteBuffer) (n : ℤ) : Direction → Prop
  | .read => Opening b₀ (observed h) ⟨buf, false⟩ n
  | .write => ∃ k : ℕ, n = k ∧ Handed [] b₀ k h buf

/-- The system calls of an operation are over, in the normal way if `complete`. -/
def Over (b₀ : ByteBuffer) (h : History posix) (buf : ByteBuffer) (complete : Prop) :
    Direction → Prop
  | .read => Filled b₀ (received h) buf
  | .write => ∃ k, Handed [] b₀ k h buf ∧ (complete → k = b₀.remaining)

variable {b₀ buf : ByteBuffer} {h : History posix} {d : Direction} {n : ℤ} {socket : Socket}

theorem Over.start (b₀ : ByteBuffer) (d : Direction) : Over b₀ [] b₀ False d := by
  cases d with
  | read => exact Filled.start b₀
  | write => exact ⟨0, Handed.start [] b₀, False.elim⟩

theorem Over.weaken {c c' : Prop} (done : Over b₀ h buf c d) (weaker : c' → c) :
    Over b₀ h buf c' d := by
  cases d with
  | read => exact done
  | write =>
      obtain ⟨k, handed, all⟩ := done
      exact ⟨k, handed, fun holds => all (weaker holds)⟩

/-- A first half that leaves nothing to do is the whole operation. -/
theorem Begun.whole (begun : Begun b₀ h buf n d) (full : ¬buf.hasRemaining = true) :
    Over b₀ h buf True d := by
  cases d with
  | read =>
      have filled := begun.reading.filled
      rwa [observed_bytes] at filled
  | write =>
      obtain ⟨k, -, handed⟩ := begun
      rw [Bool.not_eq_true, ByteBuffer.hasRemaining_false_iff] at full
      have remaining := handed.remaining
      have fits := handed.fits
      exact ⟨k, handed, fun _ => by omega⟩

/-- What holds when a first half has ended with `x`. -/
def AfterStart (b₀ : ByteBuffer) (d : Direction) (h : History posix) (f : Frame) :
    Except JavaException ℤ → Prop
  | .ok n => Begun b₀ h f.buffer n d
  | .error _ => Over b₀ h f.buffer False d

theorem startTransfer_begun :
    mwp (Ordered b₀ d) [] ⟨b₀, false⟩ (startTransfer socket d) (AfterStart b₀ d) := by
  cases d with
  | read =>
      change mwp (fun _ => True) [] ⟨b₀, false⟩ startRead _
      simp only [startRead, Method.mwp_bind, Method.mwp_locals, Method.rest_ok]
      split
      · apply mwp_mono firstRead_opening
        rintro h f (e | nread) opening
        · have filled := opening.filled
          rwa [observed_bytes] at filled
        · obtain ⟨⟨calm, filled, begun, opened, count, fed⟩, unbegun, waited⟩ := opening
          exact ⟨⟨calm, filled, begun, opened, count, fed⟩, unbegun, waited⟩
      · refine Method.mwp_pure.mpr
          ⟨⟨⟨rfl, rfl, rfl⟩, Filled.start b₀, rfl, rfl, rfl, rfl⟩, rfl, rfl⟩
  | write =>
      apply mwp_mono startWrite_started
      rintro h f (e | written) ⟨k, handed, count⟩
      · exact ⟨k, handed, False.elim⟩
      · exact ⟨k, count written rfl, handed⟩

theorem continueTransfer_over (begun : Begun b₀ h buf n d) :
    mwp (Ordered b₀ d) h ⟨buf, false⟩ (continueTransfer socket d n)
      (fun h f x => Over b₀ h f.buffer (x.isOk = true) d) := by
  cases d with
  | read =>
      change mwp (fun _ => True) h ⟨buf, false⟩ (continueRead socket n) _
      apply mwp_mono (continueRead_read begun)
      intro h f x read
      have filled := read.filled
      rwa [observed_bytes] at filled
  | write =>
      obtain ⟨k, rfl, handed⟩ := begun
      apply mwp_mono (continueWrite_wrote handed)
      rintro h f x ⟨m, handed, all⟩
      refine ⟨m, handed, fun ok => ?_⟩
      cases x with
      | ok count => exact (all count rfl).1
      | error e => cases ok

/-- What has to hold of a call's own system calls at each of its locations. -/
def Owes (b₀ : ByteBuffer) (d : Direction) (h : History posix) : Location → Prop
  | .called => h = []
  | .queued false _ buf | .acquiring buf => h = [] ∧ buf = b₀
  | .running .rest p =>
      wp (Ordered b₀ d) h p (fun h x => Over b₀ h x.2.buffer (x.1.isOk = true) d)
  | .running _ p => wp (Ordered b₀ d) h p (fun h x => AfterStart b₀ d h x.2 x.1)
  | .queued true start buf => Begun b₀ h buf start d
  | .releasing next => Owes b₀ d h next
  | .notifying x buf | .ended x buf => Over b₀ h buf (x.isOk = true) d

/-- The condition on a part that runs, as one condition on its end. -/
def AfterPart (b₀ : ByteBuffer) (d : Direction) (h : History posix) (f : Frame)
    (x : Except JavaException ℤ) : Part → Prop
  | .rest => Over b₀ h f.buffer (x.isOk = true) d
  | _ => AfterStart b₀ d h f x

theorem owes_running {part : Part} {p : Program posix (Except JavaException ℤ × Frame)} :
    Owes b₀ d h (.running part p) ↔
      wp (Ordered b₀ d) h p (fun h x => AfterPart b₀ d h x.2 x.1 part) := by
  cases part <;> exact Iff.rfl

theorem owes_proceed (begun : Begun b₀ h buf n d) : Owes b₀ d h (proceed socket d n buf) :=
  continueTransfer_over begun

/-- A form goes on as its call's transfers allow. -/
structure Faithful (socket : Socket) (d : Direction) (form : Form) : Prop where
  after : ∀ {b₀ h part x f}, AfterPart b₀ d h f x part → Owes b₀ d h (form.after part x f.buffer)
  resumed : ∀ {b₀ h start buf}, Begun b₀ h buf start d → Owes b₀ d h (form.run true start buf)
  waiting : ∀ start buf, form.run false start buf = .acquiring buf
  interrupted : ∀ buf, Owes buf d [] (form.interrupted buf)

/-- The test for bytes that remain decides between going on and being over. -/
theorem Begun.branch {l l' : Location} (begun : Begun b₀ h buf n d) (more : Owes b₀ d h l)
    (done : Over b₀ h buf (Except.isOk (.ok () : Except JavaException Unit) = true) d →
      Owes b₀ d h l') :
    Owes b₀ d h (if buf.hasRemaining = true then l else l') := by
  split
  · exact more
  · next full => exact done ((begun.whole full).weaken (fun _ => trivial))

theorem AfterPart.failed {part : Part} {f : Frame} {e : JavaException}
    (after : AfterPart b₀ d h f (.error e) part) (e' : JavaException) :
    Over b₀ h f.buffer (Except.isOk (.error e' : Except JavaException Unit) = true) d := by
  cases part with
  | caller => exact Over.weaken after (by rintro ⟨⟩)
  | task => exact Over.weaken after (by rintro ⟨⟩)
  | rest => exact after

theorem Over.interrupted (b₀ : ByteBuffer) (e : JavaException) (d : Direction) :
    Over b₀ [] b₀ (Except.isOk (.error e : Except JavaException Unit) = true) d :=
  (Over.start b₀ d).weaken (by rintro ⟨⟩)

theorem future_faithful (socket : Socket) (d : Direction) :
    Faithful socket d (future socket d) where
  after := by
    intro b₀ h part x f after
    rcases x with e | n
    · have failed := after.failed e
      cases part <;> exact failed
    · cases part with
      | caller =>
          change Owes b₀ d h (if f.buffer.hasRemaining = true then .queued true n f.buffer
            else .ended (.ok ()) f.buffer)
          exact Begun.branch after after id
      | task => exact Begun.branch after (owes_proceed after) id
      | rest => exact after
  resumed := owes_proceed
  waiting _ _ := rfl
  interrupted buf := Over.interrupted buf _ d

theorem readAsyncCallback_faithful (socket : Socket) :
    Faithful socket .read (readAsyncCallback socket) where
  after := by
    intro b₀ h part x f after
    rcases x with e | n
    · have failed := after.failed (asIOException e)
      cases part <;> exact failed
    · cases part with
      | caller => exact Begun.branch after after id
      | task => exact Begun.branch after (owes_proceed after) id
      | rest => exact after
  resumed begun := begun.branch (owes_proceed begun) id
  waiting _ _ := rfl
  interrupted buf := Over.interrupted buf _ .read

theorem writeAsyncCallback_faithful (socket : Socket) :
    Faithful socket .write (writeAsyncCallback socket) where
  after := by
    intro b₀ h part x f after
    rcases x with e | n
    · have failed := after.failed (asIOException e)
      cases part <;> exact failed
    · cases part with
      | caller => exact Begun.branch after after id
      | task => exact Begun.branch after (owes_proceed after) id
      | rest => exact after
  resumed := owes_proceed
  waiting _ _ := rfl
  interrupted buf := Over.interrupted buf _ .write

theorem form_faithful (socket : Socket) (c : AsyncCall) :
    Faithful socket c.direction (c.form socket) := by
  obtain ⟨kind, direction, buffer⟩ := c
  cases kind with
  | future => cases direction <;> exact future_faithful socket _
  | callback =>
      cases direction with
      | read => exact readAsyncCallback_faithful socket
      | write => exact writeAsyncCallback_faithful socket

variable {ι : Type} [DecidableEq ι] {calls : ι → AsyncCall} {s t : State ι}

/-- What every call owes, of its own system calls. -/
def AllOwe (calls : ι → AsyncCall) (s : State ι) : Prop :=
  ∀ j, Owes (calls j).buffer (calls j).direction (Guarded.own (s.log (calls j).direction) j)
    (s.location j)

theorem allOwe_goto {i : ι} {l : Location} (owe : AllOwe calls s)
    (next : Owes (calls i).buffer (calls i).direction
      (Guarded.own (s.log (calls i).direction) i) l) : AllOwe calls (s.goto i l) := by
  intro j
  by_cases same : j = i
  · subst same
    simpa [State.goto] using next
  · simpa [State.goto, same] using owe j

theorem record_other {i j : ι} {d d' : Direction} {ev : Event posix} (ne : j ≠ i) :
    Guarded.own ((s.record d i [ev]).log d') j = Guarded.own (s.log d') j := by
  by_cases same : d' = d
  · subst same
    rw [record_log, Guarded.own_append, List.map_singleton, Guarded.own_other ev (Ne.symm ne),
      List.append_nil]
  · simp [State.record, same]

theorem AllOwe.here {i : ι} {l : Location} (owe : AllOwe calls s) (here : s.location i = l) :
    Owes (calls i).buffer (calls i).direction (Guarded.own (s.log (calls i).direction) i) l := by
  rw [← here]
  exact owe i

theorem step_owe (owe : AllOwe calls s) (step : Step socket calls s t) : AllOwe calls t := by
  cases step with
  | tryAcquire i p here free =>
      apply allOwe_goto (s := s.setPermits (calls i).direction p) owe
      have now := owe.here here
      change Owes _ _ (Guarded.own (s.log (calls i).direction) i) _
      rw [show Guarded.own (s.log (calls i).direction) i = [] from now]
      exact startTransfer_begun
  | submit i here taken =>
      apply allOwe_goto owe
      have now := owe.here here
      exact ⟨now, rfl⟩
  | silent i here step =>
      apply allOwe_goto owe
      have now := owes_running.mp (owe.here here)
      exact owes_running.mpr (wp_silent now step)
  | @event i part p q ev here step =>
      have now := owes_running.mp (owe.here here)
      intro j
      by_cases same : j = i
      · subst same
        simpa [State.goto, owes_running] using (wp_event now step).2
      · have other := owe j
        simpa [State.goto, same, record_other same] using other
  | partEnded i here =>
      apply allOwe_goto owe
      have now := owes_running.mp (owe.here here)
      exact (form_faithful socket (calls i)).after (wp_pure.mp now)
  | @run i acquired start buf here =>
      apply allOwe_goto owe
      have now := owe.here here
      cases acquired with
      | false =>
          rw [(form_faithful socket (calls i)).waiting]
          exact now
      | true => exact (form_faithful socket (calls i)).resumed now
  | @acquire i p buf here free =>
      apply allOwe_goto (s := s.setPermits (calls i).direction p) owe
      have now := owe.here here
      obtain ⟨none, rfl⟩ := now
      change Owes _ _ (Guarded.own (s.log (calls i).direction) i) _
      rw [none]
      exact startTransfer_begun
  | @interrupt i buf here =>
      apply allOwe_goto owe
      have now := owe.here here
      obtain ⟨none, rfl⟩ := now
      rw [none]
      exact (form_faithful socket (calls i)).interrupted _
  | release i here =>
      apply allOwe_goto (s := s.setPermits (calls i).direction _) owe
      have now := owe.here here
      exact now
  | @accept i x buf here =>
      apply allOwe_goto (s := { s with callbacks := _ }) owe
      have now := owe.here here
      exact now

/-- What the system calls of every call keep to. -/
def AllOrdered (calls : ι → AsyncCall) (s : State ι) : Prop :=
  ∀ j, Ordered (calls j).buffer (calls j).direction (Guarded.own (s.log (calls j).direction) j)

theorem step_ordered (owe : AllOwe calls s) (ordered : AllOrdered calls s)
    (step : Step socket calls s t) : AllOrdered calls t := by
  cases step with
  | @event i part p q ev here step =>
      have now := owe i
      rw [here, owes_running] at now
      intro j
      by_cases same : j = i
      · subst same
        simpa [State.goto] using (wp_event now step).1
      · simpa [State.goto, record_other same] using ordered j
  | _ => exact ordered

theorem initial_owe (start : Initial s) : AllOwe calls s ∧ AllOrdered calls s := by
  constructor
  · intro j
    rw [start.location j, start.log]
    rfl
  · intro j
    rw [start.log]
    cases (calls j).direction with
    | read => trivial
    | write => exact (Handed.start [] _).inOrder

theorem run_owe {allowed : State ι → State ι → Prop}
    (within : ∀ s t, allowed s t → Step socket calls s t) (start : Initial s)
    (run : Relation.ReflTransGen allowed s t) : AllOwe calls t ∧ AllOrdered calls t := by
  induction run with
  | refl => exact initial_owe start
  | tail _ step ih =>
      have step := within _ _ step
      exact ⟨step_owe ih.1 step, step_ordered ih.1 ih.2 step⟩

end Spsw.Jnhw.Async

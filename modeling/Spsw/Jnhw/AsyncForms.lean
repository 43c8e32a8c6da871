import Spsw.Jnhw.AsyncPermits

/-!
# The four asynchronous methods

What each method keeps in every state that any number of its calls can reach:
the permits, the pieces of the log, the bytes and the callbacks.
-/
namespace Spsw.Jnhw.Async
open Interaction

variable {ι : Type} [DecidableEq ι] {calls : ι → AsyncCall} {s t : State ι} {socket : Socket}
  {bad : Location → Prop}

/-- What has been announced to the callbacks of a call at a location. -/
def Location.announced : Location → List (Except JavaException ByteBuffer)
  | .ended x buf => [x.map (fun _ => buf)]
  | _ => []

/-- The call is not over, and will not be before a callback has been called. -/
def Location.pending : Location → Prop
  | .ended _ _ => False
  | .releasing next => next.pending
  | _ => True

structure Announcing (form : Form) : Prop where
  after : ∀ part x f, (form.after part x f).pending
  run : ∀ acquired start buf, (form.run acquired start buf).pending
  interrupted : ∀ buf, (form.interrupted buf).pending

theorem pending_branch {buf : ByteBuffer} {l l' : Location} (more : l.pending) (done : l'.pending) :
    (if buf.hasRemaining = true then l else l').pending := by
  split
  · exact more
  · exact done

theorem readAsyncCallback_announcing (socket : Socket) : Announcing (readAsyncCallback socket) where
  after := by
    intro part x dst
    rcases x with e | n
    · cases part <;> trivial
    · cases part with
      | rest => trivial
      | _ => exact pending_branch trivial trivial
  run acquired start dst := by
    cases acquired with
    | false => trivial
    | true => exact pending_branch trivial trivial
  interrupted _ := trivial

/-- Every call has had exactly the callbacks of its location. -/
structure Answered (s : State ι) : Prop where
  callbacks : ∀ i, Guarded.own s.callbacks i = (s.location i).announced
  pending : ∀ i, (s.location i).pending ∨ ∃ x buf, s.location i = .ended x buf

theorem pending_announced {l : Location} (pending : l.pending) : l.announced = [] := by
  cases l with
  | ended x buf => exact pending.elim
  | _ => rfl

/-- A step that announces nothing, of a call that is not over. -/
theorem answered_goto {i : ι} {l : Location} (answered : Answered s) (here : (s.location i).pending)
    (next : l.pending) : Answered (s.goto i l) := by
  constructor
  · intro j
    by_cases same : j = i
    · subst same
      rw [goto_location, pending_announced next, ← pending_announced here]
      exact answered.callbacks j
    · simpa [State.goto, same] using answered.callbacks j
  · intro j
    by_cases same : j = i
    · subst same
      exact .inl (by rw [goto_location]; exact next)
    · simpa [State.goto, same] using answered.pending j

theorem step_answered (announcing : ∀ i, Announcing ((calls i).form socket)) (answered : Answered s)
    (step : Step socket calls s t) : Answered t := by
  cases step with
  | tryAcquire i p here free =>
      refine answered_goto (s := s.setPermits _ p) ⟨answered.callbacks, answered.pending⟩ ?_ trivial
      exact (congrArg Location.pending here).mpr trivial
  | submit i here taken =>
      exact answered_goto answered (by rw [here]; trivial) trivial
  | silent i here step => exact answered_goto answered (by rw [here]; trivial) trivial
  | @event i part p q ev here step =>
      refine answered_goto (s := s.record _ i [ev]) ⟨answered.callbacks,
        answered.pending⟩ ?_ trivial
      rw [record_location, here]
      trivial
  | partEnded i here =>
      exact answered_goto answered (by rw [here]; trivial) ((announcing i).after _ _ _)
  | run i here =>
      exact answered_goto answered (by rw [here]; trivial) ((announcing i).run _ _ _)
  | acquire i p here free =>
      refine answered_goto (s := s.setPermits _ p) ⟨answered.callbacks, answered.pending⟩ ?_ trivial
      exact (congrArg Location.pending here).mpr trivial
  | interrupt i here =>
      exact answered_goto answered (by rw [here]; trivial) ((announcing i).interrupted _)
  | @release i next here =>
      have pending : (s.location i).pending := by
        apply (answered.pending i).resolve_right
        rintro ⟨x, buf, done⟩
        rw [here] at done
        cases done
      refine answered_goto (s := s.setPermits _ _) ⟨answered.callbacks, answered.pending⟩ pending ?_
      rw [here] at pending
      exact pending
  | @accept i x buf here =>
      constructor
      · intro j
        by_cases same : j = i
        · subst same
          have none := answered.callbacks j
          rw [here] at none
          have none : Guarded.own s.callbacks j = [] := none
          simp [State.goto, none, Location.announced]
        · simpa [State.goto, same, Guarded.own_other _ (Ne.symm same)] using answered.callbacks j
      · intro j
        by_cases same : j = i
        · subst same
          exact .inr ⟨x, buf, goto_location _ _ _⟩
        · simpa [State.goto, same] using answered.pending j

theorem run_answered (announcing : ∀ i, Announcing ((calls i).form socket)) (start : Initial s)
    (run : Relation.ReflTransGen (Step socket calls) s t) : Answered t := by
  induction run with
  | refl =>
      constructor
      · intro i
        rw [start.callbacks, start.location i]
        rfl
      · intro i
        rw [start.location i]
        exact .inl trivial
  | tail _ step ih => exact step_answered announcing ih step

theorem own_wire (s : State ι) (i : ι) :
    Guarded.own (wire s) i = sent (Guarded.own (s.log .write) i) :=
  Guarded.own_expand accepted (s.log .write) i

theorem own_input (s : State ι) (i : ι) :
    Guarded.own (input s) i = received (Guarded.own (s.log .read) i) :=
  Guarded.own_expand obtained (s.log .read) i

/-- Where the log is in pieces, the bytes of each call are in order. -/
theorem run_inOrder {allowed : State ι → State ι → Prop}
    (within : ∀ s t, allowed s t → Step socket calls s t) (start : Initial s)
    (run : Relation.ReflTransGen allowed s t) {i : ι}
    (piece : Guarded.Contiguous (t.log (calls i).direction) i) : InOrderFor t i (calls i) := by
  obtain ⟨owe, ordered⟩ := run_owe within start run
  have owes := owe i
  have order := ordered i
  unfold InOrderFor
  generalize (calls i).direction = d at *
  cases d with
  | read =>
      refine ⟨piece.expand obtained, ?_⟩
      intro x buf ended
      rw [ended] at owes
      rw [own_input]
      exact owes
  | write =>
      refine ⟨piece.expand accepted, ?_, ?_⟩
      · obtain ⟨n, fits, eq⟩ := order
        exact ⟨n, fits, by rw [own_wire, eq, sent_nil, List.nil_append]⟩
      · intro buf ended
        rw [ended] at owes
        obtain ⟨n, handed, all⟩ := owes
        rw [own_wire, handed.sent, all rfl, sent_nil, List.nil_append, ← ByteBuffer.pending_length,
          List.take_length]

/-- Calls of the forms with a `Future`. -/
def futures (directions : ι → Direction) (buffers : ι → ByteBuffer) (i : ι) : AsyncCall :=
  ⟨.future, directions i, buffers i⟩

/-- Calls of `readAsync` with callbacks. -/
def callbackReads (dsts : ι → ByteBuffer) (i : ι) : AsyncCall := ⟨.callback, .read, dsts i⟩

/-- Calls of `writeAsync` with callbacks. -/
def callbackWrites (srcs : ι → ByteBuffer) (i : ι) : AsyncCall := ⟨.callback, .write, srcs i⟩

omit [DecidableEq ι] in
theorem futures_disciplined (socket : Socket) (directions : ι → Direction)
    (buffers : ι → ByteBuffer) (i : ι) :
    Disciplined ((futures directions buffers i).form socket) LeavesBytes := by
  unfold futures AsyncCall.form
  cases directions i with
  | read => exact future_disciplined socket .read
  | write => exact future_disciplined socket .write

section Methods
variable [Fintype ι]

/-- The forms with a `Future`: in every run in which no caller's thread leaves
bytes to its task, each semaphore counts the operations in progress, and the bytes
of each call are in one piece and in order. -/
theorem future_guards (directions : ι → Direction) (buffers : ι → ByteBuffer) (start : Initial s)
    (run : Relation.ReflTransGen (Careful socket (futures directions buffers) LeavesBytes) s t) :
    (∀ d, t.permits d + (inProgress (futures directions buffers) d t).card = 1 ∧
      (inProgress (futures directions buffers) d t).card ≤ 1) ∧
      ∀ i, InOrderFor t i (futures directions buffers i) := by
  have guards := fun d =>
    run_guards (d := d) (fun i _ => futures_disciplined socket directions buffers i) start run
  refine ⟨fun d => ?_, fun i => ?_⟩
  · have balance := (guards d).balance
    exact ⟨balance, by omega⟩
  · exact run_inOrder (fun _ _ careful => careful.1) start run ((guards _).pieces i)

end Methods

/-- Two calls that have not begun, with both permits free. -/
def fresh : State Bool := ⟨fun _ => 1, fun _ => .called, fun _ => [], []⟩

theorem fresh_initial : Initial fresh := ⟨fun _ => rfl, fun _ => rfl, fun _ => rfl, rfl⟩

/-- A buffer of two bytes, and one of a single byte. -/
def twoBuffers : Bool → ByteBuffer
  | false => ByteBuffer.wrap [1, 2]
  | true => ByteBuffer.wrap [3]

theorem start_both (k : Fin 3) :
    Program.Returns (startWrite (.new "ttyUSB0") ⟨ByteBuffer.wrap [1, 2], false⟩)
      [⟨.write [1, 2], .ok k⟩] (.ok k, ⟨(ByteBuffer.wrap [1, 2]).advance k, false⟩) :=
  Program.replay_sound 3 rfl

theorem start_single : Program.Returns (startWrite (.new "ttyUSB0") ⟨ByteBuffer.wrap [3], false⟩)
    [⟨.write [3], .ok 1⟩] (.ok 1, ⟨(ByteBuffer.wrap [3]).advance 1, false⟩) :=
  Program.replay_sound 3 rfl

theorem continue_second : Program.Returns
    (continueWrite (.new "ttyUSB0") 1 ⟨(ByteBuffer.wrap [1, 2]).advance 1, false⟩)
    [⟨.begin, ()⟩, ⟨.poll .write (-1), .ok (.ready POLLOUT 0)⟩, ⟨.write [2], .ok 1⟩,
      ⟨.interrupted, false⟩] (.ok 2, ⟨(ByteBuffer.wrap [1, 2]).advance 2, true⟩) :=
  Program.replay_sound 8 rfl

theorem future_guards_at_once : ∃ t : State Bool,
    (∀ d, t.permits d + (inProgress (futures (fun _ => .write) twoBuffers) d t).card = 1) ∧
      wire t = [(false, 1), (false, 2), (true, 3)] := by
  have first : Relation.ReflTransGen
      (Careful (.new "ttyUSB0") (futures (fun _ => .write) twoBuffers) LeavesBytes) fresh _ :=
    run_start (i := false) leavesBytes_end (start_both 2) rfl rfl
      (by rintro (_ | _) ne <;> exact id) id Bool.false_ne_true
  have given := first.tail (run_release (by rintro (_ | _) ne <;> exact id) id)
  have second := given.trans (run_start (i := true) leavesBytes_end start_single rfl rfl
    (by rintro (_ | _) ne; exacts [id, absurd rfl ne]) id Bool.false_ne_true)
  have run := second.tail (run_release (by rintro (_ | _) ne; exacts [id, absurd rfl ne]) id)
  exact ⟨_, fun d => ((future_guards (fun _ => .write) twoBuffers fresh_initial run).1 d).1, by rfl⟩

/-- A second `writeAsync` puts its byte between the two bytes of the first, and both
have given a permit back when they are over. -/
theorem future_interleaved : ∃ t : State Bool,
    Relation.ReflTransGen (Step (.new "ttyUSB0") (futures (fun _ => .write) twoBuffers)) fresh t ∧
      t.permits .write + (inProgress (futures (fun _ => .write) twoBuffers) .write t).card ≠ 1 ∧
      wire t = [(false, 1), (true, 3), (false, 2)] := by
  have aside : ∀ (s : State Bool) i, Aside (fun _ => False) s i := fun _ _ _ _ => id
  have first : Relation.ReflTransGen
      (Careful (.new "ttyUSB0") (futures (fun _ => .write) twoBuffers) (fun _ => False)) fresh _ :=
    run_start (i := false) never_end (start_both 1) rfl rfl (aside _ _) id id
  have given := first.tail (run_release (aside _ _) id)
  have second :=
    given.trans (run_start (i := true) never_end start_single rfl rfl (aside _ _) id id)
  have ended := second.tail (run_release (aside _ _) id)
  have rest :=
    ended.trans (run_rest (i := false) never_end continue_second rfl rfl (aside _ _) id id)
  exact ⟨_, steps_of_careful (rest.tail (run_release (aside _ _) id)), by decide, by rfl⟩

section Methods
variable [Fintype ι]

/-- `writeAsync` with callbacks: in every run in which no `continueWrite` returns,
the semaphore counts the operations in progress. -/
theorem writeAsyncCallback_guards (srcs : ι → ByteBuffer) (start : Initial s)
    (run : Relation.ReflTransGen (Careful socket (callbackWrites srcs) Continued) s t) :
    t.permits .write + (inProgress (callbackWrites srcs) .write t).card = 1 ∧
      (inProgress (callbackWrites srcs) .write t = ∅ → t.permits .write = 1) := by
  have disciplined : ∀ i, (callbackWrites srcs i).direction = .write →
      Disciplined ((callbackWrites srcs i).form socket) Continued :=
    fun _ _ => writeAsyncCallback_disciplined socket
  have balance := (run_guards disciplined start run).balance
  refine ⟨balance, fun none => ?_⟩
  rwa [none, Finset.card_empty] at balance

end Methods

theorem writeAsyncCallback_guards_at_once : ∃ t : State Bool,
    t.permits .write + (inProgress (callbackWrites twoBuffers) .write t).card = 1 ∧
      wire t = [(false, 1), (false, 2)] ∧
        t.callbacks = [(false, .ok ((ByteBuffer.wrap [1, 2]).advance 2))] := by
  have first : Relation.ReflTransGen
      (Careful (.new "ttyUSB0") (callbackWrites twoBuffers) Continued) fresh _ :=
    run_start (i := false) continued_end (start_both 2) rfl rfl (by rintro (_ | _) ne <;> exact id)
      id id
  have given := first.tail (run_release (by rintro (_ | _) ne <;> exact id) id)
  have run := given.tail ⟨.accept false (goto_location _ _ _), by rintro (_ | _) <;> exact id⟩
  exact ⟨_, (writeAsyncCallback_guards twoBuffers fresh_initial run).1, by rfl, by rfl⟩

/-- A `writeAsync` that is over, has had its callback and still has the permit. -/
theorem writeAsyncCallback_keeps : ∃ t : State Bool,
    Relation.ReflTransGen (Step (.new "ttyUSB0") (callbackWrites twoBuffers)) fresh t ∧
      t.permits .write + (inProgress (callbackWrites twoBuffers) .write t).card ≠ 1 ∧
      inProgress (callbackWrites twoBuffers) .write t = ∅ ∧ t.permits .write = 0 ∧
      t.callbacks = [(false, .ok ((ByteBuffer.wrap [1, 2]).advance 2))] := by
  have aside : ∀ (s : State Bool) i, Aside (fun _ => False) s i := fun _ _ _ _ => id
  have first : Relation.ReflTransGen (Careful (.new "ttyUSB0") (callbackWrites twoBuffers)
      (fun _ => False)) fresh _ :=
    run_start (i := false) never_end (start_both 1) rfl rfl (aside _ _) id id
  have rest :=
    first.trans (run_rest (i := false) never_end continue_second rfl rfl (aside _ _) id id)
  exact ⟨_, (steps_of_careful rest).tail (.accept false (goto_location _ _ _)),
    by decide, by decide, rfl, rfl⟩

section Methods
variable [Fintype ι]

/-- `readAsync` with callbacks: in every run the semaphore counts the operations in
progress, the system calls of each operation are in one piece, and a call has had
one callback once it is over and none before. -/
theorem readAsyncCallback_guards (dsts : ι → ByteBuffer) (start : Initial s)
    (run : Relation.ReflTransGen (Step socket (callbackReads dsts)) s t) :
    t.permits .read + (inProgress (callbackReads dsts) .read t).card = 1 ∧
      (∀ i, Guarded.Contiguous (t.log .read) i) ∧
      (∀ i x buf, t.location i = .ended x buf →
        Guarded.own t.callbacks i = [x.map (fun _ => buf)]) ∧
      ∀ i, (∀ x buf, t.location i ≠ .ended x buf) → Guarded.own t.callbacks i = [] := by
  have disciplined : ∀ i, (callbackReads dsts i).direction = .read →
      Disciplined ((callbackReads dsts i).form socket) (fun _ => False) :=
    fun _ _ => readAsyncCallback_disciplined socket
  have careful : Relation.ReflTransGen
      (Careful socket (callbackReads dsts) (fun _ => False)) s t :=
    careful_of_steps run
  have guards := run_guards disciplined start careful
  have announcing : ∀ i, Announcing ((callbackReads dsts i).form socket) :=
    fun _ => readAsyncCallback_announcing socket
  have answered := run_answered announcing start run
  refine ⟨guards.balance, guards.pieces, ?_, ?_⟩
  · intro i x buf ended
    rw [answered.callbacks i, ended]
    rfl
  · intro i running
    rw [answered.callbacks i]
    refine pending_announced ((answered.pending i).resolve_right ?_)
    rintro ⟨x, buf, ended⟩
    exact running x buf ended

end Methods

/-- Two bytes in two pieces, the second of them read by the task. -/
theorem readAsyncCallback_guards_two_reads : ∃ t : State Bool,
    t.permits .read + (inProgress
      (callbackReads (fun _ => ByteBuffer.allocateDirect 2)) .read t).card = 1 ∧
      input t = [(false, 7), (false, 8)] ∧ (Guarded.own t.callbacks false).length = 1 := by
  have start : Program.Returns (startRead ⟨ByteBuffer.allocateDirect 2, false⟩)
      [⟨.read 2, .ok ⟨[7], by
        decide⟩⟩] (.ok 1, ⟨(ByteBuffer.allocateDirect 2).place [7] (by decide), false⟩) :=
    Program.replay_sound 3 rfl
  have rest : Program.Returns
      (continueRead (.new "ttyUSB0") 1 ⟨(ByteBuffer.allocateDirect 2).place [7] (by decide), false⟩)
      [⟨.begin, ()⟩, ⟨.poll .read 100, .ok (.ready POLLIN 0)⟩, ⟨.read 1, .ok ⟨[8], by decide⟩⟩,
        ⟨.interrupted, false⟩]
      (.ok 2, ⟨(ByteBuffer.allocateDirect 2).place [7, 8] (by decide), true⟩) :=
    Program.replay_sound 10 rfl
  have aside : ∀ (s : State Bool) i, Aside (fun _ => False) s i := fun _ _ _ _ => id
  have first : Relation.ReflTransGen (Careful (.new "ttyUSB0")
      (callbackReads (fun _ => ByteBuffer.allocateDirect 2)) (fun _ => False)) fresh _ :=
    run_start (i := false) never_end start rfl rfl (aside _ _) id id
  have second := first.trans (run_rest (i := false) never_end rest rfl rfl (aside _ _) id id)
  have given := second.tail (run_release (aside _ _) id)
  have run := (steps_of_careful given).tail (.accept false (goto_location _ _ _))
  have guards := readAsyncCallback_guards _ fresh_initial run
  exact ⟨_, guards.1, by rfl, by rw [guards.2.2.1 false _ _ (goto_location _ _ _)]; rfl⟩

end Spsw.Jnhw.Async

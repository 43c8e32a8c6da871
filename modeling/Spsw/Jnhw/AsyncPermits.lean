import Spsw.Jnhw.AsyncTransfer

/-!
# Permits and operations in progress

Each semaphore guards the system calls of its direction as long as a form gives
its permit back exactly where its operation is over. Two of the four methods do
so only while they stay off one branch.
-/
namespace Spsw.Jnhw.Async
open Interaction

/-- An operation is in progress from the step that takes the permit, just before
its first system call, to its completion. -/
def Location.inProgress : Location → Bool
  | .running _ _ | .queued true _ _ | .releasing _ => true
  | .called | .queued false _ _ | .acquiring _ | .notifying _ _ | .ended _ _ => false

def Location.stage : Location → Guarded.Stage
  | .called | .queued false _ _ | .acquiring _ => .before
  | .running _ _ | .queued true _ _ | .releasing _ => .inside
  | .notifying _ _ | .ended _ _ => .after

theorem inProgress_iff (l : Location) : l.inProgress = true ↔ l.stage = .inside := by
  rcases l with _ | _ | ⟨_ | _, _, _⟩ | _ | _ | _ | _ <;> simp [Location.inProgress, Location.stage]

/-- The operation keeps the permit, or is about to give it back and to be over. -/
def Location.holding : Location → Prop
  | .running _ _ | .queued true _ _ => True
  | .releasing next => next.stage = .after
  | .called | .queued false _ _ | .acquiring _ | .notifying _ _ | .ended _ _ => False

theorem holding_inside {l : Location} (holding : l.holding) : l.stage = .inside := by
  rcases l with _ | _ | ⟨_ | _, _, _⟩ | _ | _ | _ | _ <;> first | rfl | exact holding.elim

theorem holding_branch {buf : ByteBuffer} {l l' : Location} (more : l.holding) (done : l'.holding) :
    (if buf.hasRemaining = true then l else l').holding := by
  split
  · exact more
  · exact done

/-- The form holds its permit for the whole of its operation, unless `bad`. -/
structure Disciplined (form : Form) (bad : Location → Prop) : Prop where
  after : ∀ part x f, ¬bad (.running part (.pure (x, f))) → (form.after part x f.buffer).holding
  resumed : ∀ start buf, (form.run true start buf).holding
  waiting : ∀ start buf, form.run false start buf = .acquiring buf
  interrupted : ∀ buf, (form.interrupted buf).stage = .after

/-- The first half of the caller's thread has returned and bytes remain. -/
def LeavesBytes : Location → Prop
  | .running .caller (.pure (.ok _, f)) => f.buffer.hasRemaining = true
  | _ => False

/-- `continueRead` or `continueWrite` has returned. -/
def Continued : Location → Prop
  | .running .rest (.pure (.ok _, _)) => True
  | _ => False

theorem leavesBytes_end (part : Part) (p : Program posix (Except JavaException ℤ × Frame))
    (leaves : LeavesBytes (.running part p)) : ∃ a, p = .pure a := by
  cases p with
  | pure a => exact ⟨a, rfl⟩
  | ask e k => cases part <;> exact leaves.elim
  | loop body s k => cases part <;> exact leaves.elim

theorem continued_end (part : Part) (p : Program posix (Except JavaException ℤ × Frame))
    (continued : Continued (.running part p)) : ∃ a, p = .pure a := by
  cases p with
  | pure a => exact ⟨a, rfl⟩
  | ask e k => cases part <;> exact continued.elim
  | loop body s k => cases part <;> exact continued.elim

theorem never_end (part : Part) (p : Program posix (Except JavaException ℤ × Frame))
    (never : (fun _ => False) (Location.running part p)) : ∃ a, p = .pure a := never.elim

theorem future_disciplined (socket : Socket) (d : Direction) :
    Disciplined (future socket d) LeavesBytes where
  after := by
    intro part x f fine
    rcases x with e | n
    · cases part <;> rfl
    · cases part with
      | caller =>
          have full : ¬f.buffer.hasRemaining = true := fine
          simp only [future, if_neg full]
          rfl
      | task => exact holding_branch trivial rfl
      | rest => rfl
  resumed _ _ := trivial
  waiting _ _ := rfl
  interrupted _ := rfl

theorem readAsyncCallback_disciplined (socket : Socket) :
    Disciplined (readAsyncCallback socket) (fun _ => False) where
  after := by
    intro part x f _
    rcases x with e | n
    · cases part <;> rfl
    · cases part with
      | caller => exact holding_branch trivial rfl
      | task => exact holding_branch trivial rfl
      | rest => rfl
  resumed _ _ := holding_branch trivial rfl
  waiting _ _ := rfl
  interrupted _ := rfl

theorem writeAsyncCallback_disciplined (socket : Socket) :
    Disciplined (writeAsyncCallback socket) Continued where
  after := by
    intro part x f fine
    rcases x with e | n
    · cases part <;> rfl
    · cases part with
      | caller => exact holding_branch trivial rfl
      | task => exact holding_branch trivial rfl
      | rest => exact absurd trivial fine
  resumed _ _ := trivial
  waiting _ _ := rfl
  interrupted _ := rfl

variable {ι : Type} [DecidableEq ι] {calls : ι → AsyncCall} {s t : State ι} {socket : Socket}
  {d : Direction} {bad : Location → Prop}

/-- The steps that start in a state no call of which is at a bad place. -/
def Careful (socket : Socket) (calls : ι → AsyncCall) (bad : Location → Prop)
    (s t : State ι) : Prop :=
  Step socket calls s t ∧ ∀ i, ¬bad (s.location i)

theorem careful_of_steps (run : Relation.ReflTransGen (Step socket calls) s t) :
    Relation.ReflTransGen (Careful socket calls (fun _ => False)) s t := by
  induction run with
  | refl => exact .refl
  | tail _ step ih => exact ih.tail ⟨step, fun _ => id⟩

theorem steps_of_careful (run : Relation.ReflTransGen (Careful socket calls bad) s t) :
    Relation.ReflTransGen (Step socket calls) s t := by
  induction run with
  | refl => exact .refl
  | tail _ step ih => exact ih.tail step.1

/-- The operations of one direction as a log under one permit. -/
def view (calls : ι → AsyncCall) (d : Direction) (s : State ι) : Guarded.State ι (Event posix) :=
  ⟨s.permits d, fun i => if (calls i).direction = d then (s.location i).stage else .before, s.log d⟩

/-- No call of the direction gives its permit back before its operation is over. -/
def Settled (calls : ι → AsyncCall) (d : Direction) (s : State ι) : Prop :=
  ∀ i next, (calls i).direction = d → s.location i = .releasing next → next.stage = .after

theorem settled_goto {i : ι} {l : Location} (settled : Settled calls d s)
    (here : (calls i).direction = d → ∀ next, l = .releasing next → next.stage = .after) :
    Settled calls d (s.goto i l) := by
  intro j next same at_release
  by_cases eq : j = i
  · subst eq
    rw [goto_location] at at_release
    exact here same next at_release
  · simp only [State.goto, Function.update_of_ne eq] at at_release
    exact settled j next same at_release

theorem holding_release {l next : Location} (holding : l.holding) (eq : l = .releasing next) :
    next.stage = .after := by
  subst eq
  exact holding

theorem step_settled
    (disciplined : ∀ i, (calls i).direction = d → Disciplined ((calls i).form socket) bad)
    (settled : Settled calls d s) (step : Careful socket calls bad s t) : Settled calls d t := by
  obtain ⟨step, fine⟩ := step
  cases step with
  | tryAcquire i p here free =>
      exact settled_goto (s := s.setPermits _ p) settled (by rintro _ _ ⟨⟩)
  | submit i here taken => exact settled_goto settled (by rintro _ _ ⟨⟩)
  | silent i here step => exact settled_goto settled (by rintro _ _ ⟨⟩)
  | @event i part p q ev here step =>
      exact settled_goto (s := s.record _ i [ev]) settled (by rintro _ _ ⟨⟩)
  | partEnded i here =>
      refine settled_goto settled (fun same next eq => ?_)
      have holding := (disciplined i same).after _ _ _ (here ▸ fine i)
      exact holding_release holding eq
  | @run i acquired start buf here =>
      refine settled_goto settled (fun same next eq => ?_)
      cases acquired with
      | false =>
          rw [(disciplined i same).waiting] at eq
          cases eq
      | true => exact holding_release ((disciplined i same).resumed _ _) eq
  | acquire i p here free =>
      exact settled_goto (s := s.setPermits _ p) settled (by rintro _ _ ⟨⟩)
  | @interrupt i buf here =>
      refine settled_goto settled (fun same next eq => ?_)
      have done := (disciplined i same).interrupted buf
      rw [eq] at done
      cases done
  | @release i next here =>
      refine settled_goto (s := s.setPermits _ _) settled (fun same next' eq => ?_)
      have done := settled i next same here
      rw [eq] at done
      cases done
  | accept i here => exact settled_goto (s := { s with callbacks := _ }) settled (by rintro _ _ ⟨⟩)

theorem view_goto {i : ι} (l : Location) (s : State ι) :
    view calls (calls i).direction (s.goto i l) = { view calls (calls i).direction s with
      stage := Function.update (view calls (calls i).direction s).stage i l.stage } := by
  simp only [view, State.goto, Guarded.State.mk.injEq, true_and, and_true]
  funext j
  by_cases same : j = i
  · subst same; simp
  · simp [same]

/-- A move within a stage is invisible. -/
theorem view_stays {i : ι} {l : Location} (same : l.stage = (s.location i).stage) :
    view calls (calls i).direction (s.goto i l) = view calls (calls i).direction s := by
  have here : (view calls (calls i).direction s).stage i = l.stage := by simp [view, same]
  rw [view_goto, ← here, Function.update_eq_self]

/-- So is a move of a call of the other direction. -/
theorem view_foreign {i : ι} {l : Location} (ne : (calls i).direction ≠ d) :
    view calls d (s.goto i l) = view calls d s := by
  simp only [view, State.goto, Guarded.State.mk.injEq, true_and, and_true]
  funext j
  by_cases same : j = i
  · subst same; simp [ne]
  · simp [same]

omit [DecidableEq ι] in
theorem view_setPermits {d' : Direction} {n : ℕ} (ne : d' ≠ d) :
    view calls d (s.setPermits d' n) = view calls d s := by
  simp [view, State.setPermits, Function.update_of_ne (Ne.symm ne)]

omit [DecidableEq ι] in
theorem view_record {d' : Direction} {i : ι} {h : History posix} (ne : d' ≠ d) :
    view calls d (s.record d' i h) = view calls d s := by
  simp [view, State.record, Function.update_of_ne (Ne.symm ne)]

theorem step_foreign {i : ι} {s' : State ι} {l : Location} (ne : (calls i).direction ≠ d)
    (same : view calls d s' = view calls d s) :
    Relation.ReflTransGen Guarded.Step (view calls d s) (view calls d (s'.goto i l)) := by
  rw [view_foreign ne, same]

/-- A call of this direction that takes the permit enters. -/
theorem step_enters {i : ι} {p : ℕ} {l : Location} (before : (s.location i).stage = .before)
    (free : s.permits (calls i).direction = p + 1) (enters : l.stage = .inside) :
    Relation.ReflTransGen Guarded.Step (view calls (calls i).direction s)
      (view calls (calls i).direction ((s.setPermits (calls i).direction p).goto i l)) := by
  have outside : (view calls (calls i).direction s).stage i = .before := by simp [view, before]
  rw [view_goto, enters]
  simpa [view, State.setPermits] using Relation.ReflTransGen.single (.enter i p outside free)

/-- Every careful step is a run of the log under the permit. -/
theorem step_refines
    (disciplined : ∀ i, (calls i).direction = d → Disciplined ((calls i).form socket) bad)
    (settled : Settled calls d s) (step : Careful socket calls bad s t) :
    Relation.ReflTransGen Guarded.Step (view calls d s) (view calls d t) := by
  obtain ⟨step, fine⟩ := step
  cases step with
  | tryAcquire i p here free =>
      by_cases own : (calls i).direction = d
      · subst own
        exact step_enters (by rw [here]; rfl) free rfl
      · exact step_foreign own (view_setPermits own)
  | submit i here taken =>
      by_cases own : (calls i).direction = d
      · subst own
        rw [view_stays (by rw [here]; rfl)]
      · exact step_foreign own rfl
  | silent i here step =>
      by_cases own : (calls i).direction = d
      · subst own
        rw [view_stays (by rw [here]; rfl)]
      · exact step_foreign own rfl
  | @event i part p q ev here step =>
      by_cases own : (calls i).direction = d
      · subst own
        have inside : (view calls (calls i).direction s).stage i = .inside := by
          simp [view, here, Location.stage]
        rw [view_stays (s := s.record _ i [ev]) (by rw [record_location, here]; rfl)]
        simpa [view] using Relation.ReflTransGen.single (Guarded.Step.emit i ev inside)
      · exact step_foreign own (view_record own)
  | partEnded i here =>
      by_cases own : (calls i).direction = d
      · have holding := (disciplined i own).after _ _ _ (here ▸ fine i)
        subst own
        rw [view_stays (by rw [here]; exact holding_inside holding)]
      · exact step_foreign own rfl
  | @run i acquired start buf here =>
      by_cases own : (calls i).direction = d
      · have form := disciplined i own
        subst own
        cases acquired with
        | false => rw [form.waiting, view_stays (by rw [here]; rfl)]
        | true => rw [view_stays (by rw [here]; exact holding_inside (form.resumed start buf))]
      · exact step_foreign own rfl
  | acquire i p here free =>
      by_cases own : (calls i).direction = d
      · subst own
        exact step_enters (by rw [here]; rfl) free rfl
      · exact step_foreign own (view_setPermits own)
  | @interrupt i buf here =>
      by_cases own : (calls i).direction = d
      · have done := (disciplined i own).interrupted buf
        subst own
        have outside : (view calls (calls i).direction s).stage i = .before := by
          simp [view, here, Location.stage]
        rw [view_goto, done]
        exact .single (.pass i outside)
      · exact step_foreign own rfl
  | @release i next here =>
      by_cases own : (calls i).direction = d
      · have done := settled i next own here
        subst own
        have inside : (view calls (calls i).direction s).stage i = .inside := by
          simp [view, here, Location.stage]
        rw [view_goto, done]
        simpa [view, State.setPermits] using Relation.ReflTransGen.single
          (Guarded.Step.leave i inside)
      · exact step_foreign own (view_setPermits own)
  | accept i here =>
      by_cases own : (calls i).direction = d
      · subst own
        rw [view_stays (s := { s with callbacks := _ }) (by rw [here]; rfl)]
        exact .refl
      · exact step_foreign own rfl

section Schedules

/-- The other calls are at good places. -/
def Aside (bad : Location → Prop) (s : State ι) (i : ι) : Prop :=
  ∀ j, j ≠ i → ¬bad (s.location j)

theorem aside_goto {i : ι} {l : Location} (aside : Aside bad s i) (fine : ¬bad l) (j : ι) :
    ¬bad ((s.goto i l).location j) := by
  by_cases same : j = i
  · subst same
    rwa [goto_location]
  · simpa [State.goto, same] using aside j same

theorem aside_here {i : ι} {l : Location} (aside : Aside bad s i) (here : s.location i = l)
    (fine : ¬bad l) (j : ι) : ¬bad (s.location j) := by
  by_cases same : j = i
  · subst same
    rwa [here]
  · exact aside j same

/-- A run of one part is a run of the calls. -/
theorem run_part (atEnd : ∀ part p, bad (.running part p) → ∃ a, p = .pure a) (part : Part)
    {p q : Program posix (Except JavaException ℤ × Frame)} {h : History posix}
    (inner : Program.Run p h q) {i : ι} (s : State ι) (aside : Aside bad s i) :
    Relation.ReflTransGen (Careful socket calls bad) (s.goto i (.running part p))
      ((s.record (calls i).direction i h).goto i (.running part q)) := by
  have moving : ∀ {p : Program posix (Except JavaException ℤ × Frame)} {ev q}, Program.Step p ev q →
      ¬bad (.running part p) := by
    intro p ev q step isBad
    obtain ⟨a, rfl⟩ := atEnd part p isBad
    cases step
  induction inner generalizing s with
  | refl p => rw [record_nil]
  | @silent p q r h step rest ih =>
      have first : Step socket calls _ _ := .silent i (goto_location s i (.running part p)) step
      rw [goto_goto] at first
      exact .head ⟨first, aside_goto aside (moving step)⟩ (ih s aside)
  | @event p q r ev h step rest ih =>
      have first : Step socket calls _ _ := .event i (goto_location s i (.running part p)) step
      have later := ih (s.record (calls i).direction i [ev]) aside
      rw [goto_record, goto_goto] at first
      rw [record_record] at later
      exact .head ⟨first, aside_goto aside (moving step)⟩ later

/-- A part that runs to its end, and where its call goes on. -/
theorem run_over (atEnd : ∀ part p, bad (.running part p) → ∃ a, p = .pure a) (part : Part)
    {p : Program posix (Except JavaException ℤ × Frame)} {h : History posix}
    {x : Except JavaException ℤ} {f : Frame} (inner : Program.Returns p h (x, f)) {i : ι}
    (s : State ι) (aside : Aside bad s i) (fine : ¬bad (.running part (.pure (x, f)))) :
    Relation.ReflTransGen (Careful socket calls bad) (s.goto i (.running part p))
      ((s.record (calls i).direction i h).goto i
        (((calls i).form socket).after part x f.buffer)) := by
  refine (run_part atEnd part inner s aside).tail ⟨?_, aside_goto aside fine⟩
  have last : Step socket calls _ _ :=
    .partEnded i (goto_location (s.record (calls i).direction i h) i (.running part (.pure (x, f))))
  rwa [goto_goto] at last

/-- The first half in the caller's thread. -/
theorem run_start (atEnd : ∀ part p, bad (.running part p) → ∃ a, p = .pure a) {h : History posix}
    {x : Except JavaException ℤ} {f : Frame} {i : ι} {s : State ι}
    (inner : Program.Returns
      (startTransfer socket (calls i).direction ⟨(calls i).buffer, false⟩) h (x, f))
    (here : s.location i = .called) (free : s.permits (calls i).direction = 1)
    (aside : Aside bad s i) (fine : ¬bad .called) (done : ¬bad (.running .caller (.pure (x, f)))) :
    Relation.ReflTransGen (Careful socket calls bad) s
      (((s.setPermits (calls i).direction 0).record (calls i).direction i h).goto i
        (((calls i).form socket).after .caller x f.buffer)) :=
  .head ⟨.tryAcquire i 0 here free, aside_here aside here fine⟩
    (run_over atEnd .caller inner (s.setPermits (calls i).direction 0) aside done)

/-- The rest of an operation, in the task that has its permit from the caller. -/
theorem run_rest (atEnd : ∀ part p, bad (.running part p) → ∃ a, p = .pure a) {h : History posix}
    {x : Except JavaException ℤ} {f : Frame} {i : ι} {s : State ι} {start : ℤ} {buf : ByteBuffer}
    (inner : Program.Returns (continueTransfer socket (calls i).direction start ⟨buf, false⟩) h
      (x, f))
    (here : s.location i = .queued true start buf)
    (resumed : ((calls i).form socket).run true start buf =
      proceed socket (calls i).direction start buf)
    (aside : Aside bad s i) (fine : ¬bad (.queued true start buf))
    (done : ¬bad (.running .rest (.pure (x, f)))) :
    Relation.ReflTransGen (Careful socket calls bad) s
      ((s.record (calls i).direction i h).goto i
        (((calls i).form socket).after .rest x f.buffer)) := by
  have first : Step socket calls _ _ := .run i here
  rw [resumed] at first
  exact .head ⟨first, aside_here aside here fine⟩ (run_over atEnd .rest inner s aside done)

theorem run_release {i : ι} {s : State ι} {next : Location} (aside : Aside bad s i)
    (fine : ¬bad (.releasing next)) :
    Careful socket calls bad (s.goto i (.releasing next))
      ((s.setPermits (calls i).direction (s.permits (calls i).direction + 1)).goto i next) := by
  have step : Step socket calls _ _ := .release i (goto_location s i (.releasing next))
  rw [goto_setPermits, goto_goto] at step
  exact ⟨step, aside_goto aside fine⟩

end Schedules
section Runs
variable [Fintype ι]

/-- The operations of one direction in progress. -/
def inProgress (calls : ι → AsyncCall) (d : Direction) (s : State ι) : Finset ι :=
  Finset.univ.filter (fun i => (calls i).direction = d ∧ (s.location i).inProgress = true)

omit [DecidableEq ι] in
theorem inside_view (calls : ι → AsyncCall) (d : Direction) (s : State ι) :
    Guarded.inside (view calls d s) = inProgress calls d s := by
  ext i
  by_cases same : (calls i).direction = d
  · simp [inProgress, view, same, inProgress_iff]
  · simp [inProgress, view, same]

theorem initial_exclusive (start : Initial s) (d : Direction) :
    Guarded.Exclusive (view calls d s) := by
  have same : view calls d s = ⟨1, (view calls d s).stage, []⟩ := by
    simp [view, start.permits d, start.log d]
  rw [same]
  refine Guarded.exclusive_initial _ (fun i => ?_)
  simp only [view, start.location i]
  split <;> rfl

/-- A careful run keeps the system calls of each operation in one piece. -/
theorem run_exclusive
    (disciplined : ∀ i, (calls i).direction = d → Disciplined ((calls i).form socket) bad)
    (start : Initial s) (run : Relation.ReflTransGen (Careful socket calls bad) s t) :
    Guarded.Exclusive (view calls d t) := by
  have settled : Settled calls d s := by
    intro i next _ here
    rw [start.location i] at here
    cases here
  exact (Guarded.exclusive_of_refinement (Settled calls d) (view calls d)
    (fun _ _ => step_settled disciplined) (fun _ _ => step_refines disciplined) settled
    (initial_exclusive start d) run).2

/-- The permits and the operations in progress of one direction, and the pieces
of its log. -/
structure Guards (calls : ι → AsyncCall) (d : Direction) (s : State ι) : Prop where
  balance : s.permits d + (inProgress calls d s).card = 1
  pieces : ∀ i, Guarded.Contiguous (s.log d) i

theorem run_guards
    (disciplined : ∀ i, (calls i).direction = d → Disciplined ((calls i).form socket) bad)
    (start : Initial s) (run : Relation.ReflTransGen (Careful socket calls bad) s t) :
    Guards calls d t := by
  have exclusive := run_exclusive disciplined start run
  have balance := exclusive.balance
  rw [inside_view] at balance
  exact ⟨balance, exclusive.contiguous⟩

end Runs

/-- The bytes the descriptor has accepted, each with the call it came from. -/
def wire (s : State ι) : List (ι × UInt8) := Guarded.expand accepted (s.log .write)

/-- The bytes the descriptor has handed out, each with the call that took it. -/
def input (s : State ι) : List (ι × UInt8) := Guarded.expand obtained (s.log .read)

/-- A writing call has put the first bytes of its buffer on the wire, in one piece
and in order; all of them once it has succeeded. -/
structure WrittenInOrder (s : State ι) (i : ι) (src : ByteBuffer) : Prop where
  contiguous : Guarded.Contiguous (wire s) i
  ordered : ∃ n, n ≤ src.remaining ∧ Guarded.own (wire s) i = src.pending.take n
  complete : ∀ buf, s.location i = .ended (.ok ()) buf → Guarded.own (wire s) i = src.pending

/-- A reading call has taken one piece of the input, which is in its buffer when it is over. -/
structure ReadInOrder (s : State ι) (i : ι) (dst : ByteBuffer) : Prop where
  contiguous : Guarded.Contiguous (input s) i
  filled : ∀ x buf, s.location i = .ended x buf → Filled dst (Guarded.own (input s) i) buf

/-- The bytes of each call, by its direction. -/
def InOrderFor (s : State ι) (i : ι) (c : AsyncCall) : Prop :=
  match c.direction with
  | .write => WrittenInOrder s i c.buffer
  | .read => ReadInOrder s i c.buffer

end Spsw.Jnhw.Async

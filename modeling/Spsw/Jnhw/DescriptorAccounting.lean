import Spsw.Jnhw.ConstructorDescriptors

/-!
# The descriptors are accounted for

A socket is constructed, operated and perhaps closed, by `close()` or because the thread that
operates it is interrupted, and finally cleaned up.
-/
namespace Spsw.Jnhw.PosixSerialPortSocket
open Interaction
open Interaction.Program (Returns)
open Interaction.Method (raise amwp amwp_mono amwp_bind amwp_request amwp_request_bind
  amwp_pure amwp_raise arest)
open Resources (Deed Accounted Books stage)

section Lives
variable (proviso : Proviso)

/-- An operation, however it ends. A configuration method makes any number of calls, all on
the descriptor of the configuration. -/
inductive Operates : State → SocketOperation → State → Prop
  | transfer {call : Transfer} {x x' : State} {h : History posix}
      {y : Except JavaException ℤ × Frame} (returns : Returns call.program h y)
      (answered : Answered (callAnswers proviso (.transfer call)) x h x') :
      Operates x (.transfer call) x'
  | configure {op : ConfigurationMethod} {x : State} (n : ℕ) : Operates x (.configure op)
      ⟨x.world, x.log ++ List.replicate n (.use (x.world.fields .configurationFd))⟩
  | direct {call : DirectCall} {x x' : State} {h : History kernel}
      {y : Except JavaException Unit × Bool} (returns : Returns (call.action false) h y)
      (answered : Answered (directAnswers proviso (.direct call)) x h x') :
        Operates x (.direct call) x'
  | close {x x' : State} {h : History kernel} {y : Except JavaException Unit × Bool}
      (shut : Returns (implCloseChannel false) h y)
        (shutting : Answered (answers proviso.closing) x h x') :
      Operates x .close x'

inductive Operating : State → List SocketOperation → State → Prop
  | nil (x : State) : Operating x [] x
  | cons {x x' x'' : State} {op : SocketOperation} {ops : List SocketOperation}
      (first : Operates proviso x op x') (rest : Operating x' ops x'') : Operating x (op :: ops) x''

/-- The life of a socket: its constructor, its operations, `close` among them, and its cleaner. -/
inductive Lives (HAVE_SYS_EVENTFD_H : Bool) (p : Platform) (raw : RawFlags)
    (portName : String) (r : Params) :
    List SocketOperation → State → Prop
  | refused {ops : List SocketOperation} {x : State} {h : History kernel}
      {e : JavaException} {completed : Bool}
      (thrown : Returns («open» HAVE_SYS_EVENTFD_H p raw portName r false) h (.error e, completed))
      (answered : Answered (answers proviso.constructing) .initial h x) :
      Lives HAVE_SYS_EVENTFD_H p raw portName r ops x
  | cleaned {ops : List SocketOperation} {x₁ x₂ x : State}
      {h h' : History kernel} {completed : Bool} {y : Except JavaException Unit × Bool}
      (constructed : Returns («open» HAVE_SYS_EVENTFD_H p raw portName r false) h
        (.ok (), completed)) (answered : Answered (answers proviso.constructing) .initial h x₁)
        (operating : Operating proviso x₁ ops x₂) (cleaned : Returns (FdCleaner.run false) h' y)
        (cleaning : Answered (answers proviso.cleaning) x₂ h' x) :
      Lives HAVE_SYS_EVENTFD_H p raw portName r ops x

end Lives

theorem Numbers.port_mem {n : Numbers} : n.port ∈ n.all := .inl rfl

theorem Numbers.event_mem {n : Numbers} (e side : Direction) : n.event e side ∈ n.all :=
  .inr ⟨e, side, rfl⟩

section Closing
variable {n : Numbers} {held : Set ℤ} {w : World} {x x' : State} {completed : Bool}
  {ok : World → Event kernel → World → Prop}

/-- `implCloseChannel` has cleared the fields; those of the cleaner and the poll
sets are as before. -/
structure Cleared (n : Numbers) (w : World) : Prop where
  fd : w.fields .fd = INVALID_FD
  configurationFd : w.fields .configurationFd = INVALID_FD
  cleanerEventFd : ∀ e side, w.fields (.cleanerEventFd e side) = n.event e side
  pollPortFd : ∀ d, w.fields (.pollPortFd d) = n.port
  pollCancelFd : ∀ d, w.fields (.pollCancelFd d) = n.event d .read

/-- What is still open: all of an open socket, all where its `close` has failed, and the
events once it has succeeded. -/
inductive Holding (n : Numbers) (w : World) : Set ℤ → Prop
  | opened (opened : w.Opened n) : Holding n w n.all
  | unclosed (cleared : Cleared n w) (cleanerFd : w.fields .cleanerFd = n.port) : Holding n w n.all
  | closed (cleared : Cleared n w) (cleanerFd : w.fields .cleanerFd = INVALID_FD) :
      Holding n w (n.all \ {n.port})

/-- The socket before its cleaner runs. -/
def Alive (n : Numbers) (x : State) : Prop := ∃ held, Holding n x.world held ∧ Kept held x

theorem Runs.alive (runs : Runs n x) : Alive n x := ⟨n.all, .opened runs.opened, runs.kept⟩

/-- The fields have been cleared, and the descriptors are still open. -/
structure Clearing (n : Numbers) (x : State) : Prop where
  cleared : Cleared n x.world
  cancelEventFd : ∀ e, x.world.fields (.cancelEventFd e .write) = n.event e .write
  cleanerFd : x.world.fields .cleanerFd = n.port
  kept : Kept n.all x

theorem clearing_of_opened (opened : x.world.Opened n) (kept : Kept n.all x) :
    Clearing n ⟨(x.world.store .fd INVALID_FD).store .configurationFd INVALID_FD, x.log⟩ where
  cleared := by
    constructor
    case cleanerEventFd => simpa [World.store] using opened.cleanerEventFd
    case pollPortFd => simpa [World.store] using opened.pollPortFd
    case pollCancelFd => simpa [World.store] using opened.pollCancelFd
    all_goals simp [World.store]
  cancelEventFd e :=
    (store_other (by simp)).trans ((store_other (by simp)).trans (opened.cancelEventFd e .write))
  cleanerFd := (store_other (by simp)).trans ((store_other (by simp)).trans opened.cleanerFd)
  kept := kept.world rfl

theorem Clearing.use (clearing : Clearing n x) {fd : ℤ} (own : fd ∈ n.all) (readable : ℤ → Bool) :
    Clearing n ⟨{ x.world with readable := readable }, x.log ++ [.use fd]⟩ where
  cleared := ⟨clearing.cleared.fd, clearing.cleared.configurationFd, clearing.cleared.cleanerEventFd,
    clearing.cleared.pollPortFd, clearing.cleared.pollCancelFd⟩
  cancelEventFd := clearing.cancelEventFd
  cleanerFd := clearing.cleanerFd
  kept := (clearing.kept.use own).world rfl

/-- Once the field is cleared `implCloseChannel` does nothing. -/
theorem implCloseChannel_cleared (cleared : x.world.fields .fd = INVALID_FD) :
    ends ok x completed implCloseChannel fun x' _ _ => x' = x := by
  apply ends_get
  rw [cleared, if_neg (by simp)]
  exact amwp_pure rfl

theorem implCloseChannel_opened (opened : x.world.Opened n) (kept : Kept n.all x) :
    ends Truthful x completed implCloseChannel fun x' _ _ => Alive n x' := by
  have valid : x.world.fields .fd ≠ INVALID_FD := opened.fd ▸ n.port_valid
  apply ends_get
  rw [if_pos valid]
  refine ends_get (ends_set (ends_copy_bind ?_))
  rw [opened.fd, store_self]
  have marked := clearing_of_opened opened kept
  apply ends_get
  rw [marked.cancelEventFd]
  refine ends_write fun _ readable => ?_
  have marked := marked.use (Numbers.event_mem .write .write) readable
  apply ends_get
  rw [marked.cancelEventFd]
  refine ends_write fun _ readable => ?_
  have marked := marked.use (Numbers.event_mem .read .write) readable
  refine ends_use rfl fun _ _ => ?_
  have marked := marked.use Numbers.port_mem readable
  have here := (marked.kept.opened n.port).mpr Numbers.port_mem
  refine ends_close here (fun r truthful => ?_) fun nee _ => ?_
  · obtain rfl : r = .ok () := by
      by_contra failed
      have still := truthful here failed
      simp [World.closed] at still
    refine ends_set (ends_set (ends_set (ends_set (ends_set_last ?_))))
    refine ⟨_, .closed ?_ ?_, (marked.kept.close Numbers.port_mem).world rfl⟩
    · constructor
      case fd => simp [World.store, World.closed]
      case configurationFd => simp [World.store, World.closed]
      case cleanerEventFd => simpa [World.store, World.closed] using marked.cleared.cleanerEventFd
      case pollPortFd => simpa [World.store, World.closed] using marked.cleared.pollPortFd
      case pollCancelFd => simpa [World.store, World.closed] using marked.cleared.pollCancelFd
    · simp [World.store]
  · have failed := marked.use Numbers.port_mem readable
    exact amwp_pure ⟨_, .unclosed failed.cleared failed.cleanerFd, failed.kept⟩

theorem implCloseChannel_alive (alive : Alive n x) :
    ends Truthful x completed implCloseChannel fun x' _ _ => Alive n x' := by
  have stays : x.world.fields .fd = INVALID_FD →
      ends Truthful x completed implCloseChannel fun x' _ _ => Alive n x' := by
    intro cleared
    apply amwp_mono (implCloseChannel_cleared cleared)
    rintro x' _ _ rfl
    exact alive
  obtain ⟨held, holding, kept⟩ := alive
  cases holding with
  | opened opened => exact implCloseChannel_opened opened kept
  | unclosed cleared => exact stays cleared.fd
  | closed cleared => exact stays cleared.fd

theorem begun_alive (alive : Alive n x) (begun : Begun Truthful x x') : Alive n x' := by
  cases begun with
  | calm => exact alive
  | interrupted shut shutting =>
      exact Method.amwp_returns (implCloseChannel_alive alive) shut shutting

theorem begun_cleared (cleared : x.world.fields .fd = INVALID_FD) (begun : Begun ok x x') :
    x' = x := by
  cases begun with
  | calm => rfl
  | interrupted shut shutting =>
      exact Method.amwp_returns (implCloseChannel_cleared cleared) shut shutting

end Closing

section Operations
variable {n : Numbers} {held : Set ℤ} {w : World} {x x' : State} {op : SocketOperation}

/-- What the socket works on is open, or no descriptor at all; what is in the poll sets is
open until the port is closed. -/
structure Handles (held : Set ℤ) (w : World) : Prop where
  fd : w.fields .fd ∈ held ∨ w.fields .fd = INVALID_FD
  configurationFd : w.fields .configurationFd ∈ held ∨ w.fields .configurationFd = INVALID_FD
  polled : w.fields .cleanerFd ≠ INVALID_FD → ∀ d, w.fields (.pollPortFd d) ∈ held ∧
    w.fields (.pollCancelFd d) ∈ held

theorem Holding.handles (holding : Holding n w held) : Handles held w := by
  cases holding with
  | opened opened =>
      refine ⟨.inl (opened.fd ▸ Numbers.port_mem), .inl (opened.configurationFd ▸ Numbers.port_mem),
        fun _ d => ?_⟩
      exact ⟨opened.pollPortFd d ▸ Numbers.port_mem,
        opened.pollCancelFd d ▸ Numbers.event_mem d .read⟩
  | unclosed cleared cleanerFd =>
      refine ⟨.inr cleared.fd, .inr cleared.configurationFd, fun _ d => ?_⟩
      exact ⟨cleared.pollPortFd d ▸ Numbers.port_mem,
        cleared.pollCancelFd d ▸ Numbers.event_mem d .read⟩
  | closed cleared cleanerFd =>
      exact ⟨.inr cleared.fd, .inr cleared.configurationFd,
        fun unclosed => absurd cleanerFd unclosed⟩

/-- Once the cleaner has no port to close the field is cleared. -/
theorem Holding.cleared (holding : Holding n w held) (closed : w.fields .cleanerFd = INVALID_FD) :
    w.fields .fd = INVALID_FD := by
  cases holding with
  | opened opened => exact absurd (opened.cleanerFd.symm.trans closed) n.port_valid
  | unclosed cleared cleanerFd => exact cleared.fd
  | closed cleared cleanerFd => exact cleared.fd

/-- The books are kept, and nothing has been opened, closed or stored. -/
def Steady (held : Set ℤ) (w : World) (x : State) : Prop := x.world = w ∧ Kept held x

theorem Steady.touch (steady : Steady held w x) {fd : ℤ} (own : fd ∈ held ∨ fd = INVALID_FD) :
    Steady held w ⟨x.world, x.log ++ [.use fd]⟩ :=
  ⟨steady.1, steady.2.touch own⟩

theorem Steady.alive (steady : Steady held w x) (holding : Holding n w held) : Alive n x :=
  ⟨held, steady.1.symm ▸ holding, steady.2⟩

section Transfers
variable {proviso : Proviso} {h : History posix} {ev : Event posix}

theorem callAnswers_steady (handles : Handles held w) (steady : Steady held w x)
    (answer : callAnswers proviso op x ev x') (other : ev.1 ≠ .begin)
    (unpolled : w.fields .cleanerFd = INVALID_FD → polls ev = false) : Steady held w x' := by
  obtain ⟨world, log⟩ := x
  obtain ⟨world', log'⟩ := x'
  obtain ⟨e, r⟩ := ev
  have plain : world' = world ∧ log' = log ++ callDeeds world ⟨e, r⟩ := by
    cases e with
    | begin => exact absurd rfl other
    | _ => exact answer.2.2
  obtain ⟨rfl, rfl⟩ := plain
  obtain rfl : world' = w := steady.1
  cases e with
  | write bytes => exact steady.touch handles.fd
  | read room => exact steady.touch handles.fd
  | isFdValid => exact steady.touch handles.fd
  | poll d timeout =>
      have valid : world'.fields .cleanerFd ≠ INVALID_FD :=
        fun closed => absurd (unpolled closed) (by simp [polls])
      have both :=
        (steady.touch (.inl (handles.polled valid d).1)).touch (.inl (handles.polled valid d).2)
      rw [List.append_assoc] at both
      exact both
  | _ => exact ((List.append_nil log).symm ▸ steady :)

/-- While the port is not closed a transfer may poll, and it stays so after its `begin`. -/
theorem callAnswers_alive (polling : op.polls = true) (alive : Alive n x)
    (unclosed : x.world.fields .cleanerFd ≠ INVALID_FD) (answer : callAnswers orderly op x ev x') :
    Alive n x' ∧ x'.world.fields .cleanerFd ≠ INVALID_FD := by
  by_cases begins : ev.1 = .begin
  · obtain ⟨e, r⟩ := ev
    obtain rfl : e = .begin := begins
    exact ⟨begun_alive alive answer.1, answer.2 polling⟩
  · obtain ⟨held, holding, kept⟩ := alive
    have steady := callAnswers_steady holding.handles ⟨rfl, kept⟩ answer begins fun closed =>
      absurd closed unclosed
    exact ⟨steady.alive holding, steady.1 ▸ unclosed⟩

theorem answered_alive (polling : op.polls = true)
    (answered : Answered (callAnswers orderly op) x h x') (alive : Alive n x)
    (unclosed : x.world.fields .cleanerFd ≠ INVALID_FD) : Alive n x' := by
  induction answered with
  | nil => exact alive
  | cons answer rest ih =>
      obtain ⟨alive, unclosed⟩ := callAnswers_alive polling alive unclosed answer
      exact ih alive unclosed

/-- On a closed socket `begin` does nothing. -/
theorem callAnswers_cleared (answer : callAnswers proviso op x ev x')
    (cleared : x.world.fields .fd = INVALID_FD) :
    shut ev ∧ x'.world = x.world ∧ (ev.1 = .begin → x' = x) := by
  obtain ⟨e, r⟩ := ev
  cases e with
  | begin =>
      obtain rfl := begun_cleared cleared answer.1
      exact ⟨trivial, rfl, fun _ => rfl⟩
  | _ => exact ⟨answer.2.1 cleared, answer.2.2.1, fun begins => by cases begins⟩

theorem answered_shut (answered : Answered (callAnswers proviso op) x h x')
    (cleared : x.world.fields .fd = INVALID_FD) : ∀ ev ∈ h, shut ev := by
  induction answered with
  | nil => exact fun _ member => absurd member List.not_mem_nil
  | cons answer rest ih =>
      obtain ⟨closed, same, -⟩ := callAnswers_cleared answer cleared
      intro ev member
      rcases List.mem_cons.mp member with rfl | member
      · exact closed
      · exact ih (same.symm ▸ cleared) ev member

theorem answered_steady (handles : Handles held w) (cleared : w.fields .fd = INVALID_FD)
    (answered : Answered (callAnswers proviso op) x h x') (steady : Steady held w x)
    (unpolled : ∀ ev ∈ h, polls ev = false) : Steady held w x' := by
  induction answered with
  | nil => exact steady
  | @cons _ _ _ ev _ answer rest ih =>
      refine ih ?_ fun ev member => unpolled ev (List.mem_cons_of_mem _ member)
      by_cases begins : ev.1 = .begin
      · rw [(callAnswers_cleared answer (steady.1.symm ▸ cleared)).2.2 begins]
        exact steady
      · exact callAnswers_steady handles steady answer begins fun _ =>
          unpolled ev List.mem_cons_self

theorem transfer_alive (alive : Alive n x) {call : Transfer} {y : Except JavaException ℤ × Frame}
    (returns : Returns call.program h y)
    (answered : Answered (callAnswers orderly (.transfer call)) x h x') :
    Alive n x' := by
  by_cases closed : x.world.fields .cleanerFd = INVALID_FD
  · obtain ⟨held, holding, kept⟩ := alive
    have cleared := holding.cleared closed
    refine (answered_steady holding.handles cleared answered ⟨rfl, kept⟩
      fun ev member => ?_).alive holding
    have unpolled := ((transfer_unpolled call) h _ returns).1 (List.ne_nil_of_mem member)
    exact unpolled (answered_shut answered cleared) ev member
  · exact answered_alive rfl answered alive closed

end Transfers

theorem replicate_steady (steady : Steady held w x) {fd : ℤ}
    (own : fd ∈ held ∨ fd = INVALID_FD) (n : ℕ) :
    Steady held w ⟨x.world, x.log ++ List.replicate n (.use fd)⟩ := by
  induction n with
  | zero =>
      rw [List.replicate_zero, List.append_nil]
      exact steady
  | succ n ih =>
      rw [List.replicate_succ', ← List.append_assoc]
      exact ih.touch own

section Direct
variable {ε α : Type}

/-- A method after which the books are kept and the world is as it was. -/
abbrev Keeps (op : SocketOperation) (held : Set ℤ) (w : World)
    (m : Method kernel Bool ε α) : Prop :=
  Method.Keeps (directAnswers orderly op) (Steady held w) m

/-- A method that leaves the socket to its cleaner. -/
abbrev Leaves (op : SocketOperation) (n : Numbers) (m : Method kernel Bool ε α) : Prop :=
  Method.Keeps (directAnswers orderly op) (Alive n) m

theorem leaves_of_keeps {m : Method kernel Bool ε α}
    (keeps : ∀ held w, Holding n w held → Keeps op held w m) :
    Leaves op n m := by
  rintro x completed ⟨held, holding, kept⟩
  exact amwp_mono (keeps held x.world holding x completed ⟨rfl, kept⟩)
    fun _ _ _ steady => steady.alive holding

/-- What is asked for besides `begin` is answered as ever. -/
theorem directAnswers_other {ev : Event kernel} (other : ev.1 ≠ .begin)
    (answer : directAnswers orderly op x ev x') :
    answers Truthful x ev x' := by
  obtain ⟨e, r⟩ := ev
  cases e with
  | begin => exact absurd rfl other
  | _ => exact answer

theorem keeps_get {field : Field} {f : ℤ → Method kernel Bool ε α}
    (next : Keeps op held w (f (w.fields field))) :
    Keeps op held w (get field >>= f) := by
  intro x completed steady
  apply amwp_request_bind
  rintro r ⟨w', log'⟩ ⟨⟨rfl, same⟩, -, written⟩
  obtain rfl : w' = x.world := same
  obtain rfl : log' = x.log := written.trans (List.append_nil _)
  obtain ⟨world, log⟩ := x
  obtain rfl : world = w := steady.1
  exact ⟨trivial, next ⟨world, log⟩ completed steady⟩

theorem keeps_use {e : Request} {fd : ℤ} (about : uses e = some fd)
    (own : fd ∈ held ∨ fd = INVALID_FD) {f : Answer e → Method kernel Bool ε α}
    (next : ∀ r, Keeps op held w (f r)) : Keeps op held w (ask e >>= f) := by
  intro x completed steady
  apply amwp_request_bind
  rintro r ⟨w', log'⟩ answer
  have other : e ≠ .begin := by
    rintro rfl
    cases about
  obtain ⟨answered, -, written⟩ := directAnswers_other other answer
  obtain ⟨same, deed⟩ := answers_uses about answered
  obtain rfl : w' = x.world := same
  obtain rfl : log' = x.log ++ [.use fd] := written.trans (congrArg (x.log ++ ·) deed)
  exact ⟨trivial, next r _ completed (steady.touch own)⟩

theorem keeps_poll {port cancel timeout : ℤ} (own : port ∈ held ∧ cancel ∈ held)
    {f : Except Errno PollResult → Method kernel Bool ε α} (next : ∀ r, Keeps op held w (f r)) :
    Keeps op held w (ask (.poll port cancel timeout) >>= f) := by
  intro x completed steady
  apply amwp_request_bind
  rintro r ⟨w', log'⟩ ⟨⟨-, same⟩, -, written⟩
  obtain rfl : w' = x.world := same
  obtain rfl : log' = x.log ++ [.use port, .use cancel] := written
  have both := (steady.touch (.inl own.1)).touch (.inl own.2)
  rw [List.append_assoc] at both
  exact ⟨trivial, next r _ completed both⟩

/-- The requests that no descriptor has to do with. -/
def quiet : Request → Bool
  | .sleep _ | .usleep _ | .interrupted | .channelClosed => true
  | _ => false

theorem keeps_quiet {e : Request} (own : quiet e = true) :
    Keeps op held w (ask e : Method kernel Bool ε (Answer e)) := by
  apply Method.Keeps.request
  rintro ⟨world, log⟩ r ⟨world', log'⟩ steady answer
  have same : world' = world ∧ log' = log ++ [] := by
    cases e with
    | sleep _ => exact ⟨answer.1, answer.2.2⟩
    | usleep _ => exact ⟨answer.1, answer.2.2⟩
    | interrupted => exact ⟨answer.1, answer.2.2⟩
    | channelClosed => exact ⟨answer.1, answer.2.2⟩
    | _ => cases own
  obtain ⟨rfl, rfl⟩ := same
  exact ((List.append_nil log).symm ▸ steady :)

section Calls
variable (handles : Handles held w)
include handles

theorem isFdValid_keeps : Keeps op held w isFdValid := by
  refine keeps_get (keeps_use rfl handles.fd fun flags => ?_)
  cases flags <;> exact .pure _

theorem formatMsg_keeps (portName : String) (nee : Errno) (formatString : String) :
    Keeps op held w (formatMsg portName nee formatString) := by
  apply keeps_get
  split
  · exact .pure _
  · refine .bind (isFdValid_keeps handles) fun valid => ?_
    split <;> exact .pure _

omit handles in
theorem endBlocking_keeps : Keeps op held w endBlocking := by
  refine .bind .locals fun completed => .bind (keeps_quiet rfl) fun interrupted => ?_
  split
  · exact .raise _
  split
  · exact .pure _
  refine .bind (keeps_quiet rfl) fun closed => ?_
  split
  · exact .raise _
  · exact .pure _

omit handles in
/-- A blocking part works on what `begin` has left. -/
theorem blocking_leaves {body : Action Unit} (keeps : ∀ held w, Holding n w held →
    (op.polls = true → w.fields .cleanerFd ≠ INVALID_FD) → Keeps op held w body) :
    Leaves op n (blocking body) := by
  refine .bind (.assign _) fun _ => .tryFinally ?_ (leaves_of_keeps fun _ _ _ => endBlocking_keeps)
  intro x completed alive
  apply amwp_request_bind
  rintro r x' ⟨begun, beginning⟩
  obtain ⟨held, holding, kept⟩ := begun_alive alive begun
  refine ⟨trivial, amwp_mono (keeps held x'.world holding beginning x' completed ⟨rfl, kept⟩) ?_⟩
  exact fun _ _ _ steady => steady.alive holding

omit handles in
theorem complete_keeps : Keeps op held w complete := .assign _

theorem breakCondition_keeps (portName : String) (request : Ioctl) {completing : Action Unit}
    (keeps : Keeps op held w completing) (formatString : String) :
    Keeps op held w (breakCondition portName request completing formatString) := by
  refine keeps_get (keeps_use rfl handles.fd fun result => ?_)
  cases result with
  | ok => exact .pure _
  | error nee => exact .bind keeps fun _ => .bind (formatMsg_keeps handles portName nee
      formatString) fun _ => .raise _

omit handles in
theorem sendBreak_leaves (portName : String) (duration : ℤ) :
    Leaves op n (sendBreak portName duration) := by
  rw [sendBreak]
  split
  · exact .raise _
  refine blocking_leaves fun held w holding _ => ?_
  have condition : ∀ request formatString,
      Keeps op held w (breakCondition portName request complete formatString) :=
    fun request formatString =>
      breakCondition_keeps holding.handles portName request complete_keeps formatString
  refine .bind (condition _ _) fun _ => .bind (keeps_quiet rfl) fun interrupted => ?_
  split
  · exact .bind (condition _ _) fun _ => .bind complete_keeps fun _ => .raise _
  · exact .bind (condition _ _) fun _ => complete_keeps

omit handles in
theorem setBreak_leaves (portName : String) (enabled : Bool) :
    Leaves op n (setBreak portName enabled) :=
  leaves_of_keeps fun _ _ holding => breakCondition_keeps holding.handles portName _ (.pure ()) _

omit handles in
theorem checkDrainable_keeps (port cancel : BitVec 16) :
    Keeps op held w (checkDrainable port cancel) := by
  rw [checkDrainable]
  split
  · exact .raise _
  split
  · exact .pure _
  split
  · exact .raise _
  split
  · refine .bind complete_keeps fun _ => keeps_get ?_
    split <;> exact .raise _
  · apply keeps_get
    split <;> exact .raise _

omit handles in
theorem drainOutputBuffer_leaves (portName : String) (pollWriteTimeout : ℤ)
    (polling : op.polls = true) :
    Leaves op n (drainOutputBuffer portName pollWriteTimeout) := by
  refine blocking_leaves fun held w holding unclosed => ?_
  have handles := holding.handles
  refine keeps_get (keeps_get
    (keeps_poll (handles.polled (unclosed polling) .write) fun polled => ?_))
  rcases polled with nee | (_ | ⟨portEvents, cancelEvents⟩)
  on_goal 1 =>
    refine .bind (formatMsg_keeps handles portName nee _) fun _ => .bind (.raise _) fun _ => ?_
  on_goal 2 => refine .bind (.raise _) fun _ => ?_
  on_goal 3 => refine .bind (checkDrainable_keeps portEvents cancelEvents) fun _ => ?_
  -- the descriptor is drained, whatever `poll` has reported
  all_goals
    refine keeps_get (keeps_use rfl handles.fd fun drained => .bind complete_keeps fun _ => ?_)
    cases drained with
    | ok => exact .pure _
    | error nee => exact .bind (formatMsg_keeps handles portName nee _) fun _ => .raise _

end Calls
end Direct

theorem operates_alive (alive : Alive n x) (operates : Operates orderly x op x') : Alive n x' := by
  cases operates with
  | transfer returns answered => exact transfer_alive alive returns answered
  | configure k =>
      obtain ⟨held, holding, kept⟩ := alive
      exact (replicate_steady ⟨rfl, kept⟩ holding.handles.configurationFd k).alive holding
  | @direct call _ _ _ _ returns answered =>
      have leaves : Leaves (.direct call) n call.action := by
        cases call with
        | sendBreak portName duration => exact sendBreak_leaves portName duration
        | setBreak portName enabled => exact setBreak_leaves portName enabled
        | drainOutputBuffer portName pollWriteTimeout =>
            exact drainOutputBuffer_leaves portName pollWriteTimeout rfl
      exact Method.amwp_returns (leaves x false alive) returns answered
  | close shut shutting => exact Method.amwp_returns (implCloseChannel_alive alive) shut shutting

theorem operating_alive (alive : Alive n x) {ops : List SocketOperation}
    (operating : Operating orderly x ops x') :
    Alive n x' := by
  induction operating with
  | nil => exact alive
  | cons first rest ih => exact ih (operates_alive alive first)

end Operations

section Cleaning
variable {n : Numbers} {held : Set ℤ} {x x' : State} {completed : Bool}
  {event : Direction}

/-- What is left of the port for the cleaner. -/
structure Cleanable (n : Numbers) (x : State) : Prop where
  cleanerEventFd : ∀ e side, x.world.fields (.cleanerEventFd e side) = n.event e side
  port : x.world.fields .cleanerFd = n.port ∧ Kept n.all x ∨
    x.world.fields .cleanerFd = INVALID_FD ∧ Kept (n.all \ {n.port}) x

theorem Alive.cleanable (alive : Alive n x) : Cleanable n x := by
  obtain ⟨held, holding, kept⟩ := alive
  cases holding with
  | opened opened => exact ⟨opened.cleanerEventFd, .inl ⟨opened.cleanerFd, kept⟩⟩
  | unclosed cleared cleanerFd => exact ⟨cleared.cleanerEventFd, .inl ⟨cleanerFd, kept⟩⟩
  | closed cleared cleanerFd => exact ⟨cleared.cleanerEventFd, .inr ⟨cleanerFd, kept⟩⟩

theorem Cleanable.use (cleanable : Cleanable n x) (e side : Direction) (readable : ℤ → Bool) :
    Cleanable n ⟨{ x.world with readable := readable }, x.log ++ [.use (n.event e side)]⟩ := by
  refine ⟨cleanable.cleanerEventFd, ?_⟩
  rcases cleanable.port with ⟨field, kept⟩ | ⟨field, kept⟩
  · exact .inl ⟨field, (kept.use (Numbers.event_mem e side)).world rfl⟩
  · exact .inr ⟨field, (kept.use ⟨Numbers.event_mem e side, n.port_apart e side⟩).world rfl⟩

theorem signal_ends (cleanable : Cleanable n x) :
    ends Releases x completed (FdCleaner.signal event) (fun x' _ y => y = .ok () ∧
      Cleanable n x') := by
  apply ends_get
  split
  · apply ends_get
    rw [cleanable.cleanerEventFd]
    refine ends_write fun written readable => ?_
    have cleanable := cleanable.use event .write readable
    cases written with
    | error nee => exact amwp_pure ⟨rfl, cleanable⟩
    | ok =>
        refine ends_ask fun r w' answer _ => amwp_pure ⟨rfl, ?_⟩
        obtain rfl : w' = _ := answer
        simpa only [deeds, List.append_nil] using cleanable
  · exact amwp_pure ⟨rfl, cleanable⟩

theorem closePort_ends (cleanable : Cleanable n x) :
    ends Releases x completed FdCleaner.closePort (fun x' _ y => y = .ok () ∧
    Kept (n.all \ {n.port}) x' ∧
      ∀ e side, x'.world.fields (.cleanerEventFd e side) = n.event e side) := by
  obtain ⟨events, port⟩ := cleanable
  apply ends_get
  rcases port with ⟨field, kept⟩ | ⟨field, kept⟩
  · have valid : x.world.fields .cleanerFd ≠ INVALID_FD := field ▸ n.port_valid
    rw [if_pos valid]
    apply ends_get
    rw [field]
    refine ends_release (fun _ _ released => released) ((kept.opened n.port).mpr Numbers.port_mem)
      fun closed => ?_
    have kept := kept.close Numbers.port_mem
    cases closed with
    | ok => exact ends_set_last ⟨rfl, kept.world rfl,
        fun e side => (store_other (by simp)).trans (events e side)⟩
    | error nee => exact amwp_pure ⟨rfl, kept, events⟩
  · rw [field, if_neg (by decide)]
    exact amwp_pure ⟨rfl, kept, events⟩

theorem closeEvent_ends (kept : Kept held x) (own : ∀ side, n.event event side ∈ held)
    (events : ∀ side, x.world.fields (.cleanerEventFd event side) = n.event event side) :
    ends Releases x completed (FdCleaner.closeEvent event) (fun x' _ y => y = .ok () ∧
      Kept ((held \ {n.event event .write}) \ {n.event event .read}) x' ∧
      ∀ field, (∀ side, field ≠ .cleanerEventFd event side) →
        x'.world.fields field = x.world.fields field) := by
  apply ends_get
  have valid : x.world.fields (.cleanerEventFd event .write) ≠ INVALID_FD :=
    events .write ▸ n.event_valid event .write
  rw [if_pos valid]
  apply ends_get
  rw [events]
  refine ends_release (fun _ _ released => released) ((kept.opened _).mpr (own .write)) fun _ => ?_
  have kept := kept.close (own .write)
  have read_field : ∀ fd, (x.world.closed fd).fields (.cleanerEventFd event .read) =
    n.event event .read :=
    fun _ => events .read
  have write_field : ∀ fd, (x.world.closed fd).fields (.cleanerEventFd event .write) =
    n.event event .write :=
    fun _ => events .write
  refine ends_get (ends_get ?_)
  rw [read_field, write_field]
  have forgotten : ∀ (w : World) field, (∀ side, field ≠ .cleanerEventFd event side) →
      ((w.store (.cleanerEventFd event .read) INVALID_FD).store
        (.cleanerEventFd event .write) INVALID_FD).fields field =
        w.fields field := fun w field other =>
          (store_other (other .write)).trans (store_other (other .read))
  by_cases two : n.event event .read = n.event event .write
  · rw [if_neg fun both => both.2 two]
    refine ends_set (ends_set_last ⟨rfl, ?_, forgotten _⟩)
    rw [two, Set.sdiff_sdiff, Set.union_self]
    exact kept.world rfl
  · rw [if_pos ⟨n.event_valid event .read, two⟩]
    apply ends_get
    rw [read_field]
    have rest : n.event event .read ∈ held \ {n.event event .write} := ⟨own .read, two⟩
    refine ends_release (fun _ _ released => released) ((kept.opened _).mpr rest) fun _ => ?_
    exact ends_set (ends_set_last ⟨rfl, (kept.close rest).world rfl, forgotten _⟩)

/-- The cleaner closes what is left. -/
theorem run_ends (cleanable : Cleanable n x) :
    ends Releases x completed FdCleaner.run (fun x' _ _ => Kept ∅ x') := by
  refine ends_bind_ok (signal_ends cleanable) fun x₁ _ cleanable => ?_
  refine ends_bind_ok (signal_ends cleanable) fun x₂ _ cleanable => ?_
  refine ends_bind_ok (closePort_ends cleanable) fun x₃ _ closed => ?_
  obtain ⟨kept, events⟩ := closed
  have own : ∀ e side, n.event e side ∈ n.all \ {n.port} :=
    fun e side => ⟨Numbers.event_mem e side, n.port_apart e side⟩
  refine ends_bind_ok (closeEvent_ends kept (own .read) (events .read)) fun x₄ _ closed => ?_
  obtain ⟨kept, same⟩ := closed
  have own' : ∀ side, n.event .write side ∈ ((n.all \ {n.port}) \ {n.event .read .write}) \
    {n.event .read .read} :=
    fun side => ⟨⟨own .write side, Ne.symm (n.event_apart .write side)⟩,
      Ne.symm (n.event_apart .read side)⟩
  have events' : ∀ side, x₄.world.fields (.cleanerEventFd .write side) = n.event .write side :=
    fun side => (same _ (by simp)).trans (events .write side)
  apply amwp_mono (closeEvent_ends kept own' events')
  rintro x₅ completed₅ y ⟨rfl, kept, -⟩
  have none_left : ((((n.all \ {n.port}) \ {n.event .read .write}) \ {n.event .read .read}) \
      {n.event .write .write}) \ {n.event .write .read} = ∅ := by
    rw [Set.eq_empty_iff_forall_notMem]
    rintro fd ⟨⟨⟨⟨⟨rfl | ⟨_ | _, _ | _, rfl⟩, port⟩, read_write⟩, read_read⟩,
      write_write⟩, write_read⟩
    · exact port rfl
    · exact read_read rfl
    · exact read_write rfl
    · exact write_read rfl
    · exact write_write rfl
  rwa [none_left] at kept

end Cleaning

section Lives
variable {HAVE_SYS_EVENTFD_H : Bool} {p : Platform} {raw : RawFlags}
  {portName : String} {r : Params} {ops : List SocketOperation} {x : State}

end Lives

section Examples

def settings : StructTermios := ⟨0, 0, 0xB00, 0, fun _ => 0, 13, 13⟩

/-- A system that gives out `5`, `6` and `7`, or none after `6` where its table is full. -/
def World.serve (full : Bool) (w : World) : (e : Request) → Option (Answer e × World)
  | .get field => some (w.fields field, w)
  | .set field value => some ((), w.store field value)
  | .open _ => if w.opened 5 = false then some (.ok 5, w.obtain 5 5) else none
  | .eventfd =>
      if w.opened 6 = false then some (.ok 6, w.obtain 6 6)
      else if full = true then some (.error (.other "EMFILE"), w)
      else if w.opened 7 = false then some (.ok 7, w.obtain 7 7)
      else none
  | .tcgetattr fd => if fd = INVALID_FD then none else some (.ok settings, w)
  | .setParams _ _ _ => some (.ok (), w)
  | .tcflush fd => if fd = INVALID_FD then none else some (.ok (), w)
  | .ioctl fd _ => some (if fd = INVALID_FD then .error .EBADF else .ok (), w)
  | .write fd => if fd = INVALID_FD then none else some (.ok (), w.written fd)
  | .close fd => if fd = INVALID_FD then none else some (.ok (), w.closed fd)
  | .usleep _ => some (.ok (), w)
  | .sleep _ | .interrupted | .channelClosed => some (false, w)
  | .begin => some ((), w)
  | .pipe | .tcdrain _ | .fcntl _ _ | .poll _ _ _ => none

/-- What an open descriptor is asked to close it closes. -/
def Closes (w : World) : Event kernel → World → Prop
  | ⟨.close fd, r⟩, _ => w.opened fd = true → r = .ok ()
  | _, _ => True

/-- Every `close` of an open descriptor succeeds, and anything else may fail. -/
def closing : Proviso := ⟨Closes, Closes, Closes, fun _ _ => True⟩

section Serving
variable {full : Bool} {w : World} {x : State} {e : Request}

theorem serve_answers {y : Answer e × World} (served : w.serve full e = some y) :
    w.answers ⟨e, y.1⟩ y.2 := by
  cases e <;> simp only [World.serve] at served <;> (repeat' split at served) <;> cases served <;>
    simp_all [World.answers, World.Fresh, World.Refuses, INVALID_FD]

theorem serve_closes {y : Answer e × World} (served : w.serve full e = some y) :
    Closes w ⟨e, y.1⟩ y.2 ∧ Truthful w ⟨e, y.1⟩ y.2 ∧ Releases w ⟨e, y.1⟩ y.2 := by
  cases e with
  | close fd =>
      simp only [World.serve] at served
      split at served <;> cases served
      simp [Closes, Truthful, Releases, World.closed]
  | _ => exact ⟨trivial, trivial, trivial⟩

theorem serve_early {y : Answer e × World} (served : w.serve false e = some y) :
    Early w ⟨e, y.1⟩ := by
  cases e <;> simp only [World.serve] at served <;> (repeat' split at served) <;> cases served <;>
    simp_all [Early, failsEvent]

def State.serve (full : Bool) (x : State) (e : Request) : Option (Answer e × State) :=
  (x.world.serve full e).map fun y => (y.1, ⟨y.2, x.log ++ deeds y.2 ⟨e, y.1⟩⟩)

theorem serve_lawful {ok : World → Event kernel → World → Prop}
    (meets : ∀ w e y, World.serve full w e = some y → ok w ⟨e, y.1⟩ y.2) {y : Answer e × State}
    (served : x.serve full e = some y) : answers ok x ⟨e, y.1⟩ y.2 := by
  obtain ⟨z, given, rfl⟩ := Option.map_eq_some_iff.mp served
  exact ⟨serve_answers given, meets _ _ _ given, rfl⟩

/-- No thread is interrupted. -/
theorem serve_direct {op : SocketOperation} (polling : op.polls = false) {y : Answer e × State}
    (served : x.serve full e = some y) : directAnswers orderly op x ⟨e, y.1⟩ y.2 := by
  have answered := serve_lawful (fun _ _ _ served => (serve_closes served).2.1) served
  cases e with
  | begin =>
      obtain ⟨z, given, rfl⟩ := Option.map_eq_some_iff.mp served
      cases given
      simp only [deeds, List.append_nil]
      exact ⟨.calm, fun polls => absurd (polling.symm.trans polls) (by decide)⟩
  | _ => exact answered

end Serving

def rawFlags : RawFlags :=
  ⟨1, 2, 8, 0x20, 0x40, 0x80, 0x100, 1, 8, 0x10, 0x100, 0x80, 0x400, 0x800, 0x8000, 0x4000, 16, 17⟩

/-- Where a call that returns normally leaves the socket. -/
def State.perform (x : State) (call : Action Unit) : Option State :=
  match execute (State.serve false) 60 x (call false) with
  | some (_, (.ok (), _), x') => some x'
  | _ => none

theorem perform_sound {law : State → Event kernel → State → Prop}
    (lawful : ∀ x e y, State.serve false x e = some y → law x ⟨e, y.1⟩ y.2)
    {x x' : State} {call : Action Unit} (performed : x.perform call = some x') :
    ∃ h completed, Returns (call false) h (.ok (), completed) ∧ Answered law x h x' := by
  rw [State.perform] at performed
  split at performed
  · next h completed x'' executed =>
      cases performed
      exact ⟨h, completed, execute_sound lawful 60 executed⟩
  · cases performed

end Examples
end Spsw.Jnhw.PosixSerialPortSocket

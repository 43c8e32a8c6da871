import Spsw.Jnhw.SocketOperations
import Spsw.Jnhw.SocketState
import Spsw.Resources.Ledger

/-!
# The ledger of the descriptors

What each answer does to descriptors is written down. While the books are kept the ledger
and the system agree on what is open.
-/
namespace Spsw.Jnhw.PosixSerialPortSocket
open Interaction
open Interaction.Program (Returns)
open Interaction.Method (raise amwp amwp_mono amwp_bind amwp_request amwp_request_bind
  amwp_pure amwp_raise arest)
open Resources (Deed Accounted Books stage)

/-- What the answer to a request does to descriptors, where it leaves `w`. A `close` that leaves
its descriptor open does no more than use it. -/
def deeds (w : World) : Event kernel → List (Deed ℤ)
  | ⟨.open _, .ok fd⟩ => [.obtain fd]
  | ⟨.eventfd, .ok fd⟩ => [.obtain fd]
  | ⟨.pipe, .ok (read_fd, write_fd)⟩ => [.obtain read_fd, .obtain write_fd]
  | ⟨.tcgetattr fd, _⟩ => [.use fd]
  | ⟨.setParams fd _ _, _⟩ => [.use fd]
  | ⟨.tcflush fd, _⟩ => [.use fd]
  | ⟨.tcdrain fd, _⟩ => [.use fd]
  | ⟨.ioctl fd _, _⟩ => [.use fd]
  | ⟨.fcntl fd _, _⟩ => [.use fd]
  | ⟨.write fd, _⟩ => [.use fd]
  | ⟨.poll port cancel _, _⟩ => [.use port, .use cancel]
  | ⟨.close fd, _⟩ => if w.opened fd = true then [.use fd] else [.close fd]
  | _ => []

/-- The same for a call that finds its descriptor in the field. -/
def callDeeds (w : World) : Event posix → List (Deed ℤ)
  | ⟨.read _, _⟩ | ⟨.write _, _⟩ | ⟨.isFdValid, _⟩ => [.use (w.fields .fd)]
  | ⟨.poll d _, _⟩ => [.use (w.fields (.pollPortFd d)), .use (w.fields (.pollCancelFd d))]
  | _ => []

structure State where
  world : World
  log : List (Deed ℤ)

/-- A `close` releases its descriptor, whatever it reports. -/
def Releases (_ : World) : Event kernel → World → Prop
  | ⟨.close fd, _⟩, w' => w'.opened fd = false
  | _, _ => True

/-- A `close` that fails leaves its descriptor open. -/
def Truthful (w : World) : Event kernel → World → Prop
  | ⟨.close fd, r⟩, w' => w.opened fd = true → r ≠ .ok () → w'.opened fd = true
  | _, _ => True

/-- A call that creates a cancel event has failed. -/
def failsEvent : Event kernel → Bool
  | ⟨.eventfd, .error _⟩ => true
  | ⟨.pipe, .error _⟩ => true
  | ⟨.fcntl _ .F_SETFL, .error _⟩ => true
  | _ => false

/-- It has failed only while no other descriptor than that of the port was open. -/
def Early (w : World) (ev : Event kernel) : Prop :=
  failsEvent ev = true → ∀ fd fd', w.opened fd = true → w.opened fd' = true → fd = fd'

/-- The steps of the constructor after which everything can be given back. -/
structure Orderly (w : World) (ev : Event kernel) (w' : World) : Prop where
  early : Early w ev
  releases : Releases w ev w'

/-- What is asked of the steps of the constructor, of `implCloseChannel` and of the cleaner,
and of the state after the `begin` of an operation. -/
structure Proviso where
  constructing : World → Event kernel → World → Prop
  closing : World → Event kernel → World → Prop
  cleaning : World → Event kernel → World → Prop
  beginning : SocketOperation → World → Prop

/-- The cleaner has the number of the port until a `close` of it succeeds. -/
def orderly : Proviso where
  constructing := Orderly
  closing := Truthful
  cleaning := Releases
  beginning op w := op.polls = true → w.fields .cleanerFd ≠ INVALID_FD

/-- The answers of the system, where each step is `ok`. -/
def answers (ok : World → Event kernel → World → Prop) (x : State) (ev : Event kernel)
    (x' : State) : Prop :=
  x.world.answers ev x'.world ∧ ok x.world ev x'.world ∧ x'.log = x.log ++ deeds x'.world ev

/-- `begin()`: on a thread that is interrupted it closes the channel. -/
inductive Begun (ok : World → Event kernel → World → Prop) (x : State) : State → Prop
  | calm : Begun ok x x
  | interrupted {x' : State} {h : History kernel} {y : Except JavaException Unit × Bool}
      (shut : Returns (implCloseChannel false) h y) (shutting : Answered (answers ok) x h x') :
        Begun ok x x'

/-- The answers to one of the calls with descriptors of their own. -/
def directAnswers (proviso : Proviso) (op : SocketOperation) (x : State) :
    Event kernel → State → Prop
  | ⟨.begin, _⟩, x' => Begun proviso.closing x x' ∧ proviso.beginning op x'.world
  | ev, x' => answers proviso.closing x ev x'

/-- The answers to a call that runs alone: once the field is cleared there is no descriptor. -/
def callAnswers (proviso : Proviso) (op : SocketOperation) (x : State) : Event posix → State → Prop
  | ⟨.begin, _⟩, x' => Begun proviso.closing x x' ∧ proviso.beginning op x'.world
  | ev, x' => x.world.replies ev ∧ (x.world.fields .fd = INVALID_FD →
      shut ev) ∧ x'.world = x.world ∧
      x'.log = x.log ++ callDeeds x.world ev

/-- Nothing is open yet. -/
def State.initial : State :=
  ⟨⟨fun _ => INVALID_FD, fun _ => false, fun fd => fd, fun _ => false⟩, []⟩

/-- The books of the descriptors that are open. -/
structure Kept (held : Set ℤ) (x : State) : Prop where
  opened : ∀ fd, x.world.opened fd = true ↔ fd ∈ held
  books : Books held x.log
  invalid : stage x.log INVALID_FD = .unknown

/-- Nothing has been closed yet. -/
def New (x : State) : Prop := ∀ fd, .close fd ∉ x.log

section Steps
variable {held : Set ℤ} {w w' : World} {log : List (Deed ℤ)} {fd : ℤ}

theorem kept_initial : Kept ∅ .initial := ⟨fun _ => ⟨by simp [State.initial], by simp⟩, .nil, rfl⟩

theorem new_initial : New .initial := fun _ => List.not_mem_nil

/-- Only what is open counts. -/
theorem Kept.world (kept : Kept held ⟨w, log⟩) (same : w'.opened = w.opened) :
    Kept held ⟨w', log⟩ :=
  ⟨fun fd => (congrFun same fd).symm ▸ kept.opened fd, kept.books, kept.invalid⟩

theorem Kept.valid (kept : Kept held ⟨w, log⟩) : INVALID_FD ∉ held := by
  intro own
  have held := kept.books.own _ own
  rw [kept.invalid] at held
  cases held

theorem Kept.use (kept : Kept held ⟨w, log⟩) (own : fd ∈ held) :
    Kept held ⟨w, log ++ [.use fd]⟩ := by
  refine ⟨kept.opened, kept.books.use own, (Resources.stage_other ?_).trans kept.invalid⟩
  rintro rfl
  exact kept.valid own

theorem Kept.useInvalid (kept : Kept held ⟨w, log⟩) : Kept held ⟨w, log ++ [.use INVALID_FD]⟩ := by
  refine ⟨kept.opened, kept.books.use_unknown kept.invalid, ?_⟩
  rw [Resources.stage_snoc, kept.invalid]
  rfl

theorem Kept.touch (kept : Kept held ⟨w, log⟩) (own : fd ∈ held ∨ fd = INVALID_FD) :
    Kept held ⟨w, log ++ [.use fd]⟩ := by
  rcases own with own | rfl
  · exact kept.use own
  · exact kept.useInvalid

theorem Kept.close (kept : Kept held ⟨w, log⟩) (own : fd ∈ held) :
    Kept (held \ {fd}) ⟨w.closed fd, log ++ [.close fd]⟩ := by
  refine ⟨fun fd' => ?_, kept.books.close own, (Resources.stage_other ?_).trans kept.invalid⟩
  · by_cases same : fd' = fd
    · subst same
      simp [World.closed]
    · simp [World.closed, same, kept.opened]
  · rintro rfl
    exact kept.valid own

theorem Kept.obtain (kept : Kept held ⟨w, log⟩) (new : New ⟨w, log⟩)
    (fresh : w.Fresh fd) (readEnd : ℤ) :
    Kept (insert fd held) ⟨w.obtain fd readEnd, log ++ [.obtain fd]⟩ := by
  have outside : fd ∉ held := fun own => absurd ((kept.opened fd).mpr own) (by rw [fresh.1]; decide)
  have unknown := (kept.books.other fd outside).resolve_right fun closed =>
    new fd (Resources.close_mem_of_closed closed)
  have apart : (Deed.obtain fd).subject ≠ INVALID_FD := fresh.2
  refine ⟨fun fd' => ?_, kept.books.obtain unknown,
    (Resources.stage_other apart).trans kept.invalid⟩
  by_cases same : fd' = fd
  · subst same
    simp [World.obtain]
  · simp [World.obtain, same, kept.opened]

theorem New.snoc (new : New ⟨w, log⟩) {deed : Deed ℤ} (other : ∀ fd, deed ≠ .close fd) :
    New ⟨w', log ++ [deed]⟩ := by
  intro fd member
  rcases List.mem_append.mp member with old | last
  · exact new fd old
  · exact other fd (List.mem_singleton.mp last).symm

end Steps

section Rules
variable {α : Type} {x : State} {completed : Bool} {ε : Type}
  {f : ℤ → Method kernel Bool ε α} {post : State → Bool → Except ε α → Prop}
  {ok : World → Event kernel → World → Prop}

/-- What holds at the end of a part. -/
abbrev ends (ok : World → Event kernel → World → Prop) (x : State) (completed : Bool)
    (m : Method kernel Bool ε α) (post : State → Bool → Except ε α → Prop) : Prop :=
  amwp (answers ok) (fun _ => True) x completed m post

/-- A request, its answer, and what is written down. -/
theorem ends_ask {e : Request} {β : Type} {out : Answer e → β} {f : β → Method kernel Bool ε α}
    (next : ∀ r w', x.world.answers ⟨e, r⟩ w' → ok x.world ⟨e, r⟩ w' →
      ends ok ⟨w', x.log ++ deeds w' ⟨e, r⟩⟩ completed (f (out r)) post) :
    ends ok x completed (Method.request e out >>= f) post := by
  apply amwp_request_bind
  rintro r ⟨w', log'⟩ ⟨answer, meets, same⟩
  obtain rfl : log' = x.log ++ deeds w' ⟨e, r⟩ := same
  exact ⟨trivial, next r w' answer meets⟩

theorem ends_ask_last {e : Request} {out : Answer e → α}
    (next : ∀ r w', x.world.answers ⟨e, r⟩ w' →
    post ⟨w', x.log ++ deeds w' ⟨e, r⟩⟩ completed (.ok (out r))) :
    ends ok x completed (Method.request e out) post := by
  apply amwp_request
  rintro r ⟨w', log'⟩ ⟨answer, -, same⟩
  obtain rfl : log' = x.log ++ deeds w' ⟨e, r⟩ := same
  exact ⟨trivial, next r w' answer⟩

theorem ends_get {field : Field} (next : ends ok x completed (f (x.world.fields field)) post) :
    ends ok x completed (get field >>= f) post := by
  refine ends_ask fun r w' answer _ => ?_
  obtain ⟨rfl, rfl⟩ := answer
  simpa only [deeds, List.append_nil] using next

theorem ends_set {field : Field} {value : ℤ} {f : Unit → Method kernel Bool ε α}
    (next : ends ok ⟨x.world.store field value, x.log⟩ completed (f ()) post) :
    ends ok x completed (set field value >>= f) post := by
  refine ends_ask fun r w' answer _ => ?_
  obtain rfl : w' = x.world.store field value := answer
  simpa only [deeds, List.append_nil] using next

theorem ends_get_last {field : Field} {post : State → Bool → Except ε ℤ → Prop}
    (next : post x completed (.ok (x.world.fields field))) :
    ends ok x completed (get field) post := by
  refine ends_ask_last fun r w' answer => ?_
  obtain ⟨rfl, rfl⟩ := answer
  simpa only [deeds, List.append_nil] using next

theorem ends_set_last {field : Field} {value : ℤ} {post : State → Bool → Except ε Unit → Prop}
    (next : post ⟨x.world.store field value, x.log⟩ completed (.ok ())) :
    ends ok x completed (set field value) post := by
  refine ends_ask_last fun r w' answer => ?_
  obtain rfl : w' = x.world.store field value := answer
  simpa only [deeds, List.append_nil] using next

theorem ends_copy {source target : Field} {post : State → Bool → Except ε Unit → Prop}
    (next : post ⟨x.world.store target (x.world.fields source), x.log⟩ completed (.ok ())) :
    ends ok x completed (copy source target) post :=
  ends_get (ends_set_last next)

theorem ends_copy_bind {source target : Field} {f : Unit → Method kernel Bool ε α}
    (next : ends ok ⟨x.world.store target (x.world.fields source), x.log⟩ completed (f ()) post) :
    ends ok x completed (copy source target >>= f) post :=
  amwp_bind (ends_copy next)

/-- The descriptor of a call that changes nothing. -/
def uses : Request → Option ℤ
  | .tcgetattr fd | .setParams fd _ _ | .tcflush fd | .tcdrain fd | .ioctl fd _ | .fcntl fd _ =>
      some fd
  | _ => none

theorem answers_uses {w w' : World} {e : Request} {fd : ℤ} (own : uses e = some fd) {r : Answer e}
    (answer : w.answers ⟨e, r⟩ w') : w' = w ∧ deeds w' ⟨e, r⟩ = [.use fd] := by
  cases e with
  | tcgetattr fd => exact ⟨answer.2, by cases own; rfl⟩
  | setParams fd termios r => exact ⟨answer, by cases own; rfl⟩
  | tcflush fd => exact ⟨answer.2, by cases own; rfl⟩
  | tcdrain fd => exact ⟨answer.2, by cases own; rfl⟩
  | ioctl fd request => exact ⟨answer.2, by cases own; rfl⟩
  | fcntl fd command => exact ⟨answer.2, by cases own; rfl⟩
  | _ => cases own

theorem ends_use {e : Request} {fd : ℤ} (own : uses e = some fd)
    {f : Answer e → Method kernel Bool ε α} (next : ∀ r, ok x.world ⟨e, r⟩ x.world →
    ends ok ⟨x.world, x.log ++ [.use fd]⟩ completed (f r) post) :
    ends ok x completed (ask e >>= f) post := by
  refine ends_ask fun r w' answer meets => ?_
  obtain ⟨rfl, about⟩ := answers_uses own answer
  rw [about]
  exact next r meets

/-- A cancel event is written, or not. -/
theorem ends_write {fd : ℤ} {f : Except Errno Unit → Method kernel Bool ε α}
    (next : ∀ r readable, ends ok ⟨{ x.world with readable := readable },
    x.log ++ [.use fd]⟩ completed (f r) post) :
    ends ok x completed (ask (.write fd) >>= f) post := by
  refine ends_ask fun r w' answer _ => ?_
  obtain ⟨-, done, failed⟩ := answer
  by_cases written : r = .ok ()
  · obtain rfl : w' = x.world.written fd := done written
    exact next r _
  · obtain rfl : w' = x.world := failed written
    exact next r _

/-- A `close` has closed, or has failed and left the descriptor open. -/
theorem ends_close {fd : ℤ} (opened : x.world.opened fd = true)
    {f : Except Errno Unit → Method kernel Bool ε α}
    (released : ∀ r, ok x.world ⟨.close fd, r⟩ (x.world.closed fd) →
      ends ok ⟨x.world.closed fd, x.log ++ [.close fd]⟩ completed (f r) post)
    (kept : ∀ nee, ok x.world ⟨.close fd, .error nee⟩ x.world →
      ends ok ⟨x.world, x.log ++ [.use fd]⟩ completed (f (.error nee)) post) :
    ends ok x completed (ask (.close fd) >>= f) post := by
  refine ends_ask fun r w' answer meets => ?_
  rcases answer.2 with same | ⟨failed, same⟩
  · obtain rfl : w' = x.world.closed fd := same
    have gone : ¬(x.world.closed fd).opened fd = true := by simp [World.closed]
    simp only [deeds, if_neg gone]
    exact released r meets
  · obtain rfl : w' = x.world := same
    simp only [deeds, if_pos opened]
    cases r with
    | ok => exact absurd rfl failed
    | error nee => exact kept nee meets

/-- Where a `close` releases its descriptor in any case. -/
theorem ends_release {fd : ℤ} (releases : ∀ ev w', ok x.world ev w' → Releases x.world ev w')
    (opened : x.world.opened fd = true) {f : Except Errno Unit → Method kernel Bool ε α}
    (next : ∀ r, ends ok ⟨x.world.closed fd, x.log ++ [.close fd]⟩ completed (f r) post) :
    ends ok x completed (ask (.close fd) >>= f) post := by
  refine ends_close opened (fun r _ => next r) fun nee meets => ?_
  have gone : x.world.opened fd = false := releases _ _ meets
  rw [opened] at gone
  cases gone

/-- A part that does not throw. -/
theorem ends_bind_ok {m : Method kernel Bool ε Unit}
    {f : Unit → Method kernel Bool ε α} {mid : State → Prop}
    (first : ends ok x completed m fun x' _ y => y = .ok () ∧ mid x')
    (next : ∀ x' completed, mid x' → ends ok x' completed (f ()) post) :
    ends ok x completed (m >>= f) post := by
  apply amwp_bind
  apply amwp_mono first
  rintro x' completed y ⟨rfl, here⟩
  exact next x' completed here

end Rules

end Spsw.Jnhw.PosixSerialPortSocket

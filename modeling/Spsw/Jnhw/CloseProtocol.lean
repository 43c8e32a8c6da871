import Spsw.Interaction.Requests
import Spsw.Jnhw.ReadBuffer
import Spsw.Jnhw.SocketState
import Spsw.Jnhw.StoppedCalls

/-!
# The close protocol

`implCloseChannel` runs among any number of reads and writes. It clears the field before
it writes the cancel events, and writes both before it closes the descriptor; so whoever
sees an event or misses the descriptor finds the field cleared.
-/
namespace Spsw.Jnhw.CloseProtocol
open Interaction
open Interaction.Method (Only Within amwp amwp_bind amwp_request amwp_request_bind amwp_pure)
open PosixSerialPortSocket (World Numbers Field kernel Action store_self
  store_other implCloseChannel)

/-- The events of closing are written without an error. -/
def Written : Event kernel → Prop
  | ⟨.write _, r⟩ => r = .ok ()
  | _ => True

/-- What the closer is answered. -/
def answers (w : World) (ev : Event kernel) (w' : World) : Prop := w.answers ev w' ∧ Written ev

/-- The invariant of a socket that is being closed. -/
structure Closing (n : Numbers) (w : World) : Prop where
  fd : w.fields .fd = n.port ∨ w.fields .fd = INVALID_FD
  pollPortFd : ∀ d, w.fields (.pollPortFd d) = n.port
  pollCancelFd : ∀ d, w.fields (.pollCancelFd d) = n.event d .read
  event : ∀ e, w.opened (n.event e .read) = true
  cleared : ∀ e, w.readable (n.event e .read) = true → w.fields .fd = INVALID_FD
  closed : w.opened n.port = false → ∀ e, w.readable (n.event e .read) = true

/-- The field is cleared, and the closer still knows the events. -/
structure Marked (n : Numbers) (w : World) : Prop extends Closing n w where
  mark : w.fields .fd = INVALID_FD
  cancelEventFd : ∀ e, w.fields (.cancelEventFd e .write) = n.event e .write
  readEnd : ∀ e, w.readEnd (n.event e .write) = n.event e .read

section Steps
variable {n : Numbers} {w w' : World}

theorem closing_opened (opened : w.Opened n) : Closing n w where
  fd := .inl opened.fd
  pollPortFd := opened.pollPortFd
  pollCancelFd := opened.pollCancelFd
  event e := opened.event e .read
  cleared e readable := absurd readable (by rw [opened.quiet e]; decide)
  closed shut := absurd opened.port (by rw [shut]; decide)

/-- Fields that no call looks at. -/
def minor : Field → Bool
  | .fd | .pollPortFd _ | .pollCancelFd _ => false
  | _ => true

theorem Closing.store (closing : Closing n w) {field : Field}
    (own : minor field = true) (value : ℤ) :
    Closing n (w.store field value) := by
  have same : ∀ other, minor other = false →
      (w.store field value).fields other = w.fields other := by
    intro other shown
    apply store_other
    rintro rfl
    rw [own] at shown
    cases shown
  constructor
  case fd => exact same .fd rfl ▸ closing.fd
  case pollPortFd => exact fun d => (same (.pollPortFd d) rfl).trans (closing.pollPortFd d)
  case pollCancelFd => exact fun d => (same (.pollCancelFd d) rfl).trans (closing.pollCancelFd d)
  case event => exact closing.event
  case cleared => exact fun e readable => (same .fd rfl).trans (closing.cleared e readable)
  case closed => exact closing.closed

theorem marked_opened (opened : w.Opened n) : Marked n (w.store .fd INVALID_FD) where
  fd := .inr store_self
  pollPortFd d := (store_other (by simp)).trans (opened.pollPortFd d)
  pollCancelFd d := (store_other (by simp)).trans (opened.pollCancelFd d)
  event e := opened.event e .read
  cleared _ _ := store_self
  closed shut := absurd opened.port (by rw [show w.opened n.port = false from shut]; decide)
  mark := store_self
  cancelEventFd e := (store_other (by simp)).trans (opened.cancelEventFd e .write)
  readEnd := opened.readEnd

theorem Marked.store (marked : Marked n w) {field : Field} (own : minor field = true)
    (other : ∀ e, field ≠ .cancelEventFd e .write) (value : ℤ) :
    Marked n (w.store field value) where
  toClosing := marked.toClosing.store own value
  mark := (store_other (by rintro rfl; cases own)).trans marked.mark
  cancelEventFd e := (store_other (other e).symm).trans (marked.cancelEventFd e)
  readEnd := marked.readEnd

/-- An event is written only after the field is cleared. -/
theorem Marked.written (marked : Marked n w) (e : Direction) :
    Marked n (w.written (n.event e .write)) where
  fd := .inr marked.mark
  pollPortFd := marked.pollPortFd
  pollCancelFd := marked.pollCancelFd
  event := marked.event
  cleared _ _ := marked.mark
  closed shut e' := by
    have before := marked.closed shut e'
    by_cases same : n.event e' .read = w.readEnd (n.event e .write)
    · exact (congrArg _ same).trans (Function.update_self _ _ _)
    · exact (Function.update_of_ne same _ _).trans before
  mark := marked.mark
  cancelEventFd := marked.cancelEventFd
  readEnd := marked.readEnd

theorem Marked.readable_written (marked : Marked n w) (e : Direction) :
    (w.written (n.event e .write)).readable (n.event e .read) = true := by
  rw [← marked.readEnd e]
  exact Function.update_self _ _ _

theorem readable_kept {fd fd' : ℤ} (readable : w.readable fd = true) :
    (w.written fd').readable fd = true := by
  by_cases same : fd = w.readEnd fd'
  · exact (congrArg _ same).trans (Function.update_self _ _ _)
  · exact (Function.update_of_ne same _ _).trans readable

/-- The descriptor is closed only after both events are written. -/
theorem Marked.shut (marked : Marked n w) (both : ∀ e, w.readable (n.event e .read) = true) :
    Marked n (w.closed n.port) where
  fd := .inr marked.mark
  pollPortFd := marked.pollPortFd
  pollCancelFd := marked.pollCancelFd
  event e := (Function.update_of_ne (n.port_apart e .read) _ _).trans (marked.event e)
  cleared _ _ := marked.mark
  closed _ := both
  mark := marked.mark
  cancelEventFd := marked.cancelEventFd
  readEnd := marked.readEnd

section Requests
variable {α : Type} {Inv : World → Prop} {completed : Bool}
  {post : World → Bool → Except JavaException α → Prop}

theorem amwp_get {field : Field} {f : ℤ → Action α} (here : Inv w)
    (next : amwp answers Inv w completed (f (w.fields field)) post) :
    amwp answers Inv w completed (PosixSerialPortSocket.get field >>= f) post := by
  apply amwp_request_bind
  rintro r w' ⟨⟨rfl, rfl⟩, -⟩
  exact ⟨here, next⟩

theorem amwp_set {field : Field} {value : ℤ} {f : Unit → Action α}
    (here : Inv (w.store field value))
    (next : amwp answers Inv (w.store field value) completed (f ()) post) :
    amwp answers Inv w completed (PosixSerialPortSocket.set field value >>= f) post := by
  apply amwp_request_bind
  rintro r w' ⟨rfl, -⟩
  exact ⟨here, next⟩

theorem amwp_copy {source target : Field} {f : Unit → Action α} (here : Inv w)
    (stored : Inv (w.store target (w.fields source)))
    (next : amwp answers Inv (w.store target (w.fields source)) completed (f ()) post) :
    amwp answers Inv w completed (PosixSerialPortSocket.copy source target >>= f) post := by
  refine amwp_bind (amwp_get here (amwp_request ?_))
  rintro r w' ⟨rfl, -⟩
  exact ⟨stored, next⟩

end Requests

theorem forget_closes (closing : Closing n w) (both : ∀ e, w.readable (n.event e .read) = true)
    (completed : Bool) :
    amwp answers (Closing n) w completed (do
        PosixSerialPortSocket.set .cleanerFd INVALID_FD
        PosixSerialPortSocket.set (.cancelEventFd .read .read) INVALID_FD
        PosixSerialPortSocket.set (.cancelEventFd .read .write) INVALID_FD
        PosixSerialPortSocket.set (.cancelEventFd .write .read) INVALID_FD
        PosixSerialPortSocket.set (.cancelEventFd .write .write) INVALID_FD : Action Unit)
      (fun w' _ _ => ∀ e, w'.readable (n.event e .read) = true) := by
  have closing := closing.store (show minor .cleanerFd = true from rfl) INVALID_FD
  refine amwp_set closing ?_
  have closing := closing.store (show minor (.cancelEventFd .read .read) = true from rfl) INVALID_FD
  refine amwp_set closing ?_
  have closing :=
    closing.store (show minor (.cancelEventFd .read .write) = true from rfl) INVALID_FD
  refine amwp_set closing ?_
  have closing :=
    closing.store (show minor (.cancelEventFd .write .read) = true from rfl) INVALID_FD
  refine amwp_set closing ?_
  have closing :=
    closing.store (show minor (.cancelEventFd .write .write) = true from rfl) INVALID_FD
  apply amwp_request
  rintro r w' ⟨rfl, -⟩
  exact ⟨closing, both⟩

/-- `implCloseChannel` keeps the invariant, and leaves both events written. -/
theorem implCloseChannel_closes (opened : w.Opened n) (completed : Bool) :
    amwp answers (Closing n) w completed implCloseChannel
      (fun w' _ _ => ∀ e, w'.readable (n.event e .read) = true) := by
  have start := closing_opened opened
  refine amwp_get start ?_
  have valid : w.fields .fd ≠ INVALID_FD := opened.fd ▸ n.port_valid
  rw [if_pos valid]
  refine amwp_get start (amwp_set (marked_opened opened).toClosing ?_)
  have marked := marked_opened opened
  have marked' := marked.store (show minor .configurationFd = true from rfl) (by simp) INVALID_FD
  refine amwp_copy marked.toClosing ?_ ?_
  · rw [store_self]
    exact marked'.toClosing
  rw [store_self]
  refine amwp_get marked'.toClosing ?_
  rw [marked'.cancelEventFd]
  apply amwp_request_bind
  rintro r w₁ ⟨⟨-, writes, -⟩, rfl⟩
  have first : Marked n w₁ := writes rfl ▸ marked'.written .write
  have told : w₁.readable (n.event .write .read) = true :=
    writes rfl ▸ marked'.readable_written .write
  refine ⟨first.toClosing, amwp_get first.toClosing ?_⟩
  rw [first.cancelEventFd]
  apply amwp_request_bind
  rintro r w₂ ⟨⟨-, writes, -⟩, rfl⟩
  have second : Marked n w₂ := writes rfl ▸ first.written .read
  have both : ∀ e, w₂.readable (n.event e .read) = true := by
    rw [writes rfl]
    rintro (_ | _)
    · exact first.readable_written .read
    · exact readable_kept told
  refine ⟨second.toClosing, amwp_request_bind ?_⟩
  rintro r w₃ ⟨⟨-, rfl⟩, -⟩
  refine ⟨second.toClosing, amwp_request_bind ?_⟩
  rw [opened.fd]
  rintro (errno | ⟨⟩) w₄ ⟨⟨-, rfl | ⟨failed, rfl⟩⟩, -⟩
  · exact ⟨(second.shut both).toClosing, amwp_pure both⟩
  · exact ⟨second.toClosing, amwp_pure both⟩
  · exact ⟨(second.shut both).toClosing, forget_closes (second.shut both).toClosing both _⟩
  · exact absurd rfl failed

end Steps

/-- A request that does not put a number into the field. -/
def Clearing : PosixSerialPortSocket.Request → Prop
  | .set field value => field = .fd → value = INVALID_FD
  | _ => True

theorem clearing_other {field : Field} {value : ℤ} (other : field ≠ .fd) :
    Clearing (.set field value) :=
  fun same => absurd same other

theorem implCloseChannel_clearing : Only Clearing implCloseChannel := by
  have copies : Only Clearing (PosixSerialPortSocket.copy .fd .configurationFd : Action Unit) :=
    .bind (.request trivial) fun _ => .request (clearing_other (by simp))
  have forgets : Only Clearing (do
      PosixSerialPortSocket.set .cleanerFd INVALID_FD
      PosixSerialPortSocket.set (.cancelEventFd .read .read) INVALID_FD
      PosixSerialPortSocket.set (.cancelEventFd .read .write) INVALID_FD
      PosixSerialPortSocket.set (.cancelEventFd .write .read) INVALID_FD
      PosixSerialPortSocket.set (.cancelEventFd .write .write) INVALID_FD : Action Unit) :=
    .bind (.request (clearing_other
        (by simp))) fun _ => .bind (.request (clearing_other (by simp))) fun _ =>
      .bind (.request (clearing_other
          (by simp))) fun _ => .bind (.request (clearing_other (by simp))) fun _ =>
      .request (clearing_other (by simp))
  refine .bind (.request trivial) fun fd => .ite ?_ (.pure _)
  refine .bind (.request trivial) fun tempFd => .bind (.request fun _ => rfl) fun _ =>
    .bind copies fun _ => ?_
  refine .bind (.request trivial) fun event => .bind (.request trivial) fun _ => ?_
  refine .bind (.request trivial) fun event => .bind (.request trivial) fun _ => ?_
  refine .bind (.request trivial) fun _ => .bind (.request trivial) fun closed => ?_
  cases closed with
  | ok => exact forgets
  | error nee => exact .pure _

section Running
variable {ι : Type} [DecidableEq ι]

inductive SocketCall where
  | read (s : Socket) (f : Frame)
  | write (s : Socket) (f : Frame)

def SocketCall.program : SocketCall → Program posix (Except JavaException ℤ × Frame)
  | .read s f => Jnhw.read s f
  | .write s f => Jnhw.write s f

/-- What the closer and the calls ask. -/
@[reducible] def Asked : Option ι → Signature
  | none => kernel
  | some _ => posix

/-- What they end with. -/
@[reducible] def Outcome : Option ι → Type
  | none => Except JavaException Unit × Bool
  | some _ => Except JavaException ℤ × Frame

/-- `implCloseChannel` and the calls, on a socket in the state `w`. -/
def closing (w : World) (calls : ι → SocketCall) :
    Interleaved.System (Option ι) Asked Outcome World where
  initial := w
  program
    | none => implCloseChannel false
    | some i => (calls i).program
  answers w
    | none => w.answers
    | some _ => fun ev w' => w.replies ev ∧ w' = w

/-- The event writes of the closer succeed. -/
def EventsWritten (_ : Interleaved (Option ι) Asked Outcome World) :
    Option (Interleaved.Label (Asked : Option ι → Signature)) → Prop
  | some ⟨none, ev⟩ => Written ev
  | _ => True

/-- The end of a call that closing has stopped: `-1` only of a read that has seen the cancel
event in its inter-byte loop, after a byte or the wait for the first. -/
def AsynchronouslyClosed (call : SocketCall) (h : History posix) : Except JavaException ℤ → Prop
  | .error e => e.isAsynchronousClose = true
  | .ok n => match call with
    | .read _ _ => ¬Refused h ∧ n = -1 ∧ (observed h).cancelled = true
    | .write _ _ => False

/-- What the calls have been told fits the state. -/
structure Sound (w : World) (record : (i : Option ι) → History (Asked i)) : Prop where
  told : ∀ i, Told (record (some i))
  known : ∀ i, Revealed (record (some i)) → w.fields .fd = INVALID_FD

section Replies
variable {n : Numbers} {w : World} {h : History posix} {ev : Event posix}

theorem Closing.signalled (closing : Closing n w) (e : Direction) :
    w.Signalled (n.event e .read) ↔ w.readable (n.event e .read) = true :=
  and_iff_right (closing.event e)

/-- While an event is not written the port is open. -/
theorem Closing.port_opened (closing : Closing n w) {e : Direction}
    (quiet : ¬w.Signalled (n.event e .read)) :
    w.opened n.port = true := by
  cases state : w.opened n.port with
  | true => rfl
  | false => exact absurd ((closing.signalled e).mpr (closing.closed state e)) quiet

theorem fits_of_replies (closing : Closing n w) (known : Revealed h → w.fields .fd = INVALID_FD)
    (reply : w.replies ev) : Fits h ev := by
  obtain ⟨e, r⟩ := ev
  cases e with
  | fdIsInvalid =>
      intro revealed
      exact reply.trans (decide_eq_true (known revealed))
  | poll d timeout =>
      rcases r with nee | _ | ⟨port, cancel⟩
      · trivial
      · trivial
      intro quiet
      have reply : (cancel = POLLIN ↔ w.Signalled (w.fields (.pollCancelFd d))) ∧
          (w.opened (w.fields (.pollPortFd d)) = true → port &&& POLLNVAL ≠ POLLNVAL) := reply
      rw [closing.pollCancelFd, closing.pollPortFd] at reply
      exact reply.2 (closing.port_opened (mt reply.1.mpr quiet))
  | _ => trivial

/-- Whatever reveals the closing to a call happens after the field is cleared. -/
theorem cleared_of_replies (closing : Closing n w) (reply : w.replies ev)
    (reveals : refuses ev = true ∨ cancels ev = true ∨ finds ev = true) :
    w.fields .fd = INVALID_FD := by
  have missing : w.opened (w.fields .fd) = false → w.fields .fd = INVALID_FD := by
    intro shut
    rcases closing.fd with port | cleared
    · rw [port] at shut
      exact closing.cleared .read (closing.closed shut .read)
    · exact cleared
  obtain ⟨e, r⟩ := ev
  cases e with
  | fdIsInvalid =>
      have found : r = true := by simpa [refuses, cancels, finds] using reveals
      have reply : r = decide (w.fields .fd = INVALID_FD) := reply
      exact of_decide_eq_true (reply.symm.trans found)
  | poll d timeout =>
      rcases r with nee | _ | ⟨port, cancel⟩
      · simp [refuses, cancels, finds] at reveals
      · simp [refuses, cancels, finds] at reveals
      have seen : cancel = POLLIN := by simpa [refuses, cancels, finds] using reveals
      have signalled : w.Signalled (w.fields (.pollCancelFd d)) := reply.1.mp seen
      rw [closing.pollCancelFd, closing.signalled] at signalled
      exact closing.cleared d signalled
  | read room =>
      rcases r with (_ | _ | _ | _ | _) | _
      case error.EBADF => exact missing reply
      all_goals simp [refuses, cancels, finds] at reveals
  | write bytes =>
      rcases r with (_ | _ | _ | _ | _) | _
      case error.EBADF => exact missing reply
      all_goals simp [refuses, cancels, finds] at reveals
  | _ => simp [refuses, cancels, finds] at reveals

end Replies

theorem not_stopped_nil : ¬Stopped [] := by
  rintro (⟨ev, ⟨⟩, -⟩ | ⟨ev, ⟨⟩, -⟩)

theorem not_revealed_nil : ¬Revealed [] := by
  rintro (stopped | ⟨ev, ⟨⟩, -⟩)
  exact not_stopped_nil stopped

/-- What the closer does to the field leaves it cleared. -/
theorem cleared_kept {w w' : World} {ev : Event kernel} (clearing : Clearing ev.1)
    (answer : w.answers ev w') (cleared : w.fields .fd = INVALID_FD) :
    w'.fields .fd = INVALID_FD := by
  by_cases stores : ∃ field value, ev.1 = .set field value
  · obtain ⟨e, r⟩ := ev
    obtain ⟨field, value, rfl⟩ := stores
    obtain rfl : w' = w.store field value := answer
    by_cases own : field = .fd
    · subst own
      rw [store_self]
      exact clearing rfl
    · exact (store_other (Ne.symm own)).trans cleared
  · rw [PosixSerialPortSocket.fields_kept answer fun field value same =>
      stores ⟨field, value, same⟩]
    exact cleared

section Runs
variable {n : Numbers} {w : World} {calls : ι → SocketCall}
  {t : Interleaved (Option ι) Asked Outcome World}

theorem reached_answered (reached : Interleaved.Reached (closing w calls) EventsWritten t) :
    Answered answers w (t.record none) t.shared := by
  refine reached.answered none answers (fun s ev shared written answer => ⟨answer, written⟩) ?_
  rintro s (_ | i) ev shared other - answer
  · exact absurd rfl other
  · exact answer.2

theorem reached_closing (opened : w.Opened n)
    (reached : Interleaved.Reached (closing w calls) EventsWritten t) :
    Closing n t.shared := by
  have answered := reached_answered reached
  have law := implCloseChannel_closes opened false _ _ (reached.run none)
  by_cases first : t.record none = []
  · rw [first] at answered
    cases answered
    exact closing_opened opened
  · exact law.1 first _ answered

def endOf (calls : ι → SocketCall) : (i : Option ι) → History (Asked i) → Outcome i → Prop
  | none => fun _ _ => True
  | some i => fun h x => Told h →
      x.1 ≠ .error .asynchronousCancelException ∧ (Stopped h → AsynchronouslyClosed (calls i) h x.1)

def lawOf : (i : Option ι) → History (Asked i) → Prop
  | none => Within Clearing
  | some _ => fun _ => True

omit [DecidableEq ι] in
theorem laws (w : World) (calls : ι → SocketCall) (i : Option ι) :
    wp (lawOf i) [] ((closing w calls).program i) (endOf calls i) := by
  cases i with
  | none =>
      have clears := implCloseChannel_clearing [] false Method.within_nil
      exact wp_mono clears fun _ _ _ => trivial
  | some i =>
      have start : Told [] → Running [] := fun _ => not_stopped_nil
      change wp (fun _ => True) [] (calls i).program (fun h x => Told h →
        x.1 ≠ .error .asynchronousCancelException ∧
          (Stopped h → AsynchronouslyClosed (calls i) h x.1))
      cases calls i with
      | read s f =>
          refine wp_mono (wp_and (read_ends s [] f start) read_read) ?_
          rintro h ⟨e | n, f'⟩ ⟨ended, done⟩ told
          · exact ⟨fun same => (ended told).1 (Except.error.inj same), (ended told).2⟩
          · refine ⟨by simp, fun stopped => ⟨(ended told).1, ?_⟩⟩
            obtain rfl : n = -1 := (ended told).2 (stopped.resolve_left (ended told).1)
            exact ⟨rfl, (done.counted.resolve_left (by simp)).2⟩
      | write s f =>
          refine wp_mono (write_ends s [] f start) ?_
          rintro h ⟨e | n, f'⟩ ended told
          · exact ⟨fun same => (ended told).1 (Except.error.inj same), (ended told).2⟩
          · exact ⟨by simp, fun stopped => running_of_ended (a := n) (ended told) stopped⟩

theorem reached_sound (opened : w.Opened n)
    (reached : Interleaved.Reached (closing w calls) EventsWritten t) :
    Sound t.shared t.record := by
  refine reached.invariant (laws w calls) Sound ⟨fun _ => .nil, ?_⟩ ?_
  · exact fun i revealed => absurd revealed not_revealed_nil
  rintro s (_ | i) ev shared before sound written law answer
  · refine ⟨fun j => ?_, fun j revealed => ?_⟩
    · simpa using sound.told j
    · have revealed : Revealed (s.record (some j)) := by simpa using revealed
      exact cleared_kept (Method.Within.last law) answer (sound.known j revealed)
  · obtain ⟨reply, rfl⟩ := answer
    have here := reached_closing opened before
    refine ⟨fun j => ?_, fun j revealed => ?_⟩
    · by_cases same : j = i
      · subst same
        simpa using (sound.told j).snoc (fits_of_replies here (sound.known j) reply)
      · simpa [same] using sound.told j
    · by_cases same : j = i
      · subst same
        have revealed : Revealed (s.record (some j) ++ [ev]) := by simpa using revealed
        rcases revealed_snoc.mp revealed with old | new
        · exact sound.known j old
        · exact cleared_of_replies here reply new
      · exact sound.known j (by simpa [same] using revealed)

/-- After `implCloseChannel` no call waits in a `poll` that is not able to return; and a
call that the closing has stopped ends asynchronously closed, none as cancelled. -/
theorem close_wakes_and_stops (n : Numbers) (w : World) (opened : w.Opened n)
    (calls : ι → SocketCall) (t : Interleaved (Option ι) Asked Outcome World)
    (reached : Interleaved.Reached (closing w calls) EventsWritten t) :
    ((∃ y, t.thread none = .pure y) →
    ∀ i d timeout k, t.thread (some i) = .ask (.poll d timeout) k →
      t.shared.Signalled (t.shared.fields (.pollCancelFd d))) ∧
    ∀ i x, t.thread (some i) = .pure x → x.1 ≠ .error .asynchronousCancelException ∧
      (Stopped (t.record (some i)) → AsynchronouslyClosed (calls i) (t.record (some i)) x.1) := by
  constructor
  · rintro ⟨y, returned⟩ i d timeout k waiting
    have closing := reached_closing opened reached
    have run := reached.run none
    rw [returned] at run
    have both := (implCloseChannel_closes opened false _ _ run).2 y rfl _ (reached_answered reached)
    rw [closing.pollCancelFd, closing.signalled]
    exact both d
  · intro i x returned
    exact reached.returned (laws w calls) returned ((reached_sound opened reached).told i)

end Runs

section Examples
open PosixSerialPortSocket (numbers fresh fresh_opened)

/-- A read into a buffer with room for one byte. -/
def oneRead : Unit → SocketCall :=
  fun _ => .read (.new "ttyS0") ⟨⟨[0], 0, 1, by decide, by decide⟩, false⟩

/-- The read waits when the port is closed, and is woken. -/
theorem close_wakes_and_stops_waiting :
    ∃ t, Interleaved.Reached (closing fresh oneRead) EventsWritten t ∧
    (∃ y, t.thread none = .pure y) ∧ ∃ x, t.thread (some ()) = .pure x ∧
      AsynchronouslyClosed (oneRead ()) (t.record (some ())) x.1 := by
  have none_yet : Interleaved.Reached (closing fresh oneRead) EventsWritten _ := .start
  have tried := none_yet.ask (i := some ()) rfl (.ok ⟨[], Nat.zero_le _⟩) ⟨trivial, rfl⟩ trivial
  have waits := tried.ask (i := some ()) rfl () ⟨trivial, rfl⟩ trivial
  have marked :=
    ((waits.ask (i := none) rfl (5 : ℤ) ⟨rfl, rfl⟩ trivial).ask (i := none) rfl (5 : ℤ) ⟨rfl,
    rfl⟩ trivial).ask (i := none) rfl () rfl trivial
  have copied :=
    (marked.ask (i := none) rfl (-1 : ℤ) ⟨rfl, rfl⟩ trivial).ask (i := none) rfl () rfl trivial
  have second :=
    (copied.ask (i := none) rfl (7 : ℤ) ⟨rfl, rfl⟩ trivial).ask (i := none) rfl (.ok ())
    ⟨World.not_refused (by decide), fun _ => rfl, fun other => absurd rfl other⟩ rfl
  have both := (second.ask (i := none) rfl (6 : ℤ) ⟨rfl, rfl⟩ trivial).ask (i := none) rfl (.ok ())
    ⟨World.not_refused (by decide), fun _ => rfl, fun other => absurd rfl other⟩ rfl
  have shut := (both.ask (i := none) rfl (.ok ())
    ⟨World.not_refused (by decide), rfl⟩ trivial).ask (i := none) rfl (.ok ())
      ⟨World.not_refused (by decide), .inl rfl⟩ trivial
  have forgot :=
    ((((shut.ask (i := none) rfl () rfl trivial).ask (i := none) rfl () rfl trivial).ask (i :=
    none) rfl () rfl trivial).ask (i := none) rfl () rfl trivial).ask (i := none) rfl () rfl trivial
  have woken := forgot.ask (i := some ()) rfl (.ok (.ready 0 POLLIN))
    ⟨⟨⟨fun _ => ⟨rfl, rfl⟩, fun _ => rfl⟩, fun still => absurd still (by decide)⟩, rfl⟩ trivial
  have found := woken.ask (i := some ()) rfl true ⟨rfl, rfl⟩ trivial
  have ended := found.ask (i := some ()) rfl false ⟨trivial, rfl⟩ trivial
  have stopped := (close_wakes_and_stops numbers fresh fresh_opened oneRead _ ended).2 () _ rfl
  refine ⟨_, ended, ⟨_, rfl⟩, _, rfl,
    stopped.2 (.inr ⟨⟨.poll .read (-1), .ok (.ready 0 POLLIN)⟩, ?_, rfl⟩)⟩
  exact List.mem_of_getElem? (i := 2) rfl

end Examples
end Running
end Spsw.Jnhw.CloseProtocol

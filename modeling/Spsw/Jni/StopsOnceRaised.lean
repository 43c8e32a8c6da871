import Mathlib.Data.List.Chain
import Spsw.Jni.InputStream

/-!
# A native call stops once it has thrown

A C function goes on after it has thrown, unless it returns. Every place of `readBuffer`
and `writeBuffer` that throws returns as well, but for one: where a `read` of the loop
finds nothing after `poll` has reported something, and the port is open. Here throwing is
an event of its own, so that a history also says what a call has done after that.
-/
namespace Spsw.Jni.TermiosTrace
open Interaction
open Interaction.Method (mwp mwp_mono mwp_iterate)
open TermiosIO (Request Answer Settings Env Meaning Code)
open AbstractSerialPortSocketIO (returned)
open Jnhw (Direction Errno PollResult Timespec POLLIN POLLOUT POLLHUP POLLNVAL
  INVALID_FD remainingTimeOut)

export TermiosIO (leave setErrno throw_InterruptedIOExceptionWithError getFd read write noted poll
  clock_gettime endTime readFailed firstRead checkReadable awaitFirst remaining checkNext
  countRead readRound readBuffer writeFailed firstWrite remainingWrite checkWritable writeRound
  writeBuffer)

/-- An exception that is thrown, or a request of `TermiosIO`. -/
@[reducible] def traced : Signature := ⟨JavaException ⊕ Request, Sum.elim (fun _ => Unit) Answer⟩

instance : DecidableEq traced.Request := inferInstanceAs (DecidableEq (JavaException ⊕ Request))

instance : Meaning traced where
  ask e out := (Method.request (.inr e) out : Method traced Env ℤ _)
  throwing e := (Method.request (.inl e) (fun _ => ()) : Method traced Env ℤ Unit)

def raises : traced.Request → Bool
  | .inl _ => true
  | .inr _ => false

/-- What a call no longer does once it has thrown. -/
def busy : traced.Request → Bool
  | .inl _ | .inr (.read _ _) | .inr (.write _ _) | .inr (.poll _ _ _ _) | .inr (.sleep _ _ _ _) =>
      true
  | .inr _ => false

/-- After an exception nothing is read, written or waited for, and no other exception is thrown. -/
def Stops (h : History traced) : Prop :=
  h.Pairwise fun ev ev' => raises ev.1 = true → busy ev'.1 = false

def Raised (h : History traced) : Prop := ∃ ev ∈ h, raises ev.1 = true

/-- A `read` that finds nothing. -/
def Empty : Event traced → Prop
  | ⟨.inr (.read _ _), .ok bytes⟩ => bytes.val = []
  | _ => False

/-- Where the descriptor is looked at after a `read` that has found nothing, the port is closed. -/
def Foreseen (h : History traced) : Prop :=
  h.IsChain fun ev ev' => Empty ev → ∀ fd : ℤ, ev' = ⟨.inr .getFd, fd⟩ → fd = INVALID_FD

/-- Nothing has been thrown yet. -/
def Calm (h : History traced) : Prop := ∀ ev ∈ h, raises ev.1 = false

/-- Neither an exception nor a look at the descriptor. -/
def aside : traced.Request → Bool
  | .inl _ | .inr .getFd => false
  | .inr _ => true

section Histories
variable {h t : History traced}

theorem calm_nil : Calm [] := fun _ member => absurd member List.not_mem_nil

theorem Calm.append (calm : Calm h) (calm' : Calm t) : Calm (h ++ t) :=
  List.forall_mem_append.mpr ⟨calm, calm'⟩

theorem calm_aside (quiet : ∀ ev ∈ t, aside ev.1 = true) : Calm t := by
  intro ev member
  have quiet := quiet ev member
  obtain ⟨e | e, r⟩ := ev
  · cases quiet
  · rfl

theorem Calm.stops (calm : Calm h) : Stops h :=
  List.pairwise_of_forall_mem_list fun ev member _ _ raised => by
    rw [calm ev member] at raised
    cases raised

/-- The exception may come as the last event. -/
theorem Calm.stops_raise (calm : Calm h) (e : JavaException) : Stops (h ++ [⟨.inl e, ()⟩]) := by
  refine List.pairwise_append.mpr ⟨calm.stops, List.pairwise_singleton _ _, ?_⟩
  intro ev member _ _ raised
  rw [calm ev member] at raised
  cases raised

theorem Calm.not_raised (calm : Calm h) : ¬Raised h := by
  rintro ⟨ev, member, raised⟩
  rw [calm ev member] at raised
  cases raised

theorem raised_raise (h : History traced) (e : JavaException) : Raised (h ++ [⟨.inl e, ()⟩]) :=
  ⟨_, List.mem_append_right h (List.mem_singleton.mpr rfl), rfl⟩

theorem Raised.not_stops {ev : Event traced} (raised : Raised h) (active : busy ev.1 = true) :
    ¬Stops (h ++ [ev]) := by
  obtain ⟨ev', member, thrown⟩ := raised
  intro stops
  have idle := (List.pairwise_append.mp stops).2.2 ev' member ev (List.mem_singleton.mpr rfl) thrown
  rw [active] at idle
  cases idle

theorem Foreseen.snoc (foreseen : Foreseen h) {ev : Event traced}
    (next : ∀ ev' ∈ h.getLast?, Empty ev' → ∀ fd : ℤ, ev = ⟨.inr .getFd, fd⟩ → fd = INVALID_FD) :
    Foreseen (h ++ [ev]) := by
  refine List.isChain_append.mpr ⟨foreseen, List.isChain_singleton _, ?_⟩
  intro ev' last ev'' first
  cases first
  exact next ev' last

theorem Foreseen.append (foreseen : Foreseen h) (quiet : ∀ ev ∈ t, aside ev.1 = true) :
    Foreseen (h ++ t) := by
  induction t using List.reverseRecOn with
  | nil => rwa [List.append_nil]
  | append_singleton t ev ih =>
      rw [← List.append_assoc]
      refine (ih fun ev' member => quiet ev' (List.mem_append_left _ member)).snoc ?_
      rintro ev' - - fd rfl
      cases quiet ⟨.inr .getFd, fd⟩ (List.mem_append_right t (List.mem_singleton.mpr rfl))

theorem not_foreseen_append (unforeseen : ¬Foreseen h) (t : History traced) : ¬Foreseen (h ++ t) :=
  fun foreseen => unforeseen (List.isChain_append.mp foreseen).1

theorem not_stops_append (active : ¬Stops h) (t : History traced) : ¬Stops (h ++ t) :=
  fun stops => active (List.pairwise_append.mp stops).1

end Histories

section Rules
variable {I : History traced → Prop} {h : History traced} {env : Env} {s : Settings} {α : Type}

@[simp] theorem mwp_ask {e : Request} {out : TermiosIO.Answer e → α}
    {post : History traced → Env → Except ℤ α → Prop} :
    mwp I h env (Meaning.ask e out : Code traced α) post ↔ ∀ r : TermiosIO.Answer e,
      I (h ++ [⟨.inr e, r⟩]) ∧ post (h ++ [⟨.inr e, r⟩]) env (.ok (out r)) :=
  Method.mwp_request

@[simp] theorem mwp_throwing {e : JavaException}
    {post : History traced → Env → Except ℤ Unit → Prop} :
    mwp I h env (Meaning.throwing e : Code traced Unit) post ↔
      I (h ++ [⟨.inl e, ()⟩]) ∧ post (h ++ [⟨.inl e, ()⟩]) env (.ok ()) := by
  apply Iff.trans Method.mwp_request
  exact ⟨fun w => w (), fun w _ => w⟩

@[simp] theorem mwp_leave {result : ℤ} {post : History traced → Env → Except ℤ α → Prop} :
    mwp I h env (leave result : Code traced α) post ↔ post h env (.error result) :=
  Method.mwp_raise

@[simp] theorem mwp_setErrno {errno : Errno} {post : History traced → Env → Except ℤ Unit → Prop} :
    mwp I h env (setErrno errno : Code traced Unit) post ↔
      post h { env with errno := errno } (.ok ()) :=
  Method.mwp_assign

@[simp] theorem mwp_throw_InterruptedIOExceptionWithError {bytesTransferred : ℤ} {msg : String}
    {post : History traced → Env → Except ℤ Unit → Prop} :
    mwp I h env
        (throw_InterruptedIOExceptionWithError s bytesTransferred msg : Code traced Unit) post ↔
      I (h ++ [⟨.inl (.interruptedIOException
        (msg ++ ": Unknown port error " ++ s.errnoText env.errno) bytesTransferred), ()⟩]) ∧
      post (h ++ [⟨.inl (.interruptedIOException
        (msg ++ ": Unknown port error " ++ s.errnoText env.errno) bytesTransferred), ()⟩])
        env (.ok ()) := by
  simp only [throw_InterruptedIOExceptionWithError, Method.mwp_bind, Method.mwp_locals,
    Method.rest_ok, mwp_throwing]

/-- An invariant that holds as long as nothing has been thrown. -/
def OfCalm (I : History traced → Prop) : Prop := ∀ h, Calm h → I h

/-- The part returns, and its events neither throw nor look at the descriptor. -/
def AsidePart (m : Code traced α) : Prop :=
  ∀ I h env, OfCalm I → Calm h → mwp I h env m (fun h' _ x => ∃ t a, h' = h ++ t ∧
    (∀ ev ∈ t, aside ev.1 = true) ∧ x = .ok a)

namespace AsidePart
variable {β : Type}

theorem pure (a : α) : AsidePart (Pure.pure a) :=
  fun _ h _ _ _ => Method.mwp_pure.mpr ⟨[], a, (List.append_nil h).symm, by simp, rfl⟩

theorem ask {e : Request} {out : TermiosIO.Answer e → α} (quiet : aside (.inr e) = true) :
    AsidePart (Meaning.ask e out) := by
  intro I h env invariant calm
  refine mwp_ask.mpr fun r => ?_
  have quiet : ∀ ev ∈ [(⟨.inr e, r⟩ : Event traced)], aside ev.1 = true := by simpa using quiet
  exact ⟨invariant _ (calm.append (calm_aside quiet)), _, _, rfl, quiet, rfl⟩

theorem setErrno (errno : Errno) : AsidePart (setErrno errno) :=
  fun _ h _ _ _ => mwp_setErrno.mpr ⟨[], (), (List.append_nil h).symm, by simp, rfl⟩

theorem bind {m : Code traced β} {next : β → Code traced α} (first : AsidePart m)
    (rest : ∀ b, AsidePart (next b)) :
    AsidePart (m >>= next) := by
  intro I h env invariant calm
  rw [Method.mwp_bind]
  apply mwp_mono (first I h env invariant calm)
  rintro h' env' x ⟨t, b, rfl, quiet, rfl⟩
  apply Method.rest_ok.mpr
  apply mwp_mono (rest b I (h ++ t) env' invariant (calm.append (calm_aside quiet)))
  rintro h' env' x ⟨t', a, rfl, quiet', rfl⟩
  exact ⟨t ++ t', a, List.append_assoc h t t', List.forall_mem_append.mpr ⟨quiet, quiet'⟩, rfl⟩

end AsidePart

theorem clock_gettime_aside (t : Timespec) : AsidePart (clock_gettime t) := by
  refine .bind (.ask rfl) fun r => ?_
  cases r with
  | ok now => exact .pure now
  | error errno => exact .bind (.setErrno errno) fun _ => .pure t

theorem endTime_aside (timeout : ℤ) : AsidePart (endTime s timeout) := by
  unfold endTime
  split
  · exact .bind (clock_gettime_aside _) fun now => .pure _
  · exact .pure _

theorem poll_aside (d : Direction) (port close timeout : ℤ) :
    AsidePart (poll d port close timeout) := by
  have noted (result : Except Errno PollResult) : AsidePart (noted result) := by
    cases result with
    | ok result => exact .pure _
    | error errno => exact .bind (.setErrno errno) fun _ => .pure _
  refine .bind (.ask rfl) fun ready => ?_
  cases ready with
  | some result => exact .bind (.pure result) noted
  | none => exact .bind (.ask rfl) noted

theorem write_aside (fd : ℤ) (bytes : List UInt8) : AsidePart (write fd bytes) := by
  refine .bind (.ask rfl) fun r => ?_
  cases r with
  | ok k => exact .pure _
  | error errno => exact .bind (.setErrno errno) fun _ => .pure _

/-- A `read` is one event, and the number it returns tells whether this has found something. -/
theorem read_reads (invariant : OfCalm I) (calm : Calm h) (fd : ℤ) (offset room : ℕ) :
    mwp I h env (read fd offset room) (fun h' _ x => ∃ r, h' = h ++ [⟨.inr (.read fd room), r⟩] ∧
      x = .ok (r.map fun bytes => bytes.val.length)) := by
  simp only [read, Method.mwp_bind, mwp_ask, Method.rest_ok]
  intro r
  have quiet : ∀ ev ∈ [(⟨.inr (.read fd room), r⟩ : Event traced)], aside ev.1 = true := by
    simp [aside]
  refine ⟨invariant _ (calm.append (calm_aside quiet)), ?_⟩
  cases r with
  | ok bytes =>
      simp only [Method.mwp_bind, Method.mwp_assign, Method.rest_ok]
      exact Method.mwp_pure.mpr ⟨_, rfl, rfl⟩
  | error errno =>
      simp only [Method.mwp_bind, mwp_setErrno, Method.rest_ok]
      exact Method.mwp_pure.mpr ⟨_, rfl, rfl⟩

end Rules

/-- What the parts of a call keep: `invariant` at every moment, `good` as long as the call
goes on, `ended` when it returns. -/
structure Discipline where
  invariant : History traced → Prop
  good : History traced → Prop
  ended : History traced → ℤ → Prop
  ofCalm : OfCalm invariant
  calm : ∀ h, good h → Calm h
  aside : ∀ h t, good h → (∀ ev ∈ t, TermiosTrace.aside ev.1 = true) → good (h ++ t)
  raise : ∀ h e, good h → invariant (h ++ [⟨.inl e, ()⟩])

/-- What a part leaves behind, as it hands a result on or returns from the call. -/
def Discipline.After (d : Discipline) {α : Type} (h : History traced) : Except ℤ α → Prop
  | .ok _ => d.good h
  | .error result => d.ended h result

def Discipline.Part (d : Discipline) {α : Type} (m : Code traced α) : Prop :=
  ∀ h env, d.good h → mwp d.invariant h env m (fun h' _ x => d.After h' x)

namespace Discipline.Part
variable {d : Discipline} {α β : Type} {s : Settings}

theorem pure (a : α) : d.Part (Pure.pure a) := fun _ _ good => Method.mwp_pure.mpr good

theorem leave {result : ℤ} (ends : ∀ h, d.good h → d.ended h result) :
    d.Part (leave result : Code traced α) :=
  fun h _ good => mwp_leave.mpr (ends h good)

/-- In front of a part that is held to something else. -/
theorem andThen {m : Code traced β} {next : β → Code traced α}
    {post : History traced → Env → Except ℤ α → Prop} {h : History traced} {env : Env}
    (first : d.Part m) (good : d.good h)
    (ends : ∀ h env result, d.ended h result → post h env (.error result))
    (rest : ∀ h env b, d.good h → mwp d.invariant h env (next b) post) :
    mwp d.invariant h env (m >>= next) post :=
  Method.mwp_seq (first h env good) ends rest

theorem bind {m : Code traced β} {next : β → Code traced α} (first : d.Part m)
    (rest : ∀ b, d.Part (next b)) :
    d.Part (m >>= next) :=
  fun _ _ good => first.andThen good (fun _ _ _ ended => ended)
    fun h env b good => rest b h env good

theorem ite {c : Prop} [Decidable c] {m m' : Code traced α} (yes : d.Part m) (no : d.Part m') :
    d.Part (if c then m else m') := by
  split
  · exact yes
  · exact no

theorem ofAside {m : Code traced α} (aside : AsidePart m) : d.Part m := by
  intro h env good
  apply mwp_mono (aside d.invariant h env d.ofCalm (d.calm h good))
  rintro h' env' x ⟨t, a, rfl, quiet, rfl⟩
  exact d.aside h t good quiet

/-- `throw ..; return ..;` -/
theorem fail {e : JavaException} {result : ℤ}
    (ends : ∀ h e, d.good h → d.ended (h ++ [⟨.inl e, ()⟩]) result) :
    d.Part (do Meaning.throwing e; TermiosTrace.leave result : Code traced α) := by
  intro h env good
  simp only [Method.mwp_bind, mwp_throwing, Method.rest_ok, mwp_leave]
  exact ⟨d.raise h _ good, ends h _ good⟩

theorem failWithError {bytesTransferred : ℤ} {msg : String} {result : ℤ}
    (ends : ∀ h e, d.good h → d.ended (h ++ [⟨.inl e, ()⟩]) result) :
    d.Part (do
      throw_InterruptedIOExceptionWithError s bytesTransferred msg
      TermiosTrace.leave result : Code traced α) := by
  intro h env good
  simp only [Method.mwp_bind, mwp_throw_InterruptedIOExceptionWithError, Method.rest_ok, mwp_leave]
  exact ⟨d.raise h _ good, ends h _ good⟩

theorem iterate {τ : Type} {body : τ → Code traced (τ ⊕ α)} (each : ∀ t, d.Part (body t)) (t : τ) :
    d.Part (Method.iterate body t) := by
  intro h env good
  refine mwp_iterate (fun h _ _ => d.good h) good fun h env t good =>
    mwp_mono (each t h env good) ?_
  intro h' env' x after
  rcases x with result | t' | a
  · exact after
  · exact after
  · exact after

end Discipline.Part

section WriteBuffer
variable {s : Settings} {fd close : ℤ} {buff : List UInt8}

/-- A write: nothing is done after an exception. -/
def writing : Discipline where
  invariant := Stops
  good := Calm
  ended _ _ := True
  ofCalm _ calm := calm.stops
  calm _ calm := calm
  aside _ _ calm quiet := calm.append (calm_aside quiet)
  raise _ e calm := calm.stops_raise e

theorem getFd_writing : writing.Part (getFd : Code traced ℤ) := by
  intro h env calm
  refine mwp_ask.mpr fun fd => ?_
  have calm : Calm (h ++ [⟨.inr .getFd, fd⟩]) := calm.append (by simp [Calm, raises])
  exact ⟨calm.stops, calm⟩

theorem writeFailed_writing {α : Type} (msg : String) (result : ℤ) :
    writing.Part (do writeFailed s fd msg; leave result : Code traced α) := by
  unfold writeFailed
  split
  · exact .fail fun _ _ _ => trivial
  · exact .failWithError fun _ _ _ => trivial

theorem firstWrite_writing : writing.Part (firstWrite s fd buff : Code traced ℕ) := by
  refine .bind (.ofAside (write_aside fd buff)) fun written => ?_
  cases written with
  | ok written => exact .ite (.leave fun _ _ => trivial) (.pure _)
  | error errno => exact .ite (.pure 0) (writeFailed_writing _ _)

theorem remainingWrite_writing (endTime : Timespec) (written : ℕ) :
    writing.Part (remainingWrite s endTime written : Code traced ℤ) := by
  refine .ite (.bind (.ofAside (clock_gettime_aside _)) fun currentTime => ?_) (.pure _)
  exact .ite (.fail fun _ _ _ => trivial) (.pure _)

theorem checkWritable_writing (written offset : ℕ) (result : Except Errno PollResult) :
    writing.Part (checkWritable s written offset result : Code traced Unit) := by
  rcases result with errno | (_ | ⟨portEvents, closeEvents⟩)
  · exact .failWithError fun _ _ _ => trivial
  · exact .fail fun _ _ _ => trivial
  · refine .ite (.fail fun _ _ _ => trivial)
      (.ite (.pure ()) (.ite (.fail fun _ _ _ => trivial) ?_))
    exact .ite (.fail fun _ _ _ => trivial) (.failWithError fun _ _ _ => trivial)

theorem writeRound_writing (endTime : Timespec) (x : ℕ × ℕ) :
    writing.Part (writeRound s fd close buff endTime x : Code traced ((ℕ × ℕ) ⊕ ℤ)) := by
  refine .bind (remainingWrite_writing endTime x.1) fun timeout =>
    .bind (.ofAside (poll_aside _ _ _ _)) fun result => ?_
  refine .bind (checkWritable_writing x.1 x.2 result) fun _ =>
    .bind (.ofAside (write_aside _ _)) fun written => ?_
  cases written with
  | ok written => exact .ite (.pure _) (.pure _)
  | error errno => exact writeFailed_writing _ _

theorem writeBuffer_writing : writing.Part (writeBuffer s buff : Code traced ℤ) := by
  refine .bind getFd_writing fun fd => .bind firstWrite_writing fun written => ?_
  refine .bind (.ofAside (endTime_aside _)) fun endTime =>
    .bind (.ofAside (.ask rfl)) fun close => ?_
  exact .iterate (writeRound_writing endTime) _

end WriteBuffer

section ReadBuffer
variable {h : History traced} {env : Env} {s : Settings} {port close : ℤ} {len overallRead : ℕ}

/-- A returning read has stopped in time, and tells by its result that it has
thrown, where this is foreseen. -/
def Right (h : History traced) (result : ℤ) : Prop :=
  Foreseen h ↔ Stops h ∧ (result = -1 ↔ Raised h)

/-- Nothing has been thrown yet, and nothing unforeseen has happened. -/
structure Quiet (h : History traced) : Prop where
  calm : Calm h
  foreseen : Foreseen h

/-- An exception has been thrown without a `return`. -/
structure Slipped (h : History traced) : Prop where
  unforeseen : ¬Foreseen h
  raised : Raised h

/-- And the call has gone on. -/
structure Broken (h : History traced) : Prop where
  unforeseen : ¬Foreseen h
  active : ¬Stops h

theorem Quiet.raise (quiet : Quiet h) (e : JavaException) : Right (h ++ [⟨.inl e, ()⟩]) (-1) := by
  have foreseen : Foreseen (h ++ [⟨.inl e, ()⟩]) := quiet.foreseen.snoc (by rintro ev' - - fd ⟨⟩)
  exact iff_of_true foreseen ⟨quiet.calm.stops_raise e, iff_of_true rfl (raised_raise h e)⟩

theorem Quiet.right (quiet : Quiet h) (n : ℕ) : Right h n :=
  iff_of_true quiet.foreseen ⟨quiet.calm.stops, iff_of_false (by omega) quiet.calm.not_raised⟩

theorem Slipped.right (slipped : Slipped h) (n : ℕ) : Right h n :=
  iff_of_false slipped.unforeseen fun holds => absurd (holds.2.mpr slipped.raised) (by omega)

theorem Broken.right (broken : Broken h) (result : ℤ) : Right h result :=
  iff_of_false broken.unforeseen fun holds => broken.active holds.1

/-- A read: as long as nothing unforeseen happens, nothing is done after an exception. -/
def reading : Discipline where
  invariant h := Foreseen h → Stops h
  good := Quiet
  ended := Right
  ofCalm _ calm _ := calm.stops
  calm _ quiet := quiet.calm
  aside _ _ quiet other := ⟨quiet.calm.append (calm_aside other), quiet.foreseen.append other⟩
  raise _ e quiet _ := quiet.calm.stops_raise e

theorem reading_fails (h : History traced) (e : JavaException) (quiet : reading.good h) :
    reading.ended (h ++ [⟨.inl e, ()⟩]) (-1) := Quiet.raise quiet e

/-- The descriptor is looked at, though not after a `read` that has found nothing. -/
theorem getFd_reading (quiet : Quiet h) (found : ∀ ev ∈ h.getLast?, ¬Empty ev) :
    mwp reading.invariant h env getFd (fun h' _ x => Quiet h' ∧ ∃ fd, x = .ok fd) := by
  refine mwp_ask.mpr fun fd => ?_
  have calm : Calm (h ++ [⟨.inr .getFd, fd⟩]) := quiet.calm.append (by simp [Calm, raises])
  have foreseen : Foreseen (h ++ [⟨.inr .getFd, fd⟩]) :=
    quiet.foreseen.snoc fun ev last nothing => absurd nothing (found ev last)
  exact ⟨fun _ => calm.stops, ⟨calm, foreseen⟩, fd, rfl⟩

/-- After a `read` that has failed the descriptor may be looked at. -/
theorem failed_look {α : Type} {room : ℕ} {errno : Errno} {next : ℤ → Code traced α}
    (quiet : Quiet (h ++ [⟨.inr (.read port room), .error errno⟩]))
    (rest : ∀ fd, reading.Part (next fd)) :
    mwp reading.invariant (h ++ [⟨.inr (.read port room), .error errno⟩]) env (getFd >>= next)
      (fun h' _ x => reading.After h' x) := by
  rw [Method.mwp_bind]
  apply mwp_mono (getFd_reading quiet (by simp [Empty]))
  rintro h' env' x ⟨quiet, fd, rfl⟩
  exact rest fd h' env' quiet

theorem readFailed_reading {α : Type} {room : ℕ} {errno : Errno}
    (quiet : Quiet (h ++ [⟨.inr (.read port room), .error errno⟩])) (msg : String) :
    mwp reading.invariant (h ++ [⟨.inr (.read port room), .error errno⟩]) env
      (do readFailed s msg; leave (-1) : Code traced α) (fun h' _ x => reading.After h' x) := by
  simp only [readFailed, Method.mwp_bind]
  apply mwp_mono (getFd_reading quiet (by simp [Empty]))
  rintro h' env' x ⟨quiet, fd, rfl⟩
  apply Method.rest_ok.mpr
  split
  · exact Method.mwp_bind.mp (Discipline.Part.fail reading_fails h' env' quiet)
  · exact Method.mwp_bind.mp (Discipline.Part.failWithError reading_fails h' env' quiet)

theorem mwp_full (quiet : Quiet h) (nread : ℕ) :
    mwp reading.invariant h env (if nread = len then leave nread else pure nread : Code traced ℕ)
      (fun h' _ x => reading.After h' x) := by
  split
  · exact mwp_leave.mpr (quiet.right nread)
  · exact Method.mwp_pure.mpr quiet

theorem firstRead_reading : reading.Part (firstRead s port len : Code traced ℕ) := by
  intro h env quiet
  simp only [firstRead, Method.mwp_bind]
  apply mwp_mono (read_reads reading.ofCalm quiet.calm port 0 len)
  rintro h' env' x ⟨r, rfl, rfl⟩
  have quiet : Quiet (h ++ [⟨.inr (.read port len), r⟩]) :=
    reading.aside h _ quiet (by simp [aside])
  apply Method.rest_ok.mpr
  cases r with
  | ok bytes => exact mwp_full quiet bytes.val.length
  | error errno =>
      refine failed_look quiet fun fd =>
        .ite (.fail reading_fails) (.ite (.pure 0) (.failWithError reading_fails))

theorem checkReadable_reading (portEvents closeEvents : BitVec 16) :
    reading.Part (checkReadable s portEvents closeEvents : Code traced Unit) := by
  refine .ite (.fail reading_fails) (.ite (.pure ()) (.ite (.fail reading_fails) ?_))
  exact .ite (.fail reading_fails) (.failWithError reading_fails)

theorem awaitFirst_reading : reading.Part (awaitFirst s port close len : Code traced ℕ) := by
  refine .bind (.ofAside (poll_aside _ _ _ _)) fun result => ?_
  rcases result with errno | (_ | ⟨portEvents, closeEvents⟩)
  · exact .failWithError reading_fails
  · exact .fail reading_fails
  refine .bind (checkReadable_reading portEvents closeEvents) fun _ => ?_
  intro h env quiet
  rw [Method.mwp_bind]
  apply mwp_mono (read_reads reading.ofCalm quiet.calm port 0 len)
  rintro h' env' x ⟨r, rfl, rfl⟩
  have quiet : Quiet (h ++ [⟨.inr (.read port len), r⟩]) :=
    reading.aside h _ quiet (by simp [aside])
  apply Method.rest_ok.mpr
  cases r with
  | ok bytes => exact mwp_full quiet bytes.val.length
  | error errno => exact readFailed_reading quiet _

theorem remaining_reading (endTime : Timespec) :
    reading.Part (remaining s endTime overallRead : Code traced ℤ) := by
  refine .ite (.pure _) (.bind (.ofAside (clock_gettime_aside _)) fun currentTime => ?_)
  exact .ite (.leave fun _ quiet => Quiet.right quiet overallRead) (.ite (.pure _) (.pure _))

theorem checkNext_reading (result : Except Errno PollResult) :
    reading.Part (checkNext s overallRead result : Code traced Unit) := by
  rcases result with errno | (_ | ⟨portEvents, closeEvents⟩)
  · exact .failWithError reading_fails
  · exact .leave fun _ quiet => Quiet.right quiet overallRead
  · exact checkReadable_reading portEvents closeEvents

/-- What a round of the loop leaves behind, when it does not return. -/
def Onward (h : History traced) : Prop := Quiet h ∨ Slipped h ∨ Broken h

/-- Here the call may go on after it has thrown. -/
theorem countRead_onward {room nread : ℕ} {bytes : { bytes : List UInt8 // bytes.length ≤ room }}
    (quiet : Quiet (h ++ [⟨.inr (.read port room), .ok bytes⟩]))
    (number : bytes.val.length = nread) :
    mwp reading.invariant (h ++ [⟨.inr (.read port room), .ok bytes⟩]) env
      (countRead s overallRead (.ok nread) : Code traced ℕ) (fun h' _ x =>
        match x with
        | .ok _ => Onward h'
        | .error result => Right h' result) := by
  cases nread with
  | succ nread => exact Method.mwp_pure.mpr (.inl quiet)
  | zero =>
      have nothing : Empty ⟨.inr (.read port room), .ok bytes⟩ := List.length_eq_zero_iff.mp number
      have calm (fd : ℤ) : Calm
        (h ++ [⟨.inr (.read port room), .ok bytes⟩] ++ [⟨.inr .getFd, fd⟩]) :=
        quiet.calm.append (by simp [Calm, raises])
      simp only [countRead, Method.mwp_bind]
      refine mwp_ask.mpr fun fd => ⟨fun _ => (calm fd).stops, Method.rest_ok.mpr ?_⟩
      split
      · next invalid =>
          have quiet : Quiet (h ++ [⟨.inr (.read port room), .ok bytes⟩] ++
              [⟨.inr .getFd, fd⟩]) := by
            refine ⟨calm fd, quiet.foreseen.snoc fun ev last nothing fd' same => ?_⟩
            cases same
            exact invalid
          apply mwp_mono (Discipline.Part.fail reading_fails _ env quiet)
          intro h' env' x after
          cases x with
          | ok n => exact .inl after
          | error result => exact after
      · next valid =>
          have unforeseen : ¬Foreseen
              (h ++ [⟨.inr (.read port room), .ok bytes⟩] ++ [⟨.inr .getFd, fd⟩]) := by
            intro foreseen
            have next := (List.isChain_append.mp foreseen).2.2
            exact valid (next _ List.getLast?_concat _ rfl nothing fd rfl)
          simp only [Method.mwp_bind, mwp_throw_InterruptedIOExceptionWithError,
            Method.rest_ok, Method.mwp_pure]
          have slipped := not_foreseen_append unforeseen
          exact ⟨fun foreseen => absurd foreseen (slipped _),
            .inr (.inl ⟨slipped _, raised_raise _ _⟩)⟩

theorem Slipped.append (slipped : Slipped h) (t : History traced) : Slipped (h ++ t) := by
  refine ⟨not_foreseen_append slipped.unforeseen t, ?_⟩
  obtain ⟨ev, member, raised⟩ := slipped.raised
  exact ⟨ev, List.mem_append_left t member, raised⟩

theorem Broken.append (broken : Broken h) (t : History traced) : Broken (h ++ t) :=
  ⟨not_foreseen_append broken.unforeseen t, not_stops_append broken.active t⟩

/-- What the call does after that changes nothing any more. -/
theorem mwp_broken {α : Type} (broken : Broken h) (m : Code traced α) :
    mwp reading.invariant h env m (fun h' _ _ => Broken h') := by
  intro t q run
  exact ⟨fun _ foreseen => absurd foreseen (broken.append t).unforeseen, fun _ _ => broken.append t⟩

/-- Another `poll` after the exception. -/
theorem poll_slipped {α : Type} (slipped : Slipped h) (timeout : ℤ)
    (next : Except Errno PollResult → Code traced α) :
    mwp reading.invariant h env (poll .read port close timeout >>= next)
      (fun h' _ _ => Broken h') := by
  rw [Method.mwp_bind, poll, Method.mwp_bind]
  refine mwp_ask.mpr fun r => ?_
  have broken : Broken (h ++ [⟨.inr (.poll .read port close timeout), r⟩]) :=
    ⟨not_foreseen_append slipped.unforeseen _, slipped.raised.not_stops rfl⟩
  refine ⟨fun foreseen => absurd foreseen broken.unforeseen, Method.rest_ok.mpr ?_⟩
  exact Method.mwp_bind.mp (mwp_broken broken _)

theorem remaining_slipped (slipped : Slipped h) (endTime : Timespec) :
    mwp reading.invariant h env (remaining s endTime overallRead : Code traced ℤ) (fun h' _ x =>
      match x with
      | .ok _ => Slipped h'
      | .error result => Right h' result) := by
  unfold remaining
  split
  · exact Method.mwp_pure.mpr slipped
  · simp only [clock_gettime, Method.mwp_bind, mwp_ask]
    intro r
    have slipped : Slipped (h ++ [⟨.inr .clockGettime, r⟩]) := slipped.append _
    refine ⟨fun foreseen => absurd foreseen slipped.unforeseen, Method.rest_ok.mpr ?_⟩
    have onward (now : Timespec) (env : Env) :
        mwp reading.invariant (h ++ [⟨.inr .clockGettime, r⟩]) env
        (if remainingTimeOut endTime now < 0 then leave overallRead
          else if s.interByteReadTimeout < remainingTimeOut endTime now then pure s.interByteReadTimeout
          else pure (remainingTimeOut endTime now) : Code traced ℤ) (fun h' _ x =>
            match x with
            | .ok _ => Slipped h'
            | .error result => Right h' result) := by
      split
      · exact mwp_leave.mpr (slipped.right overallRead)
      split
      · exact Method.mwp_pure.mpr slipped
      · exact Method.mwp_pure.mpr slipped
    cases r with
    | ok now => exact Method.mwp_pure.mpr (Method.rest_ok.mpr (onward now env))
    | error errno =>
        simp only [Method.mwp_bind, mwp_setErrno, Method.rest_ok, Method.mwp_pure]
        exact onward _ _

theorem Onward.right (onward : Onward h) (n : ℕ) : Right h n := by
  rcases onward with quiet | slipped | broken
  · exact quiet.right n
  · exact slipped.right n
  · exact broken.right n

/-- What a round owes: the loop goes on, or the call returns. -/
def Round : History traced → Env → Except ℤ (ℕ ⊕ ℤ) → Prop :=
  Method.again (fun h' _ _ => Onward h') (fun h' _ x => Right h' (returned x))

theorem Broken.round {x : Except ℤ (ℕ ⊕ ℤ)} (broken : Broken h) : Round h env x := by
  rcases x with result | overallRead | result
  · exact broken.right result
  · exact .inr (.inr broken)
  · exact broken.right result

theorem readRound_slipped (slipped : Slipped h) (endTime : Timespec) :
    mwp reading.invariant h env (readRound s port close len endTime overallRead) Round := by
  rw [readRound, Method.mwp_bind]
  apply mwp_mono (remaining_slipped slipped endTime)
  intro h' env' x after
  cases x with
  | error result => exact after
  | ok timeout =>
      apply Method.rest_ok.mpr
      apply mwp_mono (poll_slipped after timeout _)
      exact fun h' env' x broken => broken.round

theorem mwp_total (onward : Onward h) (total : ℕ) :
    mwp reading.invariant h env
      (if total < len then pure (.inl total) else pure (.inr total) : Code traced (ℕ ⊕ ℤ))
      Round := by
  split
  · exact Method.mwp_pure.mpr onward
  · exact Method.mwp_pure.mpr (onward.right total)

theorem readRound_quiet (quiet : Quiet h) (endTime : Timespec) :
    mwp reading.invariant h env (readRound s port close len endTime overallRead) Round := by
  have ends : ∀ (h : History traced) (env : Env) result, reading.ended h result →
    Round h env (.error result) :=
    fun _ _ _ right => right
  apply (remaining_reading endTime).andThen quiet ends
  intro h env timeout quiet
  apply (Discipline.Part.ofAside (poll_aside .read port close timeout)).andThen quiet ends
  intro h env result quiet
  apply (checkNext_reading result).andThen quiet ends
  intro h env _ quiet
  have quiet : Quiet h := quiet
  rw [Method.mwp_bind]
  apply mwp_mono (read_reads reading.ofCalm quiet.calm port overallRead (len - overallRead))
  rintro h' env' x ⟨r, rfl, rfl⟩
  have quiet : Quiet (h ++ [⟨.inr (.read port (len - overallRead)), r⟩]) :=
    reading.aside h _ quiet (by simp [aside])
  rw [Method.rest_ok, Method.mwp_bind]
  cases r with
  | error errno =>
      apply mwp_mono (readFailed_reading quiet "readBytes read error: Should never happen")
      intro h env x after
      cases x with
      | error result => exact after
      | ok total => exact mwp_total (.inl after) total
  | ok bytes =>
      apply mwp_mono (countRead_onward quiet rfl)
      intro h env x after
      cases x with
      | error result => exact after
      | ok total => exact mwp_total after total

theorem readBuffer_right (s : Settings) (len : ℕ) (env : Env) :
    mwp reading.invariant [] env (readBuffer s len) (fun h _ x => Right h (returned x)) := by
  have start : Quiet [] := ⟨calm_nil, .nil⟩
  have ends : ∀ (h : History traced) (_ : Env) (result : ℤ), reading.ended h result →
      Right h (returned (.error result)) := fun _ _ _ right => right
  rw [readBuffer, Method.mwp_bind]
  apply mwp_mono (getFd_reading start (by simp))
  rintro h env x ⟨quiet, port, rfl⟩
  rw [Method.rest_ok]
  apply (Discipline.Part.ofAside (.ask rfl)).andThen quiet ends
  intro h env close quiet
  apply firstRead_reading.andThen quiet ends
  intro h env nread quiet
  apply (Discipline.Part.ofAside (endTime_aside s.pollReadTimeout)).andThen quiet ends
  intro h env endTime quiet
  have waited : reading.Part (if nread = 0 then awaitFirst s port close len
    else pure nread : Code traced ℕ) :=
    .ite awaitFirst_reading (.pure nread)
  apply waited.andThen quiet ends
  intro h env nread quiet
  refine mwp_iterate (fun h _ _ => Onward h) (.inl quiet) fun h env overallRead onward => ?_
  rcases onward with quiet | slipped | broken
  · exact readRound_quiet quiet endTime
  · exact readRound_slipped slipped endTime
  · exact mwp_mono (mwp_broken broken _) fun h env x broken => broken.round

end ReadBuffer

/-- A write stops in every run; a read does exactly as long as no `read` of its loop finds
nothing on an open port. -/
theorem stops_once_raised (s : Settings) (env : Env) :
    (∀ buff h q, Program.Run ((writeBuffer s buff : Code traced ℤ) env) h q → Stops h) ∧
    (∀ len h q, Program.Run ((readBuffer s len : Code traced ℤ) env) h q → Foreseen h → Stops h) ∧
    ∀ len h x env', Program.Returns ((readBuffer s len : Code traced ℤ) env) h (x, env') →
      (Stops h ∧ (returned x = -1 ↔ Raised h) ↔ Foreseen h) := by
  refine ⟨?_, ?_, ?_⟩
  · intro buff h q run
    by_cases first : h = []
    · rw [first]
      exact .nil
    · exact (writeBuffer_writing [] env calm_nil h q run).1 first
  · intro len h q run foreseen
    by_cases first : h = []
    · rw [first]
      exact .nil
    · exact (readBuffer_right s len env h q run).1 first foreseen
  · intro len h x env' run
    have right : Right h (returned x) := wp_returns (readBuffer_right s len env) run
    exact right.symm

theorem one_of_two : [(7 : UInt8)].length ≤ 2 := by decide

/-- A read that obtains its two bytes one after the other. -/
def obtained : History traced :=
  [⟨.inr .getFd, (5 : ℤ)⟩, ⟨.inr .getCloseEventReadFd, (6 : ℤ)⟩,
    ⟨.inr (.read 5 2), .ok ⟨[7], one_of_two⟩⟩, ⟨.inr (.poll .read 5 6 100),
    some (.ok (.ready POLLIN 0))⟩, ⟨.inr (.read 5 1), .ok ⟨[8], by decide⟩⟩]

theorem stops_once_obtained : Foreseen obtained := by
  obtain ⟨-, -, right⟩ := stops_once_raised Settings.new ⟨[], .EAGAIN, [0, 0]⟩
  have run : Program.Returns
    ((readBuffer Settings.new 2 : Code traced ℤ) ⟨[], .EAGAIN, [0, 0]⟩) obtained (.ok 2, _) :=
    Program.replay_sound 20 rfl
  have calm : Calm obtained := by simp [Calm, obtained, raises]
  exact (right 2 obtained (.ok 2) _ run).mp ⟨calm.stops, iff_of_false (by decide) calm.not_raised⟩

/-- Nothing is found after `poll` has reported something: the read throws, waits
once more and returns 1. -/
theorem readBuffer_goes_on :
    ¬∀ (s : Settings) (env : Env) (len : ℕ) (h : History traced) (x : Except ℤ ℤ) (env' : Env),
    Program.Returns ((readBuffer s len : Code traced ℤ) env) h (x, env') → Stops h ∧
      (returned x = -1 ↔ Raised h) := by
  intro right
  have run : Program.Returns ((readBuffer Settings.new 2 : Code traced ℤ) ⟨[], .EAGAIN, [0, 0]⟩)
      [⟨.inr .getFd, (5 : ℤ)⟩, ⟨.inr .getCloseEventReadFd, (6 : ℤ)⟩,
        ⟨.inr (.read 5 2), .ok ⟨[7], by decide⟩⟩,
        ⟨.inr (.poll .read 5 6 100), some (.ok (.ready POLLIN 0))⟩,
        ⟨.inr (.read 5 1), .ok ⟨[], by decide⟩⟩, ⟨.inr .getFd, (5 : ℤ)⟩,
        ⟨.inl (.interruptedIOException
          ("readBytes: nothing to read after successful polling: Should never happen" ++
            ": Unknown port error " ++ Settings.new.errnoText .EAGAIN) 0), ()⟩,
              ⟨.inr (.poll .read 5 6 100), some (.ok .timeout)⟩] (.error 1, _) :=
    Program.replay_sound 20 rfl
  have stops := (right _ _ _ _ _ _ run).1
  unfold Stops at stops
  revert stops
  decide

end Spsw.Jni.TermiosTrace

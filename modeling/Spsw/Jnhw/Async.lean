import Spsw.Interaction.Guarded
import Spsw.Jnhw.Read
import Spsw.Jnhw.Write

/-!
# Asynchronous reading and writing

A step relation over the calls `readAsync` and `writeAsync`. What a call does
between its system calls is its form; the semaphores, the executor's queue, the
system calls and the callbacks are separate steps, so calls interleave between
any two of them.
-/
namespace Spsw.Jnhw.Async
open Interaction

/-- Which half is running: the first one, in the caller's thread or in the task,
or the rest of the operation. -/
inductive Part where
  | caller
  | task
  | rest
  deriving DecidableEq, Repr

/-- The statement a call is about to execute. -/
inductive Location where
  | called
  | running (part : Part) (p : Program posix (Except JavaException ℤ × Frame))
  | queued (acquired : Bool) (start : ℤ) (buf : ByteBuffer)
  | acquiring (buf : ByteBuffer)
  | releasing (next : Location)
  | notifying (x : Except JavaException Unit) (buf : ByteBuffer)
  | ended (x : Except JavaException Unit) (buf : ByteBuffer)

def startTransfer (s : Socket) : Direction → Call ℤ
  | .read => startRead
  | .write => startWrite s

def continueTransfer (s : Socket) : Direction → ℤ → Call ℤ
  | .read => continueRead s
  | .write => continueWrite s

/-- On to `continueRead` or `continueWrite`. -/
def proceed (s : Socket) (d : Direction) (start : ℤ) (buf : ByteBuffer) : Location :=
  .running .rest (continueTransfer s d start ⟨buf, false⟩)

/-- What a form does after each of its parts, when its task begins, and when the
task is interrupted in `acquire`. -/
structure Form where
  after : Part → Except JavaException ℤ → ByteBuffer → Location
  run : Bool → ℤ → ByteBuffer → Location
  interrupted : ByteBuffer → Location

/-- `catch (IOException ioe)` passes the exception on, `catch (Exception e)` wraps it. -/
def asIOException (e : JavaException) : JavaException :=
  if e.isIOException = true then e else .causedBy e

/-- The forms with a `Future`. The first half of the caller's thread stands in a
`try` with `finally { release(); }`. -/
def future (s : Socket) (d : Direction) : Form where
  after
    | .caller, .ok n, buf =>
        .releasing (if buf.hasRemaining = true then .queued true n buf else .ended (.ok ()) buf)
    | .caller, .error e, buf => .releasing (.ended (.error e) buf)
    | .task, .ok n, buf =>
        if buf.hasRemaining = true then proceed s d n buf else .releasing (.ended (.ok ()) buf)
    | .task, .error e, buf => .releasing (.ended (.error e) buf)
    | .rest, .ok _, buf => .releasing (.ended (.ok ()) buf)
    | .rest, .error e, buf => .releasing (.ended (.error e) buf)
  run
    | true, start, buf => proceed s d start buf
    | false, _, buf => .acquiring buf
  interrupted buf := .ended (.error .interruptedException) buf

/-- `readAsync(ByteBuffer)`. -/
def readAsync (s : Socket) : Form := future s .read

/-- `writeAsync(ByteBuffer)`. -/
def writeAsync (s : Socket) : Form := future s .write

/-- `readAsync(ByteBuffer, Consumer, Consumer)`. -/
def readAsyncCallback (s : Socket) : Form where
  after
    | .caller, .ok nread, dst =>
        if dst.hasRemaining = true then .queued true nread dst
        else .releasing (.notifying (.ok ()) dst)
    | .task, .ok nRead, dst =>
        if dst.hasRemaining = true then proceed s .read nRead dst
        else .releasing (.notifying (.ok ()) dst)
    | .rest, .ok _, dst => .releasing (.notifying (.ok ()) dst)
    | _, .error e, dst => .releasing (.notifying (.error (asIOException e)) dst)
  run
    | true, start, dst =>
        if dst.hasRemaining = true then proceed s .read start dst
        else .releasing (.notifying (.ok ()) dst)
    | false, _, dst => .acquiring dst
  interrupted dst := .notifying (.error (.causedBy .interruptedException)) dst

/-- `writeAsync(ByteBuffer, Consumer, Consumer)`. After `continueWrite` there is no
`release()` before the callback. -/
def writeAsyncCallback (s : Socket) : Form where
  after
    | .caller, .ok written, src =>
        if src.hasRemaining = true then .queued true written src
        else .releasing (.notifying (.ok ()) src)
    | .task, .ok written1, src =>
        if src.hasRemaining = true then proceed s .write written1 src
        else .releasing (.notifying (.ok ()) src)
    | .rest, .ok _, src => .notifying (.ok ()) src
    | _, .error e, src => .releasing (.notifying (.error (asIOException e)) src)
  run
    | true, start, src => proceed s .write start src
    | false, _, src => .acquiring src
  interrupted src := .notifying (.error (.causedBy .interruptedException)) src

inductive Kind where
  | future
  | callback
  deriving DecidableEq, Repr

/-- A call of one of the four methods, with the buffer it is given. -/
structure AsyncCall where
  kind : Kind
  direction : Direction
  buffer : ByteBuffer

def AsyncCall.form (s : Socket) (c : AsyncCall) : Form :=
  match c.kind, c.direction with
  | .future, .read => readAsync s
  | .future, .write => writeAsync s
  | .callback, .read => readAsyncCallback s
  | .callback, .write => writeAsyncCallback s

/-- `permits .read` are those of `readSemaphore`, `permits .write` those of
`writeSemaphore`; a callback is logged with the buffer or the exception it got. -/
structure State (ι : Type) where
  permits : Direction → ℕ
  location : ι → Location
  log : Direction → List (ι × Event posix)
  callbacks : List (ι × Except JavaException ByteBuffer)

variable {ι : Type}

def State.setPermits (s : State ι) (d : Direction) (n : ℕ) : State ι :=
  { s with permits := Function.update s.permits d n }

def State.record (s : State ι) (d : Direction) (i : ι) (h : History posix) : State ι :=
  { s with log := Function.update s.log d (s.log d ++ h.map (Prod.mk i)) }

@[simp] theorem record_location (s : State ι) (d : Direction) (i : ι) (h : History posix) :
    (s.record d i h).location = s.location := rfl

@[simp] theorem record_permits (s : State ι) (d : Direction) (i : ι) (h : History posix) :
    (s.record d i h).permits = s.permits := rfl

@[simp] theorem record_log (s : State ι) (d : Direction) (i : ι) (h : History posix) :
    (s.record d i h).log d = s.log d ++ h.map (Prod.mk i) := by
  simp [State.record]

@[simp] theorem record_nil (s : State ι) (d : Direction) (i : ι) : s.record d i [] = s := by
  simp [State.record]

@[simp] theorem record_record (s : State ι) (d : Direction) (i : ι) (h h' : History posix) :
    (s.record d i h).record d i h' = s.record d i (h ++ h') := by
  simp [State.record]

variable [DecidableEq ι]

def State.goto (s : State ι) (i : ι) (l : Location) : State ι :=
  { s with location := Function.update s.location i l }

@[simp] theorem goto_location (s : State ι) (i : ι) (l : Location) :
    (s.goto i l).location i = l := by
  simp [State.goto]

@[simp] theorem goto_goto (s : State ι) (i : ι) (l l' : Location) :
    (s.goto i l).goto i l' = s.goto i l' := by
  simp [State.goto]

@[simp] theorem goto_record (s : State ι) (i j : ι) (l : Location) (d : Direction)
    (h : History posix) : (s.goto i l).record d j h = (s.record d j h).goto i l := rfl

@[simp] theorem goto_setPermits (s : State ι) (i : ι) (l : Location) (d : Direction) (n : ℕ) :
    (s.goto i l).setPermits d n = (s.setPermits d n).goto i l := rfl

inductive Step (socket : Socket) (calls : ι → AsyncCall) : State ι → State ι → Prop
  | tryAcquire {s : State ι} (i : ι) (p : ℕ) (here : s.location i = .called)
      (free : s.permits (calls i).direction = p + 1) :
      Step socket calls s ((s.setPermits (calls i).direction p).goto i
        (.running .caller (startTransfer socket (calls i).direction ⟨(calls i).buffer, false⟩)))
  | submit {s : State ι} (i : ι) (here : s.location i = .called)
      (taken : s.permits (calls i).direction = 0) :
      Step socket calls s (s.goto i (.queued false 0 (calls i).buffer))
  | silent {s : State ι} (i : ι) {part p q} (here : s.location i = .running part p)
      (step : Program.Step p none q) : Step socket calls s (s.goto i (.running part q))
  | event {s : State ι} (i : ι) {part p q ev} (here : s.location i = .running part p)
      (step : Program.Step p (some ev) q) :
      Step socket calls s ((s.record (calls i).direction i [ev]).goto i (.running part q))
  | partEnded {s : State ι} (i : ι) {part x f}
      (here : s.location i = .running part (.pure (x, f))) :
      Step socket calls s (s.goto i (((calls i).form socket).after part x f.buffer))
  | run {s : State ι} (i : ι) {acquired start buf}
      (here : s.location i = .queued acquired start buf) :
      Step socket calls s (s.goto i (((calls i).form socket).run acquired start buf))
  | acquire {s : State ι} (i : ι) (p : ℕ) {buf} (here : s.location i = .acquiring buf)
      (free : s.permits (calls i).direction = p + 1) :
      Step socket calls s ((s.setPermits (calls i).direction p).goto i
        (.running .task (startTransfer socket (calls i).direction ⟨buf, false⟩)))
  | interrupt {s : State ι} (i : ι) {buf} (here : s.location i = .acquiring buf) :
      Step socket calls s (s.goto i (((calls i).form socket).interrupted buf))
  | release {s : State ι} (i : ι) {next} (here : s.location i = .releasing next) :
      Step socket calls s ((s.setPermits (calls i).direction
        (s.permits (calls i).direction + 1)).goto i next)
  | accept {s : State ι} (i : ι) {x buf} (here : s.location i = .notifying x buf) :
      Step socket calls s ({ s with
        callbacks := s.callbacks ++ [(i, x.map (fun _ => buf))] }.goto i (.ended x buf))

/-- No call has begun, and both semaphores have their permit. -/
structure Initial (s : State ι) : Prop where
  permits : ∀ d, s.permits d = 1
  location : ∀ i, s.location i = .called
  log : ∀ d, s.log d = []
  callbacks : s.callbacks = []

end Spsw.Jnhw.Async

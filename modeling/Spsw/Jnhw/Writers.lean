import Spsw.Interaction.Guarded
import Spsw.Jnhw.Write

/-!
# Any number of threads writing

A step relation over the calls `write(ByteBuffer)` of the socket and `write` of
its output stream. The monitor `writeLock`, the `tryLock` on the stream's own
buffer and the system calls are separate steps, so calls interleave between any
two of them. Calls may start in any order; a thread that makes one call after
another is one such order.
-/
namespace Spsw.Jnhw.Writers
open Interaction

inductive WriteCall where
  /-- `PosixSerialPortSocket.write(ByteBuffer)` -/
  | channel (src : ByteBuffer)
  /-- `OutputStream.write(int)` -/
  | single (b : Int32)
  /-- `OutputStream.write(byte[])` -/
  | array (b : List UInt8)
  /-- `OutputStream.write(byte[], off, len)` -/
  | range (b : List UInt8) (off len : Int32)

/-- The cast `(byte)`. -/
def toByte (b : Int32) : UInt8 := UInt8.ofInt b.toInt

def slice (b : List UInt8) (off len : ℕ) : List UInt8 := (b.drop off).take len

/-- The bytes a call is there to write. -/
def WriteCall.bytes : WriteCall → List UInt8
  | .channel src => src.pending
  | .single b => [toByte b]
  | .array b => b
  | .range b off len => slice b off.toInt.toNat len.toInt.toNat

/-- The test that throws IndexOutOfBoundsException; `off + len` may overflow. -/
def outOfBounds (b : List UInt8) (off len : Int32) : Bool :=
  decide (off.toInt < 0) || decide (off.toInt > b.length) || decide (len.toInt < 0) ||
    decide ((off + len).toInt > b.length) || decide ((off + len).toInt < 0)

/-- `buf.clear().put(b, off, len).flip()`. -/
def fill (buf : ByteBuffer) (b : List UInt8) (off len : ℕ) : Except JavaException ByteBuffer :=
  if off + len ≤ b.length then
    match buf.clear.put (slice b off len) with
    | some buf => .ok buf.flip
    | none => .error .bufferOverflowException
  else .error .indexOutOfBoundsException

/-- The statement a call is about to execute. -/
inductive Location where
  | called
  | buffering (b : List UInt8) (off len : ℕ)
  | copying (b : List UInt8) (off len : ℕ) (buf : ByteBuffer) (useWriteBuffer : Bool)
  | waiting (body : Call ℤ) (buf : ByteBuffer) (useWriteBuffer : Bool)
  | writing (p : Program posix (Except JavaException ℤ × Frame)) (useWriteBuffer : Bool)
  | unlocking (x : Except JavaException ℤ) (buf : ByteBuffer) (useWriteBuffer : Bool)
  | ended (x : Except JavaException ℤ) (buf : ByteBuffer)

structure State (ι : Type) where
  writeLock : Option ι
  writeBufferLock : Bool
  writeBuffer : ByteBuffer
  location : ι → Location
  log : List (ι × Event posix)

variable {ι : Type} [DecidableEq ι]

def State.goto (s : State ι) (i : ι) (l : Location) : State ι :=
  { s with location := Function.update s.location i l }

@[simp] theorem goto_location (s : State ι) (i : ι) (l : Location) :
    (s.goto i l).location i = l := by
  simp [State.goto]

/-- Where a call goes on after its arguments have been looked at. -/
def enter (socket : Socket) : WriteCall → Location
  | .channel src => .waiting (write socket) src false
  | .single b => .waiting (writeByte socket (toByte b)) (ByteBuffer.wrap []) false
  | .array b => .buffering b 0 b.length
  | .range b off len =>
      if outOfBounds b off len = true then
        .ended (.error .indexOutOfBoundsException) (ByteBuffer.wrap [])
      else .buffering b off.toInt.toNat len.toInt.toNat

/-- Where a call goes on after copying its bytes into the buffer `buf`. -/
def copied (socket : Socket) (buf : ByteBuffer) (useWriteBuffer : Bool) :
    Except JavaException ByteBuffer → Location
  | .ok filled => .waiting (write socket) filled useWriteBuffer
  | .error e => .unlocking (.error e) buf useWriteBuffer

inductive Step (socket : Socket) (BUFFER_SIZE : ℕ) (calls : ι → WriteCall) :
    State ι → State ι → Prop
  | enter {s : State ι} (i : ι) (here : s.location i = .called) :
      Step socket BUFFER_SIZE calls s (s.goto i (enter socket (calls i)))
  | tryLock {s : State ι} (i : ι) {b off len} (here : s.location i = .buffering b off len)
      (fits : len ≤ BUFFER_SIZE) (free : s.writeBufferLock = false) :
      Step socket BUFFER_SIZE calls s
        ({ s with writeBufferLock := true }.goto i (.copying b off len s.writeBuffer true))
  /-- The buffer is too small, or `tryLock` has failed. -/
  | allocate {s : State ι} (i : ι) {b off len} (here : s.location i = .buffering b off len) :
      Step socket BUFFER_SIZE calls s
        (s.goto i (.copying b off len (ByteBuffer.allocateDirect len) false))
  | copy {s : State ι} (i : ι) {b off len buf useWriteBuffer}
      (here : s.location i = .copying b off len buf useWriteBuffer) :
      Step socket BUFFER_SIZE calls s
        (s.goto i (copied socket buf useWriteBuffer (fill buf b off len)))
  | acquire {s : State ι} (i : ι) {body buf useWriteBuffer}
      (here : s.location i = .waiting body buf useWriteBuffer) (free : s.writeLock = none) :
      Step socket BUFFER_SIZE calls s
        ({ s with writeLock := some i }.goto i (.writing (body ⟨buf, false⟩) useWriteBuffer))
  | silent {s : State ι} (i : ι) {p q useWriteBuffer}
      (here : s.location i = .writing p useWriteBuffer) (step : Program.Step p none q) :
      Step socket BUFFER_SIZE calls s (s.goto i (.writing q useWriteBuffer))
  | event {s : State ι} (i : ι) {p q ev useWriteBuffer}
      (here : s.location i = .writing p useWriteBuffer) (step : Program.Step p (some ev) q) :
      Step socket BUFFER_SIZE calls s
        ({ s with log := s.log ++ [(i, ev)] }.goto i (.writing q useWriteBuffer))
  | release {s : State ι} (i : ι) {x f useWriteBuffer}
      (here : s.location i = .writing (.pure (x, f)) useWriteBuffer) :
      Step socket BUFFER_SIZE calls s
        ({ s with writeLock := none }.goto i (.unlocking x f.buffer useWriteBuffer))
  | unlock {s : State ι} (i : ι) {x buf} (here : s.location i = .unlocking x buf true) :
      Step socket BUFFER_SIZE calls s
        ({ s with writeBufferLock := false, writeBuffer := buf }.goto i (.ended x buf))
  | finish {s : State ι} (i : ι) {x buf} (here : s.location i = .unlocking x buf false) :
      Step socket BUFFER_SIZE calls s (s.goto i (.ended x buf))

/-- No call has begun; the shared buffer may hold anything. -/
structure Initial (BUFFER_SIZE : ℕ) (s : State ι) : Prop where
  writeLock : s.writeLock = none
  writeBufferLock : s.writeBufferLock = false
  capacity : s.writeBuffer.capacity = BUFFER_SIZE
  location : ∀ i, s.location i = .called
  log : s.log = []

/-- The bytes the descriptor has accepted, each with the call it came from. -/
def wire (s : State ι) : List (ι × UInt8) := Guarded.expand accepted s.log

/-- What a call owes when it is over: its own bytes if it returns; and for
`write(ByteBuffer)`, in any case, a first part of `src`, followed by the position. -/
structure Delivered (call : WriteCall) (h : History posix) (buf : ByteBuffer)
    (x : Except JavaException ℤ) : Prop where
  returned : ∀ count, x = .ok count → sent h = call.bytes
  channel : ∀ src, call = .channel src → ∃ n, Handed [] src n h buf ∧
    ∀ count, x = .ok count → n = src.remaining ∧ count = src.remaining

/-- What has to hold of a call's events at each of its locations. -/
def Owes (call : WriteCall) (h : History posix) : Location → Prop
  | .called => h = []
  | .buffering b off len | .copying b off len _ _ =>
      h = [] ∧ slice b off len = call.bytes ∧ ∀ src, call ≠ .channel src
  | .waiting body buf _ =>
      h = [] ∧ Method.mwp (fun _ => True) [] ⟨buf,
        false⟩ body (fun h f => Delivered call h f.buffer)
  | .writing p _ => wp (fun _ => True) h p (fun h x => Delivered call h x.2.buffer x.1)
  | .unlocking x buf _ | .ended x buf => Delivered call h buf x

theorem owes_writing {call : WriteCall} {h : History posix}
    {p : Program posix (Except JavaException ℤ × Frame)} {useWriteBuffer : Bool} :
    Owes call h (.writing p useWriteBuffer) ↔
      wp (fun _ => True) h p (fun h x => Delivered call h x.2.buffer x.1) := Iff.rfl

theorem write_delivered {socket : Socket} {call : WriteCall} {buf : ByteBuffer}
    (bytes : buf.pending = call.bytes) (same : ∀ src, call = .channel src → buf = src) :
    Method.mwp (fun _ => True) [] ⟨buf, false⟩ (write socket)
      (fun h f => Delivered call h f.buffer) := by
  have wrote := wp_forget (write_wrote (h := []) (f := ⟨buf, false⟩) (s := socket))
  apply wp_mono wrote
  rintro h ⟨x, f⟩ ⟨n, done, all⟩
  constructor
  · intro count eq
    obtain ⟨rfl, -⟩ := all count eq
    rw [done.sent, ← bytes, sent_nil, List.nil_append,
      ← ByteBuffer.pending_length, List.take_length]
  · intro src eq
    have here := same src eq
    subst here
    refine ⟨n, done, ?_⟩
    intro count eq'
    obtain ⟨rfl, count_eq⟩ := all count eq'
    exact ⟨rfl, count_eq⟩

theorem writeByte_delivered {socket : Socket} {b : Int32} {buf : ByteBuffer} :
    Method.mwp (fun _ => True) [] ⟨buf, false⟩ (writeByte socket (toByte b))
      (fun h f => Delivered (.single b) h f.buffer) := by
  apply Method.mwp_mono writeByte_wrote
  intro h f x wrote
  refine ⟨?_, by rintro src ⟨⟩⟩
  intro count eq
  rw [wrote count eq, sent_nil, List.nil_append]
  rfl

theorem fill_pending {buf filled : ByteBuffer} {b : List UInt8} {off len : ℕ}
    (ok : fill buf b off len = .ok filled) : filled.pending = slice b off len := by
  unfold fill ByteBuffer.put at ok
  split at ok
  · split at ok
    · next put =>
        split at put
        · cases put
          cases ok
          exact ByteBuffer.fill_pending _
        · cases put
    · cases ok
  · cases ok

theorem enter_owes {socket : Socket} {call : WriteCall} :
    Owes call [] (enter socket call) := by
  cases call with
  | channel src => exact ⟨rfl, write_delivered rfl (by rintro _ ⟨⟩; rfl)⟩
  | single b => exact ⟨rfl, writeByte_delivered⟩
  | array b =>
      refine ⟨rfl, ?_, by rintro src ⟨⟩⟩
      simp [slice, WriteCall.bytes]
  | range b off len =>
      simp only [enter]
      split
      · exact ⟨by rintro count ⟨⟩, by rintro src ⟨⟩⟩
      · exact ⟨rfl, rfl, by rintro src ⟨⟩⟩

theorem copied_owes {socket : Socket} {call : WriteCall} {buf : ByteBuffer} {useWriteBuffer : Bool}
    {b : List UInt8} {off len : ℕ} (bytes : slice b off len = call.bytes)
    (stream : ∀ src, call ≠ .channel src) :
    Owes call [] (copied socket buf useWriteBuffer (fill buf b off len)) := by
  cases filled : fill buf b off len with
  | ok buf' =>
      refine ⟨rfl, write_delivered ((fill_pending filled).trans bytes) ?_⟩
      exact fun src eq => absurd eq (stream src)
  | error e => exact ⟨by rintro count ⟨⟩, fun src eq => absurd eq (stream src)⟩

variable {socket : Socket} {BUFFER_SIZE : ℕ} {calls : ι → WriteCall} {s t : State ι}

/-- Moving one call on, without an event, keeps what all calls owe if it does so for that call. -/
theorem owes_goto {s : State ι} {i : ι} {l : Location}
    (owes : ∀ j, Owes (calls j) (Guarded.own s.log j) (s.location j))
    (next : Owes (calls i) (Guarded.own s.log i) l) (j : ι) :
    Owes (calls j) (Guarded.own (s.goto i l).log j) ((s.goto i l).location j) := by
  by_cases same : j = i
  · subst same
    simpa [State.goto] using next
  · simpa [State.goto, same] using owes j

theorem owes_here {i : ι} {l : Location}
    (owes : ∀ j, Owes (calls j) (Guarded.own s.log j) (s.location j)) (here : s.location i = l) :
    Owes (calls i) (Guarded.own s.log i) l := by
  rw [← here]
  exact owes i

theorem step_owes (step : Step socket BUFFER_SIZE calls s t)
    (owes : ∀ j, Owes (calls j) (Guarded.own s.log j) (s.location j)) (j : ι) :
    Owes (calls j) (Guarded.own t.log j) (t.location j) := by
  cases step with
  | enter i here =>
      refine owes_goto owes ?_ j
      have fresh := owes_here owes here
      rw [show Guarded.own s.log i = [] from fresh]
      exact enter_owes
  | tryLock i here fits free =>
      refine owes_goto (s := { s with writeBufferLock := true }) owes ?_ j
      have now := owes_here owes here
      exact now
  | allocate i here =>
      refine owes_goto owes ?_ j
      have now := owes_here owes here
      exact now
  | copy i here =>
      refine owes_goto owes ?_ j
      have now := owes_here owes here
      rw [now.1]
      exact copied_owes now.2.1 now.2.2
  | acquire i here free =>
      refine owes_goto (s := { s with writeLock := some i }) owes ?_ j
      have now := owes_here owes here
      change Owes (calls i) (Guarded.own s.log i) _
      rw [now.1]
      exact now.2
  | @silent i p q useWriteBuffer here step =>
      refine owes_goto owes ?_ j
      have now := owes_writing.mp (owes_here owes here)
      exact wp_silent now step
  | @event i p q ev useWriteBuffer here step =>
      by_cases same : j = i
      · subst same
        have now := owes_writing.mp (owes_here owes here)
        simpa [State.goto, owes_writing] using (wp_event now step).2
      · have other := owes j
        simpa [State.goto, same, Guarded.own_other ev (Ne.symm same)] using other
  | release i here =>
      refine owes_goto (s := { s with writeLock := none }) owes ?_ j
      have now := owes_writing.mp (owes_here owes here)
      exact wp_pure.mp now
  | @unlock i x buf here =>
      refine owes_goto (s := { s with writeBufferLock := false, writeBuffer := buf }) owes ?_ j
      have now := owes_here owes here
      exact now
  | finish i here =>
      refine owes_goto owes ?_ j
      have now := owes_here owes here
      exact now

/-- Only the call inside the monitor is its owner. -/
def Owned (s : State ι) : Prop :=
  ∀ i p useWriteBuffer, s.location i = .writing p useWriteBuffer → s.writeLock = some i

def Location.stage : Location → Guarded.Stage
  | .called | .buffering _ _ _ | .copying _ _ _ _ _ | .waiting _ _ _ => .before
  | .writing _ _ => .inside
  | .unlocking _ _ _ | .ended _ _ => .after

/-- The monitor `writeLock` as a permit, and the system calls as the guarded log. -/
def view (s : State ι) : Guarded.State ι (Event posix) :=
  ⟨if s.writeLock = none then 1 else 0, fun i => (s.location i).stage, s.log⟩

theorem stage_goto (s : State ι) (i : ι) (l : Location) :
    (fun j => ((s.goto i l).location j).stage) =
      Function.update (fun j => (s.location j).stage) i l.stage := by
  funext j
  by_cases same : j = i
  · subst same; simp [State.goto]
  · simp [State.goto, same]

theorem view_goto (s : State ι) (i : ι) (l : Location) :
    view (s.goto i l) = { view s with stage := Function.update (view s).stage i l.stage } := by
  rw [view, stage_goto]
  rfl

/-- A move within a stage is invisible. -/
theorem view_stays {s : State ι} {i : ι} {l : Location} (same : l.stage = (s.location i).stage) :
    view (s.goto i l) = view s := by
  rw [view_goto, same]
  have keep : Function.update (view s).stage i ((s.location i).stage) = (view s).stage :=
    Function.update_eq_self i _
  rw [keep]

theorem owned_goto {s : State ι} {i : ι} {l : Location} (owned : Owned s)
    (next : l.stage = .inside → s.writeLock = some i) : Owned (s.goto i l) := by
  intro j p useWriteBuffer here
  by_cases same : j = i
  · subst same
    simp only [State.goto, Function.update_self] at here
    exact next (by rw [here]; rfl)
  · simp only [State.goto, Function.update_of_ne same] at here
    exact owned j p useWriteBuffer here

theorem step_owned (owned : Owned s) (step : Step socket BUFFER_SIZE calls s t) : Owned t := by
  cases step with
  | enter i here =>
      refine owned_goto owned (fun inside => ?_)
      cases call : calls i with
      | channel src => rw [call] at inside; cases inside
      | single b => rw [call] at inside; cases inside
      | array b => rw [call] at inside; cases inside
      | range b off len =>
          rw [call, enter] at inside
          split at inside
          · cases inside
          · cases inside
  | tryLock i here fits free =>
      exact owned_goto (s := { s with writeBufferLock := true }) owned (by rintro ⟨⟩)
  | allocate i here => exact owned_goto owned (by rintro ⟨⟩)
  | @copy i b off len buf useWriteBuffer here =>
      refine owned_goto owned (fun inside => ?_)
      cases filled : fill buf b off len with
      | ok buf' => rw [filled] at inside; cases inside
      | error e => rw [filled] at inside; cases inside
  | acquire i here free =>
      refine owned_goto (s := { s with writeLock := some i }) ?_ (fun _ => rfl)
      intro j p useWriteBuffer inside
      have := owned j p useWriteBuffer inside
      rw [free] at this
      cases this
  | silent i here step => exact owned_goto owned (fun _ => owned i _ _ here)
  | @event i p q ev useWriteBuffer here step =>
      exact owned_goto (s := { s with log := s.log ++ [(i, ev)] }) owned (fun _ => owned i _ _ here)
  | @release i x f useWriteBuffer here =>
      intro j p useWriteBuffer' inside
      by_cases same : j = i
      · subst same
        simp [State.goto] at inside
      · simp only [State.goto, Function.update_of_ne same] at inside
        have first := owned j p useWriteBuffer' inside
        rw [owned i _ _ here] at first
        cases first
        exact absurd rfl same
  | @unlock i x buf here =>
      exact owned_goto (s := { s with writeBufferLock := false, writeBuffer := buf }) owned
        (by rintro ⟨⟩)
  | finish i here => exact owned_goto owned (by rintro ⟨⟩)

theorem enter_stage (socket : Socket) (call : WriteCall) :
    (enter socket call).stage = .before ∨ (enter socket call).stage = .after := by
  cases call with
  | channel src => exact .inl rfl
  | single b => exact .inl rfl
  | array b => exact .inl rfl
  | range b off len =>
      simp only [enter]
      split
      · exact .inr rfl
      · exact .inl rfl

theorem copied_stage (socket : Socket) (buf : ByteBuffer) (useWriteBuffer : Bool)
    (filled : Except JavaException ByteBuffer) :
    (copied socket buf useWriteBuffer filled).stage = .before ∨
      (copied socket buf useWriteBuffer filled).stage = .after := by
  cases filled with
  | ok buf' => exact .inl rfl
  | error e => exact .inr rfl

/-- A call that is before the monitor stays there or passes it by. -/
theorem refines_outside {i : ι} {l : Location} (here : (s.location i).stage = .before)
    (next : l.stage = .before ∨ l.stage = .after) :
    Relation.ReflTransGen Guarded.Step (view s) (view (s.goto i l)) := by
  rcases next with before | after
  · rw [view_stays (before.trans here.symm)]
  · rw [view_goto, after]
    exact .single (.pass i here)

/-- Every step of the threads is a run of the guarded log. -/
theorem step_refines (owned : Owned s) (step : Step socket BUFFER_SIZE calls s t) :
    Relation.ReflTransGen Guarded.Step (view s) (view t) := by
  cases step with
  | enter i here => exact refines_outside (by rw [here]; rfl) (enter_stage socket (calls i))
  | tryLock i here fits free =>
      rw [view_stays (s := { s with writeBufferLock := true }) (by rw [here]; rfl)]
      exact .refl
  | allocate i here => exact refines_outside (by rw [here]; rfl) (.inl rfl)
  | copy i here => exact refines_outside (by rw [here]; rfl) (copied_stage _ _ _ _)
  | acquire i here free =>
      have permits : (view s).permits = 0 + 1 := by simp [view, free]
      have step :=
        Guarded.Step.enter (s := view s) i 0 (by simp [view, here, Location.stage]) permits
      rw [view_goto]
      exact .single step
  | silent i here step => rw [view_stays (by rw [here]; rfl)]
  | @event i p q ev useWriteBuffer here step =>
      rw [view_stays (s := { s with log := s.log ++ [(i, ev)] }) (by rw [here]; rfl)]
      exact .single (.emit (s := view s) i ev (by simp [view, here, Location.stage]))
  | release i here =>
      have permits : (view s).permits = 0 := by simp [view, owned i _ _ here]
      have step := Guarded.Step.leave (s := view s) i (by simp [view, here, Location.stage])
      rw [permits] at step
      rw [view_goto]
      exact .single step
  | @unlock i x buf here =>
      rw [view_stays (s := { s with writeBufferLock := false, writeBuffer := buf })
        (by rw [here]; rfl)]
      exact .refl
  | finish i here => rw [view_stays (by rw [here]; rfl)]

section Schedules

/-- A run of the program inside the monitor is a run of the threads. -/
theorem run_section {p q : Program posix (Except JavaException ℤ × Frame)} {h : History posix}
    (inner : Program.Run p h q) {i : ι} {useWriteBuffer : Bool} {s : State ι}
    (here : s.location i = .writing p useWriteBuffer) :
    Relation.ReflTransGen (Step socket BUFFER_SIZE calls) s
      ({ s with log := s.log ++ h.map (Prod.mk i) }.goto i (.writing q useWriteBuffer)) := by
  induction inner generalizing s with
  | refl p =>
      have same : { s with log := s.log ++ ([] : History posix).map (Prod.mk i) }.goto i
          (.writing p useWriteBuffer) = s := by
        simp [State.goto, ← here]
      rw [same]
  | @silent p q r h step rest ih =>
      refine .head (.silent i here step) ?_
      simpa [State.goto] using ih (s := s.goto i (.writing q useWriteBuffer)) (goto_location _ _ _)
  | @event p q r ev h step rest ih =>
      have later :=
        ih (s := { s with log := s.log ++ [(i, ev)] }.goto i (.writing q useWriteBuffer))
        (goto_location _ _ _)
      refine .head (.event i here step) ?_
      convert later using 1
      simp [State.goto]

/-- A call that needs no buffer of the stream, from its begin to its end. -/
theorem run_call {body : Call ℤ} {buf : ByteBuffer} {h : History posix}
    {x : Except JavaException ℤ} {f : Frame} (inner : Program.Returns (body ⟨buf, false⟩) h (x, f))
    {i : ι} {s : State ι} (here : s.location i = .called)
    (direct : enter socket (calls i) = .waiting body buf false) (free : s.writeLock = none) :
    Relation.ReflTransGen (Step socket BUFFER_SIZE calls) s
      ({ s with log := s.log ++ h.map (Prod.mk i) }.goto i (.ended x f.buffer)) := by
  have middle : Relation.ReflTransGen (Step socket BUFFER_SIZE calls)
      (({ s with writeLock := some i }.goto i (.waiting body buf false)).goto i
        (.writing (body ⟨buf, false⟩) false)) _ :=
    run_section inner (goto_location _ _ _)
  refine .head (.enter i here) ?_
  rw [direct]
  refine .head (.acquire i (goto_location _ _ _) free) (.trans middle ?_)
  refine .head (.release i (goto_location _ _ _)) (.head (.finish i (goto_location _ _ _)) ?_)
  convert Relation.ReflTransGen.refl using 1
  simp [State.goto, free]

end Schedules
section Runs
variable [Fintype ι]

theorem initial_exclusive (start : Initial BUFFER_SIZE s) : Guarded.Exclusive (view s) := by
  have same : view s = ⟨1, fun i => (s.location i).stage, []⟩ := by
    simp [view, start.writeLock, start.log]
  rw [same]
  exact Guarded.exclusive_initial _ (fun i => by rw [start.location i]; rfl)

/-- In every state that is reached the system calls of each call are in one piece. -/
theorem run_exclusive (start : Initial BUFFER_SIZE s)
    (run : Relation.ReflTransGen (Step socket BUFFER_SIZE calls) s t) :
    Guarded.Exclusive (view t) := by
  have owned : Owned s := by
    intro i p useWriteBuffer here
    rw [start.location i] at here
    cases here
  exact (Guarded.exclusive_of_refinement Owned view (fun _ _ => step_owned)
    (fun _ _ => step_refines) owned (initial_exclusive start) run).2

omit [Fintype ι] in
theorem run_owes (start : Initial BUFFER_SIZE s)
    (run : Relation.ReflTransGen (Step socket BUFFER_SIZE calls) s t) (i : ι) :
    Owes (calls i) (Guarded.own t.log i) (t.location i) := by
  induction run generalizing i with
  | refl =>
      rw [start.location i, start.log]
      rfl
  | tail _ step ih => exact step_owes step ih i

omit [Fintype ι] in
theorem own_wire (s : State ι) (i : ι) : Guarded.own (wire s) i = sent (Guarded.own s.log i) :=
  Guarded.own_expand accepted s.log i

/-- Any number of threads, in any order of their steps: no call's bytes are mixed
with another's, a call that returns has written exactly its own bytes, and a
`write(ByteBuffer)` that throws exactly a first part of `src`, followed by the
position. -/
theorem writers_exact (start : Initial BUFFER_SIZE s)
    (run : Relation.ReflTransGen (Step socket BUFFER_SIZE calls) s t) (i : ι) :
    Guarded.Contiguous (wire t) i ∧ ∀ x buf, t.location i = .ended x buf →
      (∀ count, x = .ok count → Guarded.own (wire t) i = (calls i).bytes) ∧
      ∀ src, calls i = .channel src →
        (∀ count, x = .ok count → count = src.remaining ∧ buf.remaining = 0) ∧
        ∃ n, n ≤ src.remaining ∧ Guarded.own (wire t) i = src.pending.take n ∧
          buf.position = src.position + n := by
  refine ⟨((run_exclusive start run).contiguous i).expand accepted, ?_⟩
  intro x buf ended
  have owes := run_owes start run i
  rw [ended] at owes
  rw [own_wire]
  refine ⟨owes.returned, ?_⟩
  intro src channel
  obtain ⟨n, done, all⟩ := owes.channel src channel
  refine ⟨?_, n, done.fits, ?_, ?_⟩
  · intro count eq
    obtain ⟨rfl, count_eq⟩ := all count eq
    exact ⟨count_eq, by rw [done.remaining, Nat.sub_self]⟩
  · rw [done.sent, sent_nil, List.nil_append]
  · rw [done.buffer, ByteBuffer.advance_position src done.fits]

end Runs

/-- A `write(ByteBuffer)` in two parts, and a `write(int)` after it. -/
def twoCalls : Bool → WriteCall
  | false => .channel (ByteBuffer.wrap [1, 2])
  | true => .single 3

def fresh : State Bool := ⟨none, false, ByteBuffer.allocateDirect 1, fun _ => .called, []⟩

theorem writers_exact_two_calls : ∃ t : State Bool,
    Relation.ReflTransGen (Step (.new "ttyUSB0") 1 twoCalls) fresh t ∧
      Guarded.own (wire t) false = [1, 2] ∧ Guarded.own (wire t) true = [3] := by
  have first : Program.Returns (write (.new "ttyUSB0") ⟨ByteBuffer.wrap [1, 2], false⟩)
      [⟨.write [1, 2], .ok 1⟩, ⟨.begin, ()⟩, ⟨.poll .write (-1), .ok (.ready POLLOUT 0)⟩,
        ⟨.write [2], .ok 1⟩, ⟨.interrupted, false⟩]
      (.ok 2, ⟨(ByteBuffer.wrap [1, 2]).advance 2, true⟩) :=
    Program.replay_sound 8 rfl
  have second : Program.Returns (writeByte (.new "ttyUSB0") 3 ⟨ByteBuffer.wrap [], false⟩)
      [⟨.write [3], .ok 1⟩] (.ok 1, ⟨ByteBuffer.wrap [], false⟩) :=
    Program.replay_sound 3 rfl
  have initial : Initial 1 fresh := ⟨rfl, rfl, rfl, fun _ => rfl, rfl⟩
  have run : Relation.ReflTransGen (Step (.new "ttyUSB0") 1 twoCalls) fresh _ :=
    (run_call first (i := false) rfl rfl rfl).trans (run_call second (i := true) rfl rfl rfl)
  refine ⟨_, run, ?_, ?_⟩
  · exact ((writers_exact initial run false).2 _ _ rfl).1 2 rfl
  · exact ((writers_exact initial run true).2 _ _ rfl).1 1 rfl

end Spsw.Jnhw.Writers

import Spsw.Logging.Transparent

/-!
# Sessions with a wrapped socket

A caller makes one call after the other. Whether the wrapper shows is decided call by
call, by what the caller gives and by what the socket answers.
-/
namespace Spsw.Logging
open Stateful
open LogWriter (append appendPrefix now)

section Failures
variable {D : Type} {port : SerialPortSocket D} {s : State D} {w : LogWriter}

/-- The computation throws, and not an `IOException`. -/
def Fails {σ α : Type} (m : EStateM JavaException σ α) (s : σ) : Prop :=
  ∃ e s', m s = .error e s' ∧ e.isIOException = false

theorem Fails.bind {σ α β : Type} {m : EStateM JavaException σ α}
    {f : α → EStateM JavaException σ β} {s : σ} (fails : Fails m s) : Fails (m >>= f) s := by
  obtain ⟨e, s', thrown, other⟩ := fails
  exact ⟨e, s', bind_of_error thrown, other⟩

theorem fails_after {σ α β : Type} {m : EStateM JavaException σ α}
    {f : α → EStateM JavaException σ β} {s s' : σ} {a : α} (returned : m s = .ok a s')
    (fails : Fails (f a) s') : Fails (m >>= f) s := by
  obtain ⟨e, s'', thrown, other⟩ := fails
  exact ⟨e, s'', (bind_of_ok returned).trans thrown, other⟩

theorem element_fails {b : Option (List UInt8)} {i : ℤ} (outside : ¬InBounds b i 1) :
    Fails (LogWriter.element b i) w := by
  cases b with
  | none => exact ⟨.nullPointerException, w, rfl, rfl⟩
  | some bytes =>
      refine ⟨.indexOutOfBoundsException, w, ?_, rfl⟩
      by_cases low : i < 0
      · simp only [LogWriter.element, if_pos low]
        rfl
      · have high : bytes.length ≤ i.toNat := by
          by_contra below
          exact outside ⟨bytes, rfl, by omega, by omega⟩
        simp only [LogWriter.element, if_neg low, List.getElem?_eq_none high]
        rfl

theorem appendElements_fails {b : Option (List UInt8)} {off : ℤ} {n : ℕ} (some : n ≠ 0)
    (outside : ¬InBounds b off n) :
    Fails (LogWriter.appendElements b off n) w := by
  induction n generalizing off w with
  | zero => exact absurd rfl some
  | succ n ih =>
      by_cases first : InBounds b off 1
      · obtain ⟨bytes, rfl, low, high⟩ := first
        obtain ⟨byte, found⟩ := element_inside low (show off < bytes.length by omega)
        rw [LogWriter.appendElements, found]
        have more : n ≠ 0 := by
          rintro rfl
          exact outside ⟨bytes, rfl, low, by simpa using high⟩
        have rest : ¬InBounds (.some bytes) (off + 1) n := by
          rintro ⟨bytes', same, low', high'⟩
          exact outside ⟨bytes', same, low, by omega⟩
        refine fails_after rfl ?_
        exact fails_after rfl (ih more rest)
      · exact (element_fails first).bind

/-- The wrapper throws an exception of its own, and nothing outside changes. -/
def Refuses {α : Type} (m : Wrapping D α) (s : State D) : Prop :=
  ∃ e, seen (m s) = (.error e, s.world)

theorem refuses_of_fails {α : Type} {m : Wrapping D α} (inside : Inside m) (fails : Fails m s) :
    Refuses m s := by
  obtain ⟨e, s', thrown, -⟩ := fails
  have kept := inside s
  rw [thrown] at kept
  exact ⟨e, by rw [thrown]; exact Prod.ext rfl kept⟩

theorem log_fails {α : Type} {m : Writing α} (fails : Fails m s.writer) : Fails (log m) s := by
  obtain ⟨e, writer, thrown, other⟩ := fails
  refine ⟨e, { s with writer }, ?_, other⟩
  simp only [log, thrown]

theorem dereferenced_fails (absent : ¬s.world.memory.buffer.isSome = true) :
    Fails dereferenced s := by
  have none : s.world.memory.buffer = none := Option.not_isSome_iff_eq_none.mp absent
  refine ⟨.nullPointerException, s, get_bind.trans ?_, rfl⟩
  rw [none]
  rfl

/-- What fails at the beginning keeps the rest from being done. -/
theorem Refuses.bind {α β : Type} {m : Wrapping D α} {f : α → Wrapping D β}
    (refuses : Refuses m s) :
    Refuses (m >>= f) s := by
  obtain ⟨e, same⟩ := refuses
  cases result : m s with
  | ok a s' =>
      rw [result] at same
      cases congrArg Prod.fst same
  | error e' s' =>
      rw [result] at same
      rw [Refuses, bind_of_error result]
      exact ⟨e', Prod.ext rfl (Prod.mk.inj same).2⟩

theorem array_inside : Inside (array : Wrapping D (Option (List UInt8))) := fun _ => rfl

theorem osWriteArray_fails (absent : ¬s.world.memory.array.isSome = true) :
    Fails (array >>= fun b => log (LogWriter.beforeOsWriteArray b)) s := by
  have none : s.world.memory.array = none := Option.not_isSome_iff_eq_none.mp absent
  refine fails_after rfl (log_fails ?_)
  rw [none]
  exact fails_after rfl (fails_after rfl (fails_after rfl (Fails.bind ⟨_, _, rfl, rfl⟩)))

theorem osWriteRange_fails {off len : ℤ}
    (outside : ¬(len ≤ 0 ∨ InBounds s.world.memory.array off len)) :
    Fails (array >>= fun b => log (LogWriter.beforeOsWriteRange b off len)) s := by
  rw [not_or, not_le] at outside
  refine fails_after rfl (log_fails ?_)
  have beyond : ¬InBounds s.world.memory.array off len.toNat := by
    rw [Int.toNat_of_nonneg outside.1.le]
    exact outside.2
  exact fails_after rfl
    (fails_after rfl (fails_after rfl (appendElements_fails (by omega) beyond).bind))

/-- An operation that is not handed on. -/
theorem perform_refuses (port : SerialPortSocket D) (library : Library) (op : Operation)
    (held : ¬Forwardable op s.world.memory) (own : ∀ is method, op ≠ .isInherited is method) :
    Refuses (perform port library op) s := by
  cases op with
  | read => exact (refuses_of_fails dereferenced_inside (dereferenced_fails held)).bind
  | write => exact (refuses_of_fails dereferenced_inside (dereferenced_fails held)).bind.bind
  | osWriteArray os =>
      exact (refuses_of_fails (bind_inside array_inside fun _ => log_inside _)
        (osWriteArray_fails held)).bind
  | osWriteRange os off len =>
      exact (refuses_of_fails (bind_inside array_inside fun _ => log_inside _)
        (osWriteRange_fails held)).bind
  | isInherited is method => exact absurd rfl (own is method)
  | _ => exact absurd trivial held

/-- What has been read cannot be printed. -/
theorem afterIsReadArray_fails {n off : ℤ}
    (outside : ¬(n ≤ 0 ∨ InBounds s.world.memory.array off n)) :
    Fails (array >>= fun b => log (LogWriter.afterIsReadArray n b off)) s := by
  rw [not_or, not_le] at outside
  refine fails_after rfl (log_fails ?_)
  have beyond : ¬InBounds s.world.memory.array off n.toNat := by
    rw [Int.toNat_of_nonneg outside.1.le]
    exact outside.2
  exact fails_after rfl (fails_after rfl (appendElements_fails (by omega) beyond).bind)

/-- The result of a call is lost when it cannot be printed. -/
theorem logged_loses {op : Operation} {before : Wrapping D Unit}
    {after : op.Result → Wrapping D Unit} (failed : JavaException → Wrapping D Unit) (s : State D)
    {P : LogWriter → Prop} {a : op.Result}
    (first : Ends (At s.world fun _ => True) before fun _ => At s.world P)
    (result : (answered port s.world op).1 = .ok a) (inside : Inside (after a))
    (fails : ∀ s', s'.world = (answered port s.world op).2 → Fails (after a) s') :
    ∃ e, seen (logged before (forward port op) after failed s) =
      (.error e, (answered port s.world op).2) := by
  obtain ⟨_, s₁, ok, world, -⟩ := first s ⟨rfl, trivial⟩
  rw [logged, bind_of_ok ok]
  rcases forward_cases port op s₁ with ⟨a', s₂, forwarded, result', same, -⟩ |
    ⟨e, s₂, forwarded, result', same, -⟩
  · rw [world] at result' same
    cases result.symm.trans result'
    obtain ⟨e, s₃, thrown, other⟩ := fails s₂ same
    have body : (do
        let result ← forward port op
        after result
        pure result : Wrapping D op.Result) s₁ = .error e s₃ :=
      (bind_of_ok forwarded).trans (bind_of_error thrown)
    rw [tryCatch_of_error body, other]
    have kept := inside s₂
    rw [thrown] at kept
    exact ⟨e, Prod.ext rfl (kept.trans same)⟩
  · rw [world] at result'
    cases result.symm.trans result'

/-- The second call of `sendXOFF` is made on what the first has left. -/
theorem sendXOFF_twice (s : State D) (returned : (answered port s.world .sendXOFF).1 = .ok ()) :
    seen (sendXOFF port s) = answered port (answered port s.world .sendXOFF).2 .sendXOFF := by
  have once : seen (changing "SP" " sendXOFF" [] " sendXOFF" " sendXOFF:\t"
    (forward port .sendXOFF) s) =
      answered port s.world .sendXOFF := changing_seen s
  rw [sendXOFF]
  cases result : changing "SP" " sendXOFF" [] " sendXOFF" " sendXOFF:\t"
      (forward port .sendXOFF) s with
  | ok a s' =>
      rw [result] at once
      rw [bind_of_ok result, seen_forward]
      exact congrArg (fun w => answered port w .sendXOFF) (Prod.mk.inj once).2
  | error e s' =>
      rw [result] at once
      rw [← once] at returned
      cases returned

end Failures

section Inherited
variable {D α β : Type} {port : SerialPortSocket D}

/-- All that the wrapped socket receives can be handed on. -/
def Passes (m : Wrapping D α) : Prop :=
  ∀ s, ∃ made, (seen (m s)).2.calls = s.world.calls ++ made ∧ ∀ c ∈ made, Forwardable c.op c.memory

theorem Inside.passes {m : Wrapping D α} (inside : Inside m) : Passes m := by
  intro s
  refine ⟨[], ?_, by simp⟩
  rw [inside s, List.append_nil]

theorem passes_bind {m : Wrapping D α} {f : α → Wrapping D β} (first : Passes m)
    (rest : ∀ a, Passes (f a)) :
    Passes (m >>= f) := by
  intro s
  obtain ⟨made, calls, forwardable⟩ := first s
  cases result : m s with
  | ok a s' =>
      obtain ⟨made', calls', forwardable'⟩ := rest a s'
      rw [result] at calls
      refine ⟨made ++ made', ?_,
        fun c member => (List.mem_append.mp member).elim (forwardable c) (forwardable' c)⟩
      rw [bind_of_ok result, calls', ← List.append_assoc, ← calls]
      rfl
  | error e s' =>
      rw [result] at calls
      refine ⟨made, ?_, forwardable⟩
      rw [bind_of_error result]
      exact calls

theorem passes_tryCatch {m : Wrapping D α}
    {handler : JavaException → Wrapping D α} (first : Passes m) (rest : ∀ e, Passes (handler e)) :
    Passes (tryCatch m handler) := by
  intro s
  obtain ⟨made, calls, forwardable⟩ := first s
  cases result : m s with
  | ok a s' =>
      rw [result] at calls
      refine ⟨made, ?_, forwardable⟩
      rw [tryCatch_of_ok result]
      exact calls
  | error e s' =>
      obtain ⟨made', calls', forwardable'⟩ := rest e s'
      rw [result] at calls
      refine ⟨made ++ made', ?_,
        fun c member => (List.mem_append.mp member).elim (forwardable c) (forwardable' c)⟩
      rw [tryCatch_of_error result, calls', ← List.append_assoc, ← calls]
      rfl

theorem passes_pure (a : α) : Passes (pure a : Wrapping D α) := Inside.passes fun _ => rfl

theorem passes_throw (e : JavaException) : Passes (throw e : Wrapping D α) :=
  Inside.passes fun _ => rfl

theorem passes_forward {op : Operation} (forwardable : ∀ memory, Forwardable op memory) :
    Passes (forward port op) := by
  intro s
  refine ⟨[⟨op, s.world.memory⟩], ?_, ?_⟩
  · rw [seen_forward]
    rfl
  · intro c member
    rw [List.mem_singleton.mp member]
    exact forwardable _

theorem passes_log {α : Type} (m : Writing α) : Passes (log m : Wrapping D α) :=
  (log_inside m).passes

theorem passes_logged {op : Operation} {before : Writing Unit} {after : op.Result → Wrapping D Unit}
    {failed : JavaException → Writing Unit} (forwardable : ∀ memory, Forwardable op memory)
    (returned : ∀ a, Passes (after a)) :
    Passes (logged (log before) (forward port op) after (fun e => log (failed e))) := by
  refine passes_bind (passes_log _) fun _ => passes_tryCatch ?_ fun e => ?_
  · exact passes_bind (passes_forward forwardable) fun a => passes_bind (returned a)
      fun _ => passes_pure _
  · split
    · exact passes_bind (passes_log _) fun _ => passes_throw _
    · exact passes_throw _

theorem passes_attempt {m : Wrapping D α} (passes : Passes m) : Passes (attempt m) := by
  intro s
  obtain ⟨made, calls, forwardable⟩ := passes s
  refine ⟨made, ?_, forwardable⟩
  rw [← calls]
  cases result : m s <;> simp only [attempt, result, seen]

theorem passes_array : Passes (array : Wrapping D (Option (List UInt8))) := array_inside.passes

theorem passes_store (b : Option (List UInt8)) : Passes (store b : Wrapping D Unit) :=
  fun _ => ⟨[], (List.append_nil _).symm, by simp⟩

theorem passes_lending {own : Option (List UInt8)} {m : Wrapping D α} (passes : Passes m) :
    Passes (lending own m) := by
  cases own with
  | none => exact passes_bind passes fun _ => passes_bind passes_array fun _ => passes_pure _
  | some bytes =>
      refine passes_bind passes_array fun b => passes_bind (passes_store _) fun _ =>
        passes_bind passes fun _ => ?_
      exact passes_bind passes_array fun _ => passes_bind (passes_store _) fun _ => passes_pure _

/-- The code of an inherited method comes to the wrapped stream by reads only. -/
theorem run_passes (is : Stream) (code : InputStreamCode α) : Passes (code.run port is) := by
  induction code with
  | ends result =>
      cases result with
      | ok a => exact passes_pure a
      | error e => exact passes_throw e
  | read next ih =>
      refine passes_bind (passes_attempt ?_) fun result => ih result
      exact passes_logged (fun _ => trivial) fun _ => passes_log _
  | readRange own off len next ih =>
      refine passes_bind (passes_lending (passes_attempt ?_)) fun x => ih x.1 x.2
      exact passes_logged (fun _ => trivial) fun _ => passes_bind passes_array fun _ => passes_log _

/-- What is not handed on never reaches the wrapped socket. -/
theorem perform_passes (port : SerialPortSocket D) (library : Library)
    {op : Operation} {s : State D} (held : ¬Forwardable op s.world.memory) :
    ∃ made, (seen (perform port library op s)).2.calls = s.world.calls ++ made ∧
      ∀ c ∈ made, Forwardable c.op c.memory := by
  by_cases inherited : ∃ is method, op = .isInherited is method
  · obtain ⟨is, method, rfl⟩ := inherited
    exact run_passes is (library s.world.memory method) s
  · obtain ⟨e, refused⟩ :=
      perform_refuses port library op held fun is method same => inherited ⟨is, method, same⟩
    exact ⟨[], by rw [refused, List.append_nil], by simp⟩

end Inherited

section Sessions
variable {D : Type} (port : SerialPortSocket D) (library : Library)

/-- What the caller sees of a call. -/
structure Outcome where
  op : Operation
  result : Except JavaException op.Result
  memory : Memory

/-- Where an outcome leaves the wrapper. -/
def left {α : Type} : EStateM.Result JavaException (State D) α → State D
  | .ok _ s => s
  | .error _ s => s

/-- A call of the caller, on the memory it gives. -/
def call (c : Invocation) (s : State D) : Outcome × State D :=
  let r := perform port library c.op { s with world := { s.world with memory := c.memory } }
  (⟨c.op, (seen r).1, (seen r).2.memory⟩, left r)

def session : List Invocation → State D → List Outcome × State D
  | [], s => ([], s)
  | c :: cs, s => ((call port library c s).1 :: (session cs (call port library c s).2).1,
      (session cs (call port library c s).2).2)

/-- The same calls made on the socket itself. -/
def direct : List Invocation → D → List Outcome
  | [], _ => []
  | c :: cs, d =>
      ⟨c.op, (port.answer d c).1.result, (port.answer d c).1.memory⟩ ::
        direct cs (port.answer d c).2

/-- No call and no answer in which the wrapper shows. -/
def Plain : List Invocation → D → Prop
  | [], _ => True
  | c :: cs, d =>
      Forwardable c.op c.memory ∧ Unremarkable c.op c.memory (port.answer d c).1.result ∧
      Plain cs (port.answer d c).2

/-- The wrapped socket receives the calls of the caller, and the caller sees the answers. -/
def Transparent (cs : List Invocation) (s : State D) : Prop :=
  (session port library cs s).2.world.calls = s.world.calls ++ cs ∧
    (session port library cs s).1 = direct port cs s.world.socket

variable {port library} {c : Invocation} {cs : List Invocation} {s : State D}

theorem left_world {α : Type} (r : EStateM.Result JavaException (State D) α) :
    (left r).world = (seen r).2 := by
  cases r <;> rfl

/-- The wrapper on the memory that the caller gives. -/
def given (c : Invocation) (s : State D) : State D :=
  { s with world := { s.world with memory := c.memory } }

theorem call_plain (library : Library) (forwardable : Forwardable c.op c.memory)
    (unremarkable : Unremarkable c.op c.memory (port.answer s.world.socket c).1.result) :
    (call port library c s).1 = ⟨c.op, (port.answer s.world.socket c).1.result,
    (port.answer s.world.socket c).1.memory⟩ ∧
      (call port library c s).2.world = s.world.after c (port.answer s.world.socket c) := by
  have same : seen (perform port library c.op (given c s)) = answered port (given c s).world c.op :=
    perform_seen library c.op forwardable unremarkable
  constructor
  · change (⟨c.op, (seen (perform port library c.op (given c s))).1,
      (seen (perform port library c.op (given c s))).2.memory⟩ : Outcome) = _
    rw [same]
    rfl
  · refine (left_world _).trans ?_
    exact (congrArg Prod.snd same :)

theorem call_withheld (port : SerialPortSocket D) (library : Library) (s : State D)
    (held : ¬Forwardable c.op c.memory) :
    ∃ made, (call port library c s).2.world.calls = s.world.calls ++ made ∧
      ∀ c ∈ made, Forwardable c.op c.memory := by
  obtain ⟨made, calls, forwardable⟩ := perform_passes (s := given c s) port library held
  exact ⟨made, (congrArg World.calls (left_world _)).trans calls, forwardable⟩

theorem sendXOFF_remarkable {memory : Memory}
    (returned : (port.answer s.world.socket ⟨.sendXOFF, memory⟩).1.result = .ok ()) :
    ∃ memory', (call port library ⟨.sendXOFF, memory⟩ s).2.world.calls =
      s.world.calls ++ [⟨.sendXOFF, memory⟩, ⟨.sendXOFF, memory'⟩] := by
  have twice := sendXOFF_twice (given ⟨.sendXOFF, memory⟩ s) returned
  have world := congrArg World.calls ((left_world _).trans (congrArg Prod.snd twice))
  exact ⟨_, world.trans (List.append_assoc _ _ _)⟩

/-- A read that stores more than the array has room for is handed on, but not handed back. -/
theorem isRead_remarkable {off n : ℤ} {after : c.op.Result → Wrapping D Unit}
    {failed : JavaException → Wrapping D Unit} {a : c.op.Result}
    (result : (port.answer s.world.socket c).1.result = .ok a)
    (outside : ¬(n ≤ 0 ∨ InBounds c.memory.array off n))
    (prints : after a = array >>= fun b => log (LogWriter.afterIsReadArray n b off))
    (performs : perform port library c.op = logged (log LogWriter.beforeIsRead)
    (forward port c.op) after failed) :
    (call port library c s).2.world.calls = s.world.calls ++ [c] ∧
    ∃ e, (call port library c s).1.result = .error e := by
  have loses := logged_loses failed (given c s) (log_ends beforeIsRead_ends) result
    (prints ▸ bind_inside array_inside fun _ => log_inside _) fun s' same => by
      rw [prints]
      refine afterIsReadArray_fails ?_
      rw [same, inBounds_kept]
      exact outside
  rw [← performs] at loses
  obtain ⟨e, same⟩ := loses
  refine ⟨congrArg World.calls ((left_world _).trans (congrArg Prod.snd same)), e, ?_⟩
  exact congrArg Prod.fst same

/-- Where the wrapper shows although it has handed the call on. -/
theorem call_remarkable
    (remarkable : ¬Unremarkable c.op c.memory (port.answer s.world.socket c).1.result) :
    (c.op = .sendXOFF ∧ ∃ memory', (call port library c s).2.world.calls = s.world.calls ++ [c,
    ⟨.sendXOFF, memory'⟩]) ∨
      c.op ≠ .sendXOFF ∧ (call port library c s).2.world.calls = s.world.calls ++ [c] ∧
        (∃ e, (call port library c s).1.result = .error e) ∧
          ∃ a, (port.answer s.world.socket c).1.result = .ok a := by
  obtain ⟨op, memory⟩ := c
  cases result : (port.answer s.world.socket ⟨op, memory⟩).1.result with
  | error e =>
      rw [result] at remarkable
      cases op <;> exact absurd trivial remarkable
  | ok a =>
      rw [result] at remarkable
      cases op with
      | sendXOFF => exact .inl ⟨rfl, sendXOFF_remarkable result⟩
      | isReadArray is =>
          obtain ⟨calls, thrown⟩ := isRead_remarkable result remarkable rfl rfl
          exact .inr ⟨by simp, calls, thrown, a, rfl⟩
      | isReadRange is off len =>
          obtain ⟨calls, thrown⟩ := isRead_remarkable result remarkable rfl rfl
          exact .inr ⟨by simp, calls, thrown, a, rfl⟩
      | _ => exact absurd trivial remarkable

def isSendXOFF (c : Invocation) : Bool := c.op = .sendXOFF

/-- What a wrapped socket has received: only calls that can be handed on, and no fewer of
`sendXOFF` than were made. -/
structure Received (cs made : List Invocation) : Prop where
  forwardable : ∀ c ∈ made, Forwardable c.op c.memory
  sendXOFF : cs.countP isSendXOFF ≤ made.countP isSendXOFF

theorem Received.append {cs' made made' : List Invocation} (first : Received cs made)
    (rest : Received cs' made') :
    Received (cs ++ cs') (made ++ made') where
  forwardable c member :=
    (List.mem_append.mp member).elim (first.forwardable c) (rest.forwardable c)
  sendXOFF := by
    rw [List.countP_append, List.countP_append]
    exact Nat.add_le_add first.sendXOFF rest.sendXOFF

theorem received_self (forwardable : Forwardable c.op c.memory) : Received [c] [c] :=
  ⟨fun _ member => List.mem_singleton.mp member ▸ forwardable, le_refl _⟩

theorem call_received (port : SerialPortSocket D) (library : Library)
    (c : Invocation) (s : State D) :
    ∃ made, (call port library c s).2.world.calls = s.world.calls ++ made ∧ Received [c] made := by
  by_cases forwardable : Forwardable c.op c.memory
  · by_cases unremarkable : Unremarkable c.op c.memory (port.answer s.world.socket c).1.result
    · exact ⟨[c], congrArg World.calls (call_plain library forwardable unremarkable).2,
        received_self forwardable⟩
    · rcases call_remarkable unremarkable with ⟨again, memory', calls⟩ | ⟨-, calls, -⟩
      · refine ⟨_, calls, ?_⟩
        exact (received_self forwardable).append ⟨fun c' member =>
          List.mem_singleton.mp member ▸ trivial, Nat.zero_le _⟩
      · exact ⟨_, calls, received_self forwardable⟩
  · obtain ⟨made, calls, passed⟩ := call_withheld port library s forwardable
    refine ⟨made, calls, passed, ?_⟩
    have other : isSendXOFF c = false := by
      by_contra again
      rw [Bool.not_eq_false, isSendXOFF, decide_eq_true_eq] at again
      exact forwardable (again ▸ trivial)
    rw [List.countP_cons_of_neg (by rw [other]; decide)]
    exact Nat.zero_le _

theorem session_received (port : SerialPortSocket D) (library : Library)
    (cs : List Invocation) (s : State D) :
    ∃ made, (session port library cs s).2.world.calls = s.world.calls ++ made ∧
      Received cs made := by
  induction cs generalizing s with
  | nil => exact ⟨[], (List.append_nil _).symm, by simp, le_refl _⟩
  | cons c cs ih =>
      obtain ⟨made, calls, received⟩ := call_received port library c s
      obtain ⟨made', calls', received'⟩ := ih (call port library c s).2
      refine ⟨made ++ made', ?_, received.append received'⟩
      rw [← List.append_assoc, ← calls]
      exact calls'

end Sessions

section Examples

/-- A socket that does nothing but take note of `sendXOFF`. -/
def obedient : SerialPortSocket Unit where
  answer _ c := (⟨obey c.op, c.memory, rfl, rfl⟩, ())
where
  obey : (op : Operation) → Except JavaException op.Result
    | .sendXOFF => .ok ()
    | _ => .error (.ioException PORT_IS_CLOSED)

/-- A class whose methods do nothing of their own. -/
def silent : Library := fun _ _ => .ends (.error (.ioException "mark/reset not supported"))

def fresh : State Unit where
  world := ⟨(), [], ⟨none, none⟩⟩
  lis := none
  los := none
  writer := ⟨true, false, .NONE, 0, none, none, none, none, [], fun n => n, 0⟩

end Examples
end Spsw.Logging

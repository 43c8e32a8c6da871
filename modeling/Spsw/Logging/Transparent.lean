import Spsw.Interaction.Stateful
import Spsw.Logging.LoggingSerialPortSocket

/-!
# The log is all there is to it

Between caller and wrapped socket the wrapper changes nothing: the socket receives the
calls of the caller, and the caller sees what the socket has answered.
-/
namespace Spsw.Logging
open Stateful
open LogWriter (calling announcing returning throwing append appendPrefix now)

section Writer

/-- A condition on the writer that does not look at what has been printed. -/
def Unlogged (P : LogWriter → Prop) : Prop :=
  ∀ w log ticks, P w → P { w with log := log, ticks := ticks }

/-- The writer prints something, and `P` holds on. -/
abbrev Prints {α : Type} (P : LogWriter → Prop) (m : Writing α) : Prop := Ends P m fun _ => P

variable {α : Type} {P : LogWriter → Prop}

theorem prints_pure (a : α) : Prints P (pure a : Writing α) := ends_pure fun _ here => here

theorem prints_get : Prints P (get : Writing LogWriter) := ends_get fun _ here => here

theorem prints_bind {β : Type} {m : Writing α} {f : α → Writing β} (first : Prints P m)
    (rest : ∀ a, Prints P (f a)) :
    Prints P (m >>= f) :=
  ends_bind first rest

/-- What is read holds of the state read. -/
theorem prints_get_bind {f : LogWriter → Writing α} (rest : ∀ w, P w → Prints P (f w)) :
    Prints P (get >>= f) :=
  fun w here => rest w here w here

variable (unlogged : Unlogged P)
include unlogged

theorem append_prints (items : List Item) : Prints P (append items) :=
  ends_modify fun w here => unlogged w _ w.ticks here

theorem now_prints : Prints P now := fun w here => ⟨_, _, rfl, unlogged w w.log _ here⟩

theorem appendPrefix_prints (ts : Instant) (source action name : String) :
    Prints P (appendPrefix ts source action name) :=
  prints_bind prints_get fun _ => append_prints unlogged _

/-- What only a verbose writer prints. -/
theorem verbose_prints {m : Instant → LogWriter → Writing Unit}
    (prints : ∀ ts w, P w → Prints P (m ts w)) :
    Prints P (do
      let ts ← now
      let w ← get
      if w.verbose = true then m ts w else pure ()) := by
  refine prints_bind (now_prints unlogged) fun ts => prints_get_bind fun w here => ?_
  exact ends_ite (fun _ => prints ts w here) fun _ => prints_pure _

theorem calling_prints (source name : String) : Prints P (calling source name) :=
  verbose_prints unlogged fun _ _ _ => prints_bind (appendPrefix_prints unlogged _ _ _ _) fun _ =>
    append_prints unlogged _

theorem announcing_prints (source name : String) (arguments : List Item) :
    Prints P (announcing source name arguments) :=
  prints_bind (now_prints unlogged) fun _ =>
    prints_bind (appendPrefix_prints unlogged _ _ _ _) fun _ => append_prints unlogged _

theorem returning_prints (source name : String) (result : List Item) :
    Prints P (returning source name result) :=
  verbose_prints unlogged fun _ _ _ => prints_bind (appendPrefix_prints unlogged _ _ _ _) fun _ =>
    append_prints unlogged _

theorem throwing_prints (source name : String) (e : JavaException) :
    Prints P (throwing source name e) :=
  prints_bind (now_prints unlogged) fun _ =>
    prints_bind (appendPrefix_prints unlogged _ _ _ _) fun _ => append_prints unlogged _

theorem afterFlush_prints : Prints P LogWriter.afterFlush :=
  verbose_prints unlogged fun _ _ _ => prints_bind (appendPrefix_prints unlogged _ _ _ _) fun _ =>
    append_prints unlogged _

theorem appendByte_prints (b : UInt8) : Prints P (LogWriter.appendByte b) :=
  prints_bind prints_get fun _ => append_prints unlogged _

theorem appendBytes_prints (bytes : List UInt8) : Prints P (LogWriter.appendBytes bytes) := by
  induction bytes with
  | nil => exact prints_pure _
  | cons b bytes ih => exact prints_bind (appendByte_prints unlogged b) fun _ => ih

/-- The elements from `off` to `off + n` are there. -/
def InBounds (b : Option (List UInt8)) (off n : ℤ) : Prop :=
  ∃ bytes, b = some bytes ∧ 0 ≤ off ∧ off + n ≤ bytes.length

omit unlogged in
theorem element_inside {bytes : List UInt8} {i : ℤ} (low : 0 ≤ i) (high : i < bytes.length) :
    ∃ byte, LogWriter.element (some bytes) i = pure byte := by
  have inside : i.toNat < bytes.length := by omega
  refine ⟨bytes[i.toNat], ?_⟩
  simp only [LogWriter.element, if_neg (not_lt.mpr low), List.getElem?_eq_getElem inside]

theorem appendElements_prints {b : Option (List UInt8)} {off : ℤ} {n : ℕ}
    (inside : n = 0 ∨ InBounds b off n) :
    Prints P (LogWriter.appendElements b off n) := by
  induction n generalizing off with
  | zero => exact prints_pure _
  | succ n ih =>
      obtain ⟨bytes, rfl, low, high⟩ := inside.resolve_left (Nat.succ_ne_zero n)
      obtain ⟨byte, found⟩ := element_inside low (show off < bytes.length by omega)
      rw [LogWriter.appendElements, found]
      refine prints_bind (prints_pure _) fun byte =>
        prints_bind (appendByte_prints unlogged byte) fun _ => ?_
      exact ih (.inr ⟨bytes, rfl, by omega, by omega⟩)

omit unlogged in
/-- A count that is not positive makes no element be looked at. -/
theorem toNat_inside {b : Option (List UInt8)} {off n : ℤ} (inside : n ≤ 0 ∨ InBounds b off n) :
    n.toNat = 0 ∨ InBounds b off n.toNat := by
  rcases inside with none | ⟨bytes, same, low, high⟩
  · exact .inl (Int.toNat_of_nonpos none)
  · rcases Nat.eq_zero_or_pos n.toNat with none | some
    · exact .inl none
    · exact .inr ⟨bytes, same, low, by omega⟩

theorem appendDuration_prints {start : Option Instant}
    (started : start.isSome = true) (ts : Instant) (short long tail : List Item) :
    Prints P (LogWriter.appendDuration start ts short long tail) := by
  obtain ⟨t, rfl⟩ := Option.isSome_iff_exists.mp started
  refine prints_bind prints_get fun w => ends_ite (fun _ => ?_) fun _ => append_prints unlogged _
  refine prints_bind (prints_pure _) fun d => ?_
  exact ends_ite (fun _ => append_prints unlogged _) fun _ => append_prints unlogged _

end Writer

section Lines

/-- The start of the call has been noted. -/
abbrev Started (start : LogWriter → Option Instant) (w : LogWriter) : Prop :=
  (start w).isSome = true

theorem trivial_unlogged : Unlogged fun _ => True := fun _ _ _ _ => trivial

theorem isRead_unlogged : Unlogged (Started LogWriter.isReadStartTS) := fun _ _ _ started => started

theorem channelRead_unlogged : Unlogged (Started LogWriter.channelReadStartTS) :=
  fun _ _ _ started => started

theorem osWrite_unlogged : Unlogged (Started LogWriter.osWriteStartTS) :=
  fun _ _ _ started => started

theorem channelWrite_unlogged : Unlogged (Started LogWriter.channelWriteStartTS) :=
  fun _ _ _ started => started

theorem beforeIsRead_ends :
    Ends (fun _ => True) LogWriter.beforeIsRead fun _ => Started LogWriter.isReadStartTS := by
  refine ends_bind (now_prints trivial_unlogged) fun ts => ?_
  refine ends_bind (ends_modify (Q := fun _ => Started LogWriter.isReadStartTS)
    fun _ _ => rfl) fun _ => ?_
  refine prints_get_bind fun w _ => ends_ite (fun _ => ?_) fun _ => prints_pure _
  exact prints_bind (appendPrefix_prints isRead_unlogged _ _ _ _) fun _ =>
    append_prints isRead_unlogged _

theorem beforeChannelRead_ends :
    Ends (fun _ => True) LogWriter.beforeChannelRead fun _ =>
      Started LogWriter.channelReadStartTS := by
  refine ends_bind (now_prints trivial_unlogged) fun ts => ?_
  refine ends_bind (ends_modify (Q := fun _ => Started LogWriter.channelReadStartTS)
    fun _ _ => rfl) fun _ => ?_
  refine prints_get_bind fun w _ => ends_ite (fun _ => ?_) fun _ => prints_pure _
  exact prints_bind (appendPrefix_prints channelRead_unlogged _ _ _ _) fun _ =>
    append_prints channelRead_unlogged _

theorem afterIsRead_prints {bytes : Writing Unit}
    (prints : Prints (Started LogWriter.isReadStartTS) bytes) :
    Prints (Started LogWriter.isReadStartTS) (LogWriter.afterIsRead bytes) := by
  have unlogged := isRead_unlogged
  refine prints_bind (now_prints unlogged) fun ts =>
    prints_bind (appendPrefix_prints unlogged _ _ _ _) fun _ => ?_
  refine prints_bind prints fun _ => prints_get_bind fun w started => ?_
  exact prints_bind (appendDuration_prints unlogged started ts _ _ _) fun _ =>
    append_prints unlogged _

theorem afterIsReadByte_prints (b : ℤ) :
    Prints (Started LogWriter.isReadStartTS) (LogWriter.afterIsReadByte b) :=
  afterIsRead_prints (ends_ite (fun _ => appendByte_prints isRead_unlogged _)
    fun _ => prints_pure _)

theorem afterIsReadArray_prints {readLength off : ℤ} {b : Option (List UInt8)}
    (inside : readLength ≤ 0 ∨ InBounds b off readLength) :
    Prints (Started LogWriter.isReadStartTS) (LogWriter.afterIsReadArray readLength b off) :=
  afterIsRead_prints (appendElements_prints isRead_unlogged (toNat_inside inside))

/-- A thrown exception is printed between the beginning of a line and its duration. -/
theorem thrown_prints {start : LogWriter → Option Instant}
    (unlogged : Unlogged (Started start)) (ts : Instant) (source name : String)
    (items trace short long tail : List Item) :
    Prints (Started start) (do
      appendPrefix ts source LogWriter.ACION_RETURN name
      append items
      let w ← get
      LogWriter.appendDuration (start w) ts short long tail
      append trace) := by
  refine prints_bind (appendPrefix_prints unlogged _ _ _ _) fun _ =>
    prints_bind (append_prints unlogged _) fun _ => ?_
  refine prints_get_bind fun w started => ?_
  exact prints_bind (appendDuration_prints unlogged started ts _ _ _) fun _ =>
    append_prints unlogged _

theorem afterIsReadThrown_prints (e : JavaException) :
    Prints (Started LogWriter.isReadStartTS) (LogWriter.afterIsReadThrown e) :=
  prints_bind (now_prints isRead_unlogged) fun _ => thrown_prints isRead_unlogged _ _ _ _ _ _ _ _

theorem afterChannelRead_prints (buffer : ByteBuffer) (position : ℕ) :
    Prints (Started LogWriter.channelReadStartTS) (LogWriter.afterChannelRead buffer position) := by
  have unlogged := channelRead_unlogged
  refine prints_bind (now_prints unlogged) fun ts =>
    prints_bind (appendPrefix_prints unlogged _ _ _ _) fun _ => ?_
  refine prints_bind (appendBytes_prints unlogged _) fun _ => prints_get_bind fun w started => ?_
  exact prints_bind (appendDuration_prints unlogged started ts _ _ _) fun _ =>
    append_prints unlogged _

theorem afterChannelReadThrown_prints (buff : ByteBuffer) (e : JavaException) :
    Prints (Started LogWriter.channelReadStartTS) (LogWriter.afterChannelReadThrown buff e) :=
  prints_bind (now_prints channelRead_unlogged) fun _ =>
    thrown_prints channelRead_unlogged _ _ _ _ _ _ _ _

theorem beforeOsWrite_ends {bytes : Writing Unit}
    (prints : Prints (Started LogWriter.osWriteStartTS) bytes) :
    Ends (fun _ => True) (LogWriter.beforeOsWrite bytes) fun _ =>
      Started LogWriter.osWriteStartTS := by
  refine ends_bind (now_prints trivial_unlogged) fun ts => ?_
  refine ends_bind (appendPrefix_prints trivial_unlogged _ _ _ _) fun _ => ?_
  refine ends_bind (ends_modify (Q := fun _ => Started LogWriter.osWriteStartTS)
    fun _ _ => rfl) fun _ => ?_
  exact prints_bind prints fun _ => append_prints osWrite_unlogged _

theorem beforeChannelWrite_ends (buffer : ByteBuffer) :
    Ends (fun _ => True) (LogWriter.beforeChannelWrite buffer) fun _ =>
      Started LogWriter.channelWriteStartTS := by
  refine ends_bind (now_prints trivial_unlogged) fun ts => ?_
  refine ends_bind (appendPrefix_prints trivial_unlogged _ _ _ _) fun _ => ?_
  refine ends_bind (ends_modify (Q := fun _ => Started LogWriter.channelWriteStartTS)
    fun _ _ => rfl) fun _ => ?_
  exact prints_bind (appendBytes_prints channelWrite_unlogged _) fun _ =>
    append_prints channelWrite_unlogged _

theorem afterOsWrite_prints : Prints (Started LogWriter.osWriteStartTS) LogWriter.afterOsWrite := by
  have unlogged := osWrite_unlogged
  refine verbose_prints unlogged fun ts w started =>
    prints_bind (appendPrefix_prints unlogged _ _ _ _) fun _ => ?_
  exact prints_bind (appendDuration_prints unlogged started ts _ _ _) fun _ =>
    append_prints unlogged _

theorem afterOsWriteThrown_prints (e : JavaException) :
    Prints (Started LogWriter.osWriteStartTS) (LogWriter.afterOsWriteThrown e) := by
  have unlogged := osWrite_unlogged
  refine verbose_prints unlogged fun ts w started =>
    prints_bind (appendPrefix_prints unlogged _ _ _ _) fun _ => ?_
  refine prints_bind (append_prints unlogged _) fun _ => ?_
  exact prints_bind (appendDuration_prints unlogged started ts _ _ _) fun _ =>
    append_prints unlogged _

theorem afterChannelWrite_prints :
    Prints (Started LogWriter.channelWriteStartTS) LogWriter.afterChannelWrite := by
  have unlogged := channelWrite_unlogged
  refine verbose_prints unlogged fun ts w started =>
    prints_bind (appendPrefix_prints unlogged _ _ _ _) fun _ => ?_
  exact prints_bind (appendDuration_prints unlogged started ts _ _ _) fun _ =>
    append_prints unlogged _

theorem afterChannelWriteThrown_prints (buff : ByteBuffer) (e : JavaException) :
    Prints (Started LogWriter.channelWriteStartTS) (LogWriter.afterChannelWriteThrown buff e) := by
  have unlogged := channelWrite_unlogged
  refine verbose_prints unlogged fun ts w started =>
    prints_bind (appendPrefix_prints unlogged _ _ _ _) fun _ => ?_
  refine prints_bind (append_prints unlogged _) fun _ => ?_
  exact prints_bind (appendDuration_prints unlogged started ts _ _ _) fun _ =>
    append_prints unlogged _

end Lines

section Forwarding
variable {D : Type} (port : SerialPortSocket D)

/-- What the wrapped socket makes of an operation. -/
def answered (w : World D) (op : Operation) : Except JavaException op.Result × World D :=
  let c : Invocation := ⟨op, w.memory⟩
  let x := port.answer w.socket c
  (x.1.result, w.after c x)

/-- What caller and wrapped socket see of an outcome. -/
def seen {α : Type} : EStateM.Result JavaException (State D) α → Except JavaException α × World D
  | .ok a s => (.ok a, s.world)
  | .error e s => (.error e, s.world)

theorem seen_forward (op : Operation) (s : State D) :
    seen (forward port op s) = answered port s.world op := by
  simp only [forward, answered]
  split
  · next a same => rw [same]; rfl
  · next e same => rw [same]; rfl

/-- Whatever becomes of it, nothing outside changes. -/
def Inside {α : Type} (m : Wrapping D α) : Prop := ∀ s, (seen (m s)).2 = s.world

/-- The world is `w`, and the writer as `P` says. -/
def At (w : World D) (P : LogWriter → Prop) (s : State D) : Prop := s.world = w ∧ P s.writer

theorem bind_inside {α β : Type} {m : Wrapping D α} {f : α → Wrapping D β} (first : Inside m)
    (rest : ∀ a, Inside (f a)) :
    Inside (m >>= f) := by
  intro s
  have kept := first s
  cases result : m s with
  | ok a s' =>
      rw [result] at kept
      rw [bind_of_ok result, rest a s']
      exact kept
  | error e s' =>
      rw [result] at kept
      rw [bind_of_error result]
      exact kept

theorem log_inside {α : Type} (m : Writing α) : Inside (log m : Wrapping D α) := by
  intro s
  simp only [log]
  split <;> rfl

theorem log_ends {w : World D} {P Q : LogWriter → Prop} {m : Writing Unit}
    (ends : Ends P m fun _ => Q) :
    Ends (At w P) (log m) fun _ => At w Q := by
  rintro s ⟨rfl, here⟩
  obtain ⟨a, writer, ok, after⟩ := ends s.writer here
  refine ⟨(), { s with writer }, ?_, rfl, after⟩
  simp only [log, ok]

section Logged
variable {port} {op : Operation} {before : Wrapping D Unit} {after : op.Result → Wrapping D Unit}
  {failed : JavaException → Wrapping D Unit} {w : World D} {P : LogWriter → Prop} {s : State D}

/-- The two ways the call can end. -/
theorem forward_cases (port : SerialPortSocket D) (op : Operation) (s : State D) :
    (∃ a s', forward port op s = .ok a s' ∧ (answered port s.world op).1 = .ok a ∧
      s'.world = (answered port s.world op).2 ∧ s'.writer = s.writer) ∨
    ∃ e s', forward port op s = .error e s' ∧ (answered port s.world op).1 = .error e ∧
      s'.world = (answered port s.world op).2 ∧ s'.writer = s.writer := by
  simp only [forward, answered]
  split
  · next a same => exact .inl ⟨a, _, rfl, same, rfl, rfl⟩
  · next e same => exact .inr ⟨e, _, rfl, same, rfl, rfl⟩

theorem logged_seen (first : Ends (At w fun _ => True) before fun _ => At w P)
    (returned : ∀ a, (answered port w op).1 = .ok a →
      Ends (At (answered port w op).2 P) (after a) fun _ => At (answered port w op).2 fun _ => True)
    (thrown : ∀ e, (answered port w op).1 = .error e →
      Ends (At (answered port w op).2 P) (failed e) fun _ =>
        At (answered port w op).2 fun _ => True) (here : s.world = w) :
        seen (logged before (forward port op) after failed s) = answered port w op := by
  obtain ⟨_, s₁, ok, world, started⟩ := first s ⟨here, trivial⟩
  rw [logged, bind_of_ok ok]
  rcases forward_cases port op s₁ with ⟨a, s₂, forwarded, result, same, writer⟩ | ⟨e, s₂,
    forwarded, result, same, writer⟩
  · rw [world] at result same
    obtain ⟨_, s₃, printed, world', -⟩ := returned a result s₂ ⟨same, writer ▸ started⟩
    have body : (do
        let result ← forward port op
        after result
        pure result : Wrapping D op.Result) s₁ = .ok a s₃ :=
      (bind_of_ok forwarded).trans (bind_of_ok printed)
    rw [tryCatch_of_ok body]
    exact Prod.ext result.symm world'
  · rw [world] at result same
    have body : (do
        let result ← forward port op
        after result
        pure result : Wrapping D op.Result) s₁ = .error e s₂ :=
      bind_of_error forwarded
    rw [tryCatch_of_error body]
    split
    · obtain ⟨_, s₃, printed, world', -⟩ := thrown e result s₂ ⟨same, writer ▸ started⟩
      rw [bind_of_ok printed]
      exact Prod.ext result.symm world'
    · exact Prod.ext result.symm same

/-- What is printed before and after does not depend on an earlier call. -/
theorem printing_seen {before : Writing Unit} {after : op.Result → Writing Unit}
    {failed : JavaException → Writing Unit} (first : Prints (fun _ => True) before)
    (returned : ∀ a, Prints (fun _ => True) (after a))
    (thrown : ∀ e, Prints (fun _ => True) (failed e)) (s : State D) :
    seen (logged (log before) (forward port op) (fun a => log (after a))
      (fun e => log (failed e)) s) =
      answered port s.world op :=
  logged_seen (log_ends first) (fun a _ => log_ends (returned a)) (fun e _ =>
    log_ends (thrown e)) rfl

theorem getting_seen {source before name : String} {item : op.Result → Item} (s : State D) :
    seen (getting source before name item (forward port op) s) = answered port s.world op :=
  printing_seen (calling_prints trivial_unlogged _ _) (fun _ =>
    returning_prints trivial_unlogged _ _ _) (fun _ => throwing_prints trivial_unlogged _ _ _) s

/-- As `changing`, whatever `op` returns. -/
theorem changing_seen {source announced returned failed : String}
    {arguments : List Item} (s : State D) :
    seen (logged (log (announcing source announced arguments)) (forward port op)
      (fun _ => log (returning source returned [])) (fun e => log (throwing source failed e)) s) =
        answered port s.world op :=
  printing_seen (announcing_prints trivial_unlogged _ _ _) (fun _ =>
    returning_prints trivial_unlogged _ _ _) (fun _ => throwing_prints trivial_unlogged _ _ _) s

end Logged

/-- The wrapper comes as far as the wrapped socket. -/
def Forwardable : Operation → Memory → Prop
  | .read, memory => memory.buffer.isSome = true
  | .write, memory => memory.buffer.isSome = true
  | .osWriteArray _, memory => memory.array.isSome = true
  | .osWriteRange _ off len, memory => len ≤ 0 ∨ InBounds memory.array off len
  | .isInherited _ _, _ => False
  | _, _ => True

/-- Nothing in the answer makes the wrapper stand out. -/
def Unremarkable : (op : Operation) → Memory → Except JavaException op.Result → Prop
  | .sendXOFF, _, .ok _ => False
  | .isReadArray _, memory, .ok n => n ≤ 0 ∨ InBounds memory.array 0 n
  | .isReadRange _ off _, memory, .ok n => n ≤ 0 ∨ InBounds memory.array off n
  | _, _, _ => True

variable {port} {s : State D} {w : World D} {op : Operation} {P : LogWriter → Prop}

theorem dereferenced_ends (given : w.memory.buffer.isSome = true) :
    Ends (At w P) dereferenced fun _ => At w P := by
  rintro s ⟨rfl, here⟩
  obtain ⟨buffer, same⟩ := Option.isSome_iff_exists.mp given
  refine ⟨buffer, s, ?_, rfl, here⟩
  refine get_bind.trans ?_
  rw [same]
  rfl

theorem dereferenced_inside : Inside (dereferenced : Wrapping D ByteBuffer) := by
  intro s
  rw [dereferenced, get_bind]
  cases s.world.memory.buffer <;> rfl

theorem array_ends : Ends (At w P) array fun b s => At w P s ∧ b = w.memory.array := by
  rintro s ⟨rfl, here⟩
  exact ⟨_, s, rfl, ⟨rfl, here⟩, rfl⟩

theorem buffer_kept (given : w.memory.buffer.isSome = true) :
    (answered port w op).2.memory.buffer.isSome = true :=
  (port.answer w.socket ⟨op, w.memory⟩).1.isSome_eq.trans given

/-- Only the length of the array counts. -/
theorem InBounds.of_length {b b' : Option (List UInt8)} {off n : ℤ} (inside : InBounds b off n)
    (same : b'.map List.length = b.map List.length) : InBounds b' off n := by
  obtain ⟨bytes, rfl, low, high⟩ := inside
  rw [Option.map_some, Option.map_eq_some_iff] at same
  obtain ⟨bytes', rfl, length⟩ := same
  exact ⟨bytes', rfl, low, length ▸ high⟩

/-- The length of the array is kept. -/
theorem inBounds_kept {off n : ℤ} :
    InBounds (answered port w op).2.memory.array off n ↔ InBounds w.memory.array off n := by
  have kept := (port.answer w.socket ⟨op, w.memory⟩).1.length_eq
  exact ⟨fun inside => inside.of_length kept.symm, fun inside => inside.of_length kept⟩

theorem dereferenced_bind {α : Type} (given : s.world.memory.buffer.isSome = true)
    {f : ByteBuffer → Wrapping D α} :
    ∃ buffer, (dereferenced >>= f) s = f buffer s := by
  obtain ⟨buffer, same⟩ := Option.isSome_iff_exists.mp given
  refine ⟨buffer, bind_of_ok (get_bind.trans ?_)⟩
  rw [same]
  rfl

theorem read_seen (given : s.world.memory.buffer.isSome = true) :
    seen (read port s) = answered port s.world .read := by
  obtain ⟨dst, found⟩ := dereferenced_bind given (f := fun dst =>
    logged (log LogWriter.beforeChannelRead) (forward port .read)
      (fun _ => dereferenced >>= fun dst' => log (LogWriter.afterChannelRead dst' dst.position))
      (fun e => dereferenced >>= fun dst' => log (LogWriter.afterChannelReadThrown dst' e)))
  refine (congrArg seen found).trans ?_
  refine logged_seen (log_ends beforeChannelRead_ends) (fun _ _ => ?_) (fun e _ => ?_) rfl
  · refine ends_bind (dereferenced_ends (buffer_kept given)) fun dst' => ?_
    exact (log_ends (afterChannelRead_prints dst' _)).weaken fun _ _ here => ⟨here.1, trivial⟩
  · refine ends_bind (dereferenced_ends (buffer_kept given)) fun dst' => ?_
    exact (log_ends (afterChannelReadThrown_prints dst' e)).weaken fun _ _ here => ⟨here.1, trivial⟩

theorem write_seen (given : s.world.memory.buffer.isSome = true) :
    seen (write port s) = answered port s.world .write := by
  refine logged_seen (P := Started LogWriter.channelWriteStartTS) ?_
    (fun _ _ => ?_) (fun e _ => ?_) rfl
  · exact ends_bind (dereferenced_ends given) fun src => log_ends (beforeChannelWrite_ends src)
  · exact (log_ends afterChannelWrite_prints).weaken fun _ _ here => ⟨here.1, trivial⟩
  · refine ends_bind (dereferenced_ends (buffer_kept given)) fun src => ?_
    exact (log_ends (afterChannelWriteThrown_prints src e)).weaken fun _ _ here => ⟨here.1, trivial⟩

section Streams
variable {is os : Stream}

/-- The end of a read that printed what `after` says. -/
theorem isRead_seen {after : op.Result → Wrapping D Unit}
    (returned : ∀ a, (answered port s.world op).1 = .ok a →
      Ends (At (answered port s.world op).2 (Started LogWriter.isReadStartTS)) (after a)
        fun _ => At (answered port s.world op).2 (Started LogWriter.isReadStartTS)) :
    seen (logged (log LogWriter.beforeIsRead) (forward port op) after (fun e =>
      log (LogWriter.afterIsReadThrown e)) s) =
      answered port s.world op := by
  refine logged_seen (log_ends beforeIsRead_ends) (fun a result => ?_) (fun e _ => ?_) rfl
  · exact (returned a result).weaken fun _ _ here => ⟨here.1, trivial⟩
  · exact (log_ends (afterIsReadThrown_prints e)).weaken fun _ _ here => ⟨here.1, trivial⟩

/-- What a read has stored is printed, if it can be found. -/
theorem isReadArray_ends {off n : ℤ} (inside : n ≤ 0 ∨ InBounds w.memory.array off n) :
    Ends (At w (Started LogWriter.isReadStartTS)) (array >>= fun b =>
      log (LogWriter.afterIsReadArray n b off)) fun _ =>
      At w (Started LogWriter.isReadStartTS) := by
  refine ends_bind array_ends fun b => ?_
  rintro s ⟨here, rfl⟩
  exact log_ends (afterIsReadArray_prints inside) s here

/-- The three writes of an output stream. -/
theorem osWrite_seen {before : Wrapping D Unit}
    (first : Ends (At s.world fun _ => True) before fun _ =>
    At s.world (Started LogWriter.osWriteStartTS)) :
    seen (logged before (forward port op) (fun _ => log LogWriter.afterOsWrite)
      (fun e => log (LogWriter.afterOsWriteThrown e)) s) = answered port s.world op := by
  refine logged_seen first (fun _ _ => ?_) (fun e _ => ?_) rfl
  · exact (log_ends afterOsWrite_prints).weaken fun _ _ here => ⟨here.1, trivial⟩
  · exact (log_ends (afterOsWriteThrown_prints e)).weaken fun _ _ here => ⟨here.1, trivial⟩

theorem osWriteArray_ends (given : w.memory.array.isSome = true) :
    Ends (At w fun _ => True) (array >>= fun b => log (LogWriter.beforeOsWriteArray b))
      fun _ => At w (Started LogWriter.osWriteStartTS) := by
  obtain ⟨bytes, same⟩ := Option.isSome_iff_exists.mp given
  refine ends_bind array_ends fun b => ?_
  rintro s ⟨here, rfl⟩
  rw [same]
  exact log_ends (beforeOsWrite_ends (appendBytes_prints osWrite_unlogged bytes)) s here

theorem osWriteRange_ends {off len : ℤ} (inside : len ≤ 0 ∨ InBounds w.memory.array off len) :
    Ends (At w fun _ => True) (array >>= fun b => log (LogWriter.beforeOsWriteRange b off len))
      fun _ => At w (Started LogWriter.osWriteStartTS) := by
  refine ends_bind array_ends fun b => ?_
  rintro s ⟨here, rfl⟩
  exact log_ends (beforeOsWrite_ends
    (appendElements_prints osWrite_unlogged (toNat_inside inside))) s here

end Streams

theorem wrapped_eq (wrapper stream : Option Stream) : wrapped wrapper stream = stream := by
  cases wrapper <;> cases stream <;> simp [wrapped, eq_comm]

/-- What is done with the result shows neither in it nor outside. -/
theorem forward_bind_seen {f : op.Result → Wrapping D op.Result}
    (same : ∀ a s, seen (f a s) = (.ok a, s.world)) :
    seen ((forward port op >>= f) s) = answered port s.world op := by
  rcases forward_cases port op s with ⟨a, s', forwarded, result, world, -⟩ |
    ⟨e, s', forwarded, result, world, -⟩
  · rw [bind_of_ok forwarded, same]
    exact Prod.ext result.symm world
  · rw [bind_of_error forwarded]
    exact Prod.ext result.symm world

/-- An exception of `sendXOFF` ends the call before it is handed on once more. -/
theorem sendXOFF_seen {e : JavaException}
    (thrown : (answered port s.world .sendXOFF).1 = .error e) :
    seen (sendXOFF port s) = answered port s.world .sendXOFF := by
  have once : seen (changing "SP" " sendXOFF" [] " sendXOFF" " sendXOFF:\t"
    (forward port .sendXOFF) s) =
      answered port s.world .sendXOFF := changing_seen s
  rw [sendXOFF]
  cases result : changing "SP" " sendXOFF" [] " sendXOFF" " sendXOFF:\t"
      (forward port .sendXOFF) s with
  | ok a s' =>
      rw [result] at once
      rw [← once] at thrown
      cases thrown
  | error e s' =>
      rw [result] at once
      rw [bind_of_error result]
      exact once

/-- The wrapper hands an operation on, and hands back what it is answered. -/
theorem perform_seen (library : Library) (op : Operation)
    (forwardable : Forwardable op s.world.memory)
    (unremarkable : Unremarkable op s.world.memory (answered port s.world op).1) :
    seen (perform port library op s) = answered port s.world op := by
  cases op with
  | read => exact read_seen forwardable
  | write => exact write_seen forwardable
  | sendXOFF =>
      cases result : (answered port s.world .sendXOFF).1 with
      | ok => rw [result] at unremarkable; exact unremarkable.elim
      | error e => exact sendXOFF_seen result
  | getPortName => exact seen_forward port _ s
  | isOpen => exact seen_forward port _ s
  | getInputStream => exact forward_bind_seen fun a s => congrArg (fun x =>
      (Except.ok x, s.world)) (wrapped_eq s.lis a)
  | getOutputStream => exact forward_bind_seen fun a s => congrArg (fun x =>
      (Except.ok x, s.world)) (wrapped_eq s.los a)
  | close => exact changing_seen { s with lis := none, los := none }
  | isRead is => exact isRead_seen fun a _ => log_ends (afterIsReadByte_prints a)
  | isReadArray is =>
      refine isRead_seen fun n result => isReadArray_ends ?_
      rw [result] at unremarkable
      exact unremarkable.imp_right inBounds_kept.mpr
  | isReadRange is off len =>
      refine isRead_seen fun n result => isReadArray_ends ?_
      rw [result] at unremarkable
      exact unremarkable.imp_right inBounds_kept.mpr
  | isInherited is method => exact forwardable.elim
  | osFlush os =>
      exact printing_seen (calling_prints trivial_unlogged _ _) (fun _ =>
        afterFlush_prints trivial_unlogged) (fun _ => throwing_prints trivial_unlogged _ _ _) s
  | osWrite os b =>
      exact osWrite_seen (log_ends (beforeOsWrite_ends (appendByte_prints osWrite_unlogged _)))
  | osWriteArray os => exact osWrite_seen (osWriteArray_ends forwardable)
  | osWriteRange os off len => exact osWrite_seen (osWriteRange_ends forwardable)
  | drainOutputBuffer | getParity =>
      exact printing_seen (calling_prints trivial_unlogged _ _) (fun _ =>
        returning_prints trivial_unlogged _ _ _) (fun _ => throwing_prints trivial_unlogged _ _ _) s
  | _ => first | exact getting_seen s | exact changing_seen s

end Forwarding
end Spsw.Logging

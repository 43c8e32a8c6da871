import Spsw.Jnhw.InputStream

/-!
# Sessions of reads

Any mix of `read()`, `read(byte[])` and `read(byte[], int, int)` on one input
stream, one call after the other. Each call keeps its own system calls, so that
what the calls deliver can be compared with what the descriptor handed out.
-/
namespace Spsw.Jnhw
open Interaction

inductive ReadCall where
  | single
  | array (b : List UInt8)
  | range (b : List UInt8) (off len : ℤ)

namespace ReadCall

/-- The array, offset and length a call works on; `read()` has none. -/
def target : ReadCall → List UInt8 × ℤ × ℤ
  | .single => ([], 0, 0)
  | .array b => (b, 0, b.length)
  | .range b off len => (b, off, len)

def InBounds (call : ReadCall) : Prop :=
  0 ≤ call.target.2.1 ∧ 0 ≤ call.target.2.2 ∧
    call.target.2.1 + call.target.2.2 ≤ call.target.1.length

/-- The method behind a call: the result, and the array as the call leaves it. -/
def body (s : Socket) : ReadCall → Call (ℤ × List UInt8)
  | .single => do
      let n ← readSingle s
      pure (n, [])
  | .array b => readArray s b
  | .range b off len => readRange s b off len

/-- The size of the buffer a call needs from the stream. -/
def size : ReadCall → ℕ
  | .single => 0
  | .array b => b.length
  | .range _ _ len => len.toNat

end ReadCall

/-- A call that is over. -/
structure Performed where
  call : ReadCall
  history : History posix
  outcome : Except JavaException (ℤ × List UInt8)

namespace Performed

/-- The bytes the caller gets: the value of `read()`, or the part of the array
that the returned count names. -/
def delivered (d : Performed) : List UInt8 :=
  match d.outcome with
  | .error _ => []
  | .ok (n, b') =>
      match d.call with
      | .single => if n = -1 then [] else [UInt8.ofNat n.toNat]
      | .array _ => b'.take n.toNat
      | .range _ off _ => (b'.drop off.toNat).take n.toNat

/-- A call that times out has consumed nothing. -/
def TimesOutEmpty (d : Performed) : Prop :=
  ∀ e, d.outcome = .error e → e.isTimeout = true → received d.history = []

/-- Only the `n` places from the offset on have changed. -/
def ChangesOnly (d : Performed) : Prop :=
  ∀ n b', d.outcome = .ok (n, b') → d.call ≠ .single → 0 ≤ n →
    b'.length = d.call.target.1.length ∧
      ∀ i : ℕ, (i : ℤ) < d.call.target.2.1 ∨ d.call.target.2.1 + n ≤ i →
        b'[i]? = d.call.target.1[i]?

/-- `read()` returns a byte as a value of 0..255, if it returns one. -/
def ByteValued (d : Performed) : Prop :=
  ∀ n b', d.outcome = .ok (n, b') → d.call = .single → n = -1 ∨ 0 ≤ n ∧ n ≤ 255

end Performed

/-- `Session s BUFFER_SIZE readBuffer ds readBuffer'`: the calls `ds` were made in
this order, each on the stream's own buffer, as the last call left it, or on a
fresh one. -/
inductive Session (s : Socket) (BUFFER_SIZE : ℕ) :
    ByteBuffer → List Performed → ByteBuffer → Prop
  | nil (readBuffer : ByteBuffer) : Session s BUFFER_SIZE readBuffer [] readBuffer
  /-- The overridden `read()` needs no buffer. -/
  | single {readBuffer last : ByteBuffer} {d : Performed} {f : Frame} {ds : List Performed}
      (bufferless : d.call = .single)
      (run : Program.Returns (d.call.body s ⟨ByteBuffer.wrap [], false⟩) d.history (d.outcome, f))
      (rest : Session s BUFFER_SIZE readBuffer ds last) :
      Session s BUFFER_SIZE readBuffer (d :: ds) last
  | shared {readBuffer last : ByteBuffer} {d : Performed} {f : Frame} {ds : List Performed}
      (buffered : d.call ≠ .single) (fits : d.call.size ≤ BUFFER_SIZE)
      (run : Program.Returns (d.call.body s ⟨readBuffer, false⟩) d.history (d.outcome, f))
      (rest : Session s BUFFER_SIZE f.buffer ds last) :
      Session s BUFFER_SIZE readBuffer (d :: ds) last
  /-- The buffer is too small, or `tryLock` has failed. -/
  | fresh {readBuffer last : ByteBuffer} {d : Performed} {f : Frame} {ds : List Performed}
      (buffered : d.call ≠ .single)
      (run : Program.Returns (d.call.body s ⟨ByteBuffer.allocateDirect d.call.size, false⟩)
        d.history (d.outcome, f))
      (rest : Session s BUFFER_SIZE readBuffer ds last) :
      Session s BUFFER_SIZE readBuffer (d :: ds) last

/-- What a session is to guarantee. -/
def Lossless (ds : List Performed) : Prop :=
  ds.flatMap Performed.delivered = ds.flatMap (fun d => received d.history) ∧
    ∀ d ∈ ds, d.TimesOutEmpty ∧ d.ChangesOnly ∧ d.ByteValued

section Specs
variable {s : Socket} {BUFFER_SIZE : ℕ}

theorem store_length {b bytes : List UInt8} {off : ℕ} (room : off + bytes.length ≤ b.length) :
    (store b off bytes).length = b.length := by
  simp only [store, List.length_append, List.length_take, List.length_drop]
  omega

theorem store_slice {b bytes : List UInt8} {off : ℕ} (room : off + bytes.length ≤ b.length) :
    ((store b off bytes).drop off).take bytes.length = bytes := by
  have before : (b.take off).length = off := by
    rw [List.length_take]
    omega
  unfold store
  rw [List.append_assoc, List.drop_left' before, List.take_left]

theorem store_outside {b bytes : List UInt8} {off i : ℕ} (room : off + bytes.length ≤ b.length)
    (outside : i < off ∨ off + bytes.length ≤ i) : (store b off bytes)[i]? = b[i]? := by
  have before : (b.take off).length = off := by
    rw [List.length_take]
    omega
  unfold store
  rcases outside with left | right
  · rw [List.append_assoc, List.getElem?_append_left (by omega), List.getElem?_take_of_lt left]
  · rw [List.getElem?_append_right (by rw [List.length_append]; omega), List.getElem?_drop]
    congr 1
    rw [List.length_append]
    omega

/-- What each call of an undisturbed session owes. -/
structure Owes (d : Performed) : Prop where
  delivers : ∀ r, d.outcome = .ok r →
    d.delivered = received d.history ∧ (observed d.history).starved = false
  loses : ∀ e, d.outcome = .error e →
    received d.history = [] ∨ (observed d.history).starved = true ∧ e.isTimeout = false
  changesOnly : d.ChangesOnly
  byteValued : d.ByteValued

theorem single_owes {d : Performed} {f f' : Frame} (bufferless : d.call = .single)
    (run : Program.Returns (d.call.body s f) d.history (d.outcome, f'))
    (calm : (observed d.history).undisturbed = true) : Owes d := by
  obtain ⟨call, history, outcome⟩ := d
  subst bufferless
  have spec : Method.mwp (fun _ => True) [] f (ReadCall.single.body s) (fun h _ x =>
      ReadOne (observed h) (x.map Prod.fst)) := by
    simp only [ReadCall.body, Method.mwp_bind]
    apply Method.mwp_mono readSingle_spec
    rintro h f (e | n) one
    · exact one
    · refine Method.rest_ok.mpr (Method.mwp_pure.mpr ?_)
      exact one
  obtain ⟨fed, returned, thrown⟩ := wp_returns spec run
  simp only at returned thrown calm
  refine ⟨?_, ?_, ?_, ?_⟩
  · rintro ⟨n, b'⟩ rfl
    refine ⟨?_, fed⟩
    rw [← observed_bytes]
    rcases returned calm n rfl with ⟨rfl, none⟩ | ⟨b, one, rfl⟩
    · simp [Performed.delivered, none]
    · have positive : (b.toNat : ℤ) ≠ -1 := by omega
      simp [Performed.delivered, one, positive]
  · rintro e rfl
    left
    rw [← observed_bytes]
    exact thrown calm e rfl
  · intro n b' _ buffered
    exact absurd rfl buffered
  · rintro n b' rfl -
    rcases returned calm n rfl with ⟨rfl, -⟩ | ⟨b, -, rfl⟩
    · exact .inl rfl
    · have := b.toNat_lt
      exact .inr ⟨by omega, by omega⟩

/-- A buffered call is `readInto` on its target. -/
theorem body_readInto {call : ReadCall} (buffered : call ≠ .single) (inBounds : call.InBounds) :
    call.body s = readInto s call.target.1 call.target.2.1.toNat call.target.2.2.toNat := by
  cases call with
  | single => exact absurd rfl buffered
  | array b => rfl
  | range b off len => exact readRange_inBounds ⟨inBounds.1, inBounds.2.1⟩ inBounds.2.2

theorem delivered_buffered {d : Performed} (buffered : d.call ≠ .single) {n : ℤ} {b' : List UInt8}
    (done : d.outcome = .ok (n, b')) :
    d.delivered = (b'.drop d.call.target.2.1.toNat).take n.toNat := by
  obtain ⟨call, history, outcome⟩ := d
  subst done
  cases call with
  | single => exact absurd rfl buffered
  | array b => rfl
  | range b off len => rfl

theorem buffered_owes {d : Performed} {buf : ByteBuffer} {f' : Frame} (buffered : d.call ≠ .single)
    (inBounds : d.call.InBounds) (large : d.call.size ≤ buf.capacity)
    (run : Program.Returns (d.call.body s ⟨buf, false⟩) d.history (d.outcome, f'))
    (calm : (observed d.history).undisturbed = true) :
    Owes d ∧ f'.buffer.capacity = buf.capacity := by
  have size : d.call.size = d.call.target.2.2.toNat := by
    cases call : d.call with
    | single => exact absurd call buffered
    | array b => rfl
    | range b off len => rfl
  obtain ⟨positive, positive', inside⟩ := inBounds
  rw [body_readInto buffered ⟨positive, positive', inside⟩] at run
  have room : d.call.target.2.1.toNat + d.call.target.2.2.toNat ≤ d.call.target.1.length := by omega
  obtain ⟨-, fits, returned, thrown, capacity⟩ :=
    wp_returns (readInto_spec (s := s) room (size ▸ large)) run
  simp only at returned thrown capacity
  rw [observed_bytes] at fits returned thrown
  refine ⟨⟨?_, ?_, ?_, ?_⟩, capacity⟩
  · rintro ⟨n, b'⟩ done
    obtain ⟨rfl, rfl, fed⟩ := returned calm n b' done
    refine ⟨?_, fed⟩
    rw [delivered_buffered buffered done, Int.toNat_natCast, store_slice (by omega)]
  · exact fun e failed => thrown calm e failed
  · intro n b' done _ _
    obtain ⟨rfl, rfl, -⟩ := returned calm n b' done
    refine ⟨store_length (by omega), fun i outside => store_outside (by omega) ?_⟩
    rcases outside with left | right
    · exact .inl (by omega)
    · exact .inr (by omega)
  · exact fun n b' _ single => absurd single buffered

/-- Every call of a session owes its part, and the shared buffer keeps its size. -/
theorem session_owes {readBuffer last : ByteBuffer} {ds : List Performed}
    (session : Session s BUFFER_SIZE readBuffer ds last)
    (capacity : readBuffer.capacity = BUFFER_SIZE) (inBounds : ∀ d ∈ ds, d.call.InBounds)
    (calm : ∀ d ∈ ds, (observed d.history).undisturbed = true) : ∀ d ∈ ds, Owes d := by
  induction session with
  | nil readBuffer => simp
  | @single readBuffer last d f ds bufferless run rest ih =>
      have here := single_owes bufferless run (calm d List.mem_cons_self)
      have later := ih capacity (fun d member => inBounds d (List.mem_cons_of_mem _ member))
        (fun d member => calm d (List.mem_cons_of_mem _ member))
      exact List.forall_mem_cons.mpr ⟨here, later⟩
  | @shared readBuffer last d f ds buffered fits run rest ih =>
      have here := buffered_owes buffered (inBounds d List.mem_cons_self) (capacity ▸ fits) run
        (calm d List.mem_cons_self)
      have later :=
        ih (here.2.trans capacity) (fun d member => inBounds d (List.mem_cons_of_mem _ member))
        (fun d member => calm d (List.mem_cons_of_mem _ member))
      exact List.forall_mem_cons.mpr ⟨here.1, later⟩
  | @fresh readBuffer last d f ds buffered run rest ih =>
      have large : d.call.size ≤ (ByteBuffer.allocateDirect d.call.size).capacity :=
        Nat.le_of_eq (ByteBuffer.capacity_allocateDirect _).symm
      have here := buffered_owes buffered (inBounds d List.mem_cons_self) large run
        (calm d List.mem_cons_self)
      have later := ih capacity (fun d member => inBounds d (List.mem_cons_of_mem _ member))
        (fun d member => calm d (List.mem_cons_of_mem _ member))
      exact List.forall_mem_cons.mpr ⟨here.1, later⟩

theorem flatMap_length_le {α β : Type} {f g : α → List β} {l : List α}
    (shorter : ∀ a ∈ l, (f a).length ≤ (g a).length) :
    (l.flatMap f).length ≤ (l.flatMap g).length := by
  induction l with
  | nil => simp
  | cons a l ih =>
      have first := shorter a List.mem_cons_self
      have later := ih (fun b member => shorter b (List.mem_cons_of_mem _ member))
      simp only [List.flatMap_cons, List.length_append]
      omega

/-- Pieces that are never longer than their counterparts, and as long in all, are
each as long. -/
theorem flatMap_length_eq {α β : Type} {f g : α → List β} {l : List α}
    (shorter : ∀ a ∈ l, (f a).length ≤ (g a).length) (same : l.flatMap f = l.flatMap g) :
    ∀ a ∈ l, (f a).length = (g a).length := by
  have lengths := congrArg List.length same
  clear same
  induction l with
  | nil => simp
  | cons a l ih =>
      have first := shorter a List.mem_cons_self
      have rest : ∀ b ∈ l, (f b).length ≤ (g b).length :=
        fun b member => shorter b (List.mem_cons_of_mem _ member)
      have later := flatMap_length_le rest
      simp only [List.flatMap_cons, List.length_append] at lengths
      exact List.forall_mem_cons.mpr ⟨by omega, ih rest (by omega)⟩

/-- A call that was not starved delivers what it has taken. -/
theorem Owes.exact {d : Performed} (owes : Owes d) (fed : (observed d.history).starved = false) :
    d.delivered = received d.history := by
  cases outcome : d.outcome with
  | ok r => exact (owes.delivers r outcome).1
  | error e =>
      rcases owes.loses e outcome with none | ⟨starved, -⟩
      · rw [none, Performed.delivered, outcome]
      · rw [fed] at starved
        cases starved

/-- A starved call delivers nothing of what it has taken. -/
theorem Owes.lost {d : Performed} (owes : Owes d) (starved : (observed d.history).starved = true) :
    d.delivered = [] ∧ received d.history ≠ [] := by
  refine ⟨?_, observed_bytes d.history ▸ starved_bytes starved⟩
  cases outcome : d.outcome with
  | ok r =>
      have fed := (owes.delivers r outcome).2
      rw [fed] at starved
      cases starved
  | error e => rw [Performed.delivered, outcome]

theorem Owes.shorter {d : Performed} (owes : Owes d) :
    d.delivered.length ≤ (received d.history).length := by
  cases starved : (observed d.history).starved with
  | true => simp [(owes.lost starved).1]
  | false => exact Nat.le_of_eq (congrArg List.length (owes.exact starved))

/-- A session without close, cancel, hang-up or device error passes on exactly
what the descriptor hands out if and only if no read is refused by `EAGAIN` after
its call has taken some bytes. -/
theorem session_lossless_iff {readBuffer last : ByteBuffer} {ds : List Performed}
    (session : Session s BUFFER_SIZE readBuffer ds last)
    (capacity : readBuffer.capacity = BUFFER_SIZE) (inBounds : ∀ d ∈ ds, d.call.InBounds)
    (calm : ∀ d ∈ ds, (observed d.history).undisturbed = true) :
    Lossless ds ↔ ∀ d ∈ ds, (observed d.history).starved = false := by
  have owes := session_owes session capacity inBounds calm
  constructor
  · rintro ⟨same, -⟩ d member
    by_contra starved
    obtain ⟨nothing, some⟩ := (owes d member).lost (by simpa using starved)
    have length := flatMap_length_eq (fun d member => (owes d member).shorter) same d member
    rw [nothing, List.length_nil] at length
    exact some (List.eq_nil_of_length_eq_zero length.symm)
  · intro fed
    refine ⟨?_, fun d member => ⟨?_, (owes d member).changesOnly, (owes d member).byteValued⟩⟩
    · exact List.flatMap_congr (fun d member => (owes d member).exact (fed d member))
    · intro e failed timeout
      rcases (owes d member).loses e failed with none | ⟨-, other⟩
      · exact none
      · rw [timeout] at other
        cases other

/-- Two bytes are read, the port is readable again, and the next read is refused. -/
def starvedCall : Performed :=
  ⟨.array [0, 0, 0, 0], [⟨.read 4, .ok ⟨[65, 66], by decide⟩⟩, ⟨.begin, ()⟩,
    ⟨.poll .read 100, .ok (.ready POLLIN 0)⟩, ⟨.read 2, .error .EAGAIN⟩, ⟨.fdIsInvalid, false⟩,
    ⟨.interrupted, false⟩], .error (.ioException "Readed 2 bytes.  Unknown Error: EAGAIN")⟩

/-- The two bytes are lost although nothing was disturbed. -/
theorem session_starved : ∃ last,
    Session (.new "ttyUSB0") 4 (ByteBuffer.allocateDirect 4) [starvedCall] last ∧
      (∀ d ∈ [starvedCall], d.call.InBounds ∧ (observed d.history).undisturbed = true) ∧
      ¬Lossless [starvedCall] := by
  have run : Program.Returns
      (starvedCall.call.body (.new "ttyUSB0") ⟨ByteBuffer.allocateDirect 4,
      false⟩) starvedCall.history (starvedCall.outcome, _) := Program.replay_sound 16 rfl
  refine ⟨_, .shared (by rintro ⟨⟩) (by decide) run (.nil _), ?_, ?_⟩
  · intro d member
    rw [List.mem_singleton.mp member]
    exact ⟨by unfold ReadCall.InBounds; decide, rfl⟩
  · rintro ⟨same, -⟩
    exact absurd same (by decide)

def servedCall : Performed :=
  ⟨.array [0, 0, 0, 0], [⟨.read 4, .ok ⟨[65, 66], by decide⟩⟩, ⟨.begin, ()⟩,
    ⟨.poll .read 100, .ok .timeout⟩, ⟨.interrupted, false⟩], .ok (2, [65, 66, 0, 0])⟩

theorem session_lossless_iff_served : Lossless [servedCall] ↔
    ∀ d ∈ [servedCall], (observed d.history).starved = false := by
  have run : Program.Returns
      (servedCall.call.body (.new "ttyUSB0") ⟨ByteBuffer.allocateDirect 4,
      false⟩) servedCall.history (servedCall.outcome, _) := Program.replay_sound 16 rfl
  refine session_lossless_iff (.shared (by rintro ⟨⟩) (by decide) run (.nil _)) rfl ?_ ?_
  · intro d member
    rw [List.mem_singleton.mp member]
    unfold ReadCall.InBounds
    decide
  · intro d member
    rw [List.mem_singleton.mp member]
    rfl

end Specs
end Spsw.Jnhw

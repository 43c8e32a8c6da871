import Spsw.Jnhw.OverlappedLives

/-!
# What a transfer tells, and what it names

A transfer names only handles that it has read from the fields of the socket, and tells of a
close only where a field was cleared. Once the port has been closed there is nothing left to
read from the fields, so a late transfer names nobody's handle and moves nothing.
-/
namespace Spsw.Jnhw.OverlappedIO
open Interaction
open Interaction.Method (mwp mwp_mono mwp_bind mwp_request)
open Jni.WinApiIO (ERROR_IO_PENDING Refused WAIT_OBJECT_0)
open JavaException (asynchronousCloseException interruptedIOException ioException
  runtimeException timeoutIOException)
open Handles (Mirrored)

/-- The handles that a request names. -/
def names : Request → List ℤ
  | .ResetEvent handle | .WaitForSingleObject handle | .CancelIo handle | .CloseHandle
      handle | .GetCommState handle
  | .SetCommState handle _ | .GetCommTimeouts handle | .SetCommTimeouts handle _ => [handle]
  | .ReadFile handle hEvent _ | .WriteFile handle hEvent _ | .overlappedRead handle hEvent _
  | .overlappedWrite handle hEvent _ => [handle, hEvent]
  | .get _ | .set _ _ | .CreateFileW _ | .CreateEventW | .begin | .end _ | .register => []

/-- A handle that was read from a field of the socket. -/
def Read (h : History overlapped) (handle : ℤ) : Prop :=
  ∃ f, (⟨.get f, handle⟩ : Event overlapped) ∈ h

/-- What a transfer may ask next: no field of the cleaner, and no handle that it has not read. -/
structure Allowed (h : History overlapped) (e : Request) : Prop where
  transfers : transferring e = true
  field : ∀ part, e ≠ .get (.cleaner part)
  read : ∀ handle ∈ names e, Read h handle

def Borrows (h : History overlapped) : Prop := ∀ t ev, h = t ++ [ev] → Allowed t ev.1

def Transfer.buffer : Transfer → ByteBuffer
  | .read dst => dst
  | .write src => src

/-- The system has taken on a transfer on a handle that was read from a field. -/
def Begun (h : History overlapped) : Prop :=
  ∃ handle, Read h handle ∧
    ((∃ hEvent room r, (⟨.ReadFile handle hEvent room, r⟩ : Event overlapped) ∈ h ∧ ¬Refused r) ∨
      ∃ hEvent bytes r, (⟨.WriteFile handle hEvent bytes, r⟩ : Event overlapped) ∈ h ∧ ¬Refused r)

/-- The system has moved `n` bytes, which the buffer shows. -/
def Transfer.Moved : Transfer → History overlapped → ByteBuffer → ℕ → Prop
  | .read dst, h, buffer, n => Begun h ∧ ∃ handle hEvent bytes,
      (⟨.overlappedRead handle hEvent dst.remaining, .ok bytes⟩ : Event overlapped) ∈ h ∧
        bytes.val.length = n ∧
        dst.put bytes.val = some buffer
  | .write src, h, buffer, n => Begun h ∧ ∃ handle hEvent written,
      (⟨.overlappedWrite handle hEvent src.remaining, .ok written⟩ : Event overlapped) ∈ h ∧
        written.val = n ∧
        buffer = src.advance n

/-- A read returns with something, a write with everything. -/
def Transfer.Enough : Transfer → ℕ → Prop
  | .read _, n => 0 < n
  | .write src, n => n = src.remaining

/-- Something has told of a close: the field, or the end of the `finally` block. -/
def Told (h : History overlapped) : Prop :=
  (⟨.get hFile, INVALID_HANDLE_VALUE⟩ : Event overlapped) ∈ h ∨
    (⟨.end true, some asynchronousCloseException⟩ : Event overlapped) ∈ h

/-- How a transfer ends. -/
structure Reported (transfer : Transfer) (h : History overlapped) (buffer : ByteBuffer)
    (x : Except JavaException ℤ) : Prop where
  moved : buffer = transfer.buffer ∨ ∃ n, transfer.Moved h buffer n
  done : ∀ n, x = .ok n → transfer.buffer.hasRemaining = false ∧ n = 0 ∨
    ∃ m : ℕ, n = m ∧ transfer.Moved h buffer m ∧ transfer.Enough m
  told : x = .error asynchronousCloseException → Told h
  early : ∀ e, x = .error e → Begun h ∨ e.isIOException = true

section Laws
variable {h : History overlapped} {transfer : Transfer} {buffer : ByteBuffer} {handle : ℤ}

theorem Read.append (read : Read h handle) (t : History overlapped) : Read (h ++ t) handle := by
  obtain ⟨f, member⟩ := read
  exact ⟨f, List.mem_append_left _ member⟩

theorem read_get {f : Field} : Read (h ++ [⟨.get f, handle⟩]) handle :=
  ⟨f, List.mem_append_right _ (List.mem_singleton_self _)⟩

theorem borrows_snoc {ev : Event overlapped} (allowed : Allowed h ev.1) : Borrows (h ++ [ev]) := by
  intro t ev' same
  obtain ⟨rfl, last⟩ := List.append_inj' same rfl
  obtain rfl := List.singleton_inj.mp last
  exact allowed

theorem Begun.append (begun : Begun h) (t : History overlapped) : Begun (h ++ t) := by
  obtain ⟨handle, read, ⟨hEvent, room, r, member, taken⟩ | ⟨hEvent, bytes, r, member, taken⟩⟩ :=
    begun
  · exact ⟨handle, read.append t, .inl ⟨hEvent, room, r, List.mem_append_left _ member, taken⟩⟩
  · exact ⟨handle, read.append t, .inr ⟨hEvent, bytes, r, List.mem_append_left _ member, taken⟩⟩

theorem Transfer.Moved.append {n : ℕ} (moved : transfer.Moved h buffer n) (t : History overlapped) :
    transfer.Moved (h ++ t) buffer n := by
  cases transfer with
  | read dst =>
      obtain ⟨begun, handle, hEvent, bytes, member, length, put⟩ := moved
      exact ⟨begun.append t, handle, hEvent, bytes, List.mem_append_left _ member, length, put⟩
  | write src =>
      obtain ⟨begun, handle, hEvent, written, member, length, advanced⟩ := moved
      exact ⟨begun.append t, handle, hEvent, written,
        List.mem_append_left _ member, length, advanced⟩

theorem Told.append (told : Told h) (t : History overlapped) : Told (h ++ t) :=
  told.imp (List.mem_append_left _) (List.mem_append_left _)

theorem Reported.append {x : Except JavaException ℤ} (reported : Reported transfer h buffer x)
    (t : History overlapped) :
    Reported transfer (h ++ t) buffer x := by
  constructor
  case moved =>
    refine reported.moved.imp_right ?_
    rintro ⟨n, moved⟩
    exact ⟨n, moved.append t⟩
  case done =>
    intro n returned
    refine (reported.done n returned).imp_right ?_
    rintro ⟨m, same, moved, enough⟩
    exact ⟨m, same, moved.append t, enough⟩
  case told => exact fun thrown => (reported.told thrown).append t
  case early => exact fun e thrown => (reported.early e thrown).imp_left fun begun => begun.append t

/-- A part that throws. -/
theorem reported_error {e : JavaException}
    (moved : buffer = transfer.buffer ∨ ∃ n, transfer.Moved h buffer n)
    (told : e = asynchronousCloseException → Told h) (early : Begun h ∨ e.isIOException = true) :
    Reported transfer h buffer (.error e) := by
  refine ⟨moved, ?_, fun thrown => told (Except.error.inj thrown), ?_⟩
  · rintro n ⟨⟩
  · rintro e ⟨⟩
    exact early

/-- A method that goes on with a transfer as `Borrows` asks, and ends as `post` says. -/
abbrev borrowing {α : Type} (h : History overlapped) (buffer : ByteBuffer) (m : Action ByteBuffer α)
    (post : History overlapped → ByteBuffer → Except JavaException α → Prop) : Prop :=
  mwp Borrows h buffer m post

theorem borrowing_ask {α : Type} {e : Request} {k : Answer e → Action ByteBuffer α}
    {post : History overlapped → ByteBuffer → Except JavaException α → Prop} (allowed : Allowed h e)
    (next : ∀ r, borrowing (h ++ [⟨e, r⟩]) buffer (k r) post) :
    borrowing h buffer (ask e >>= k) post :=
  mwp_bind.mpr (mwp_request.mpr fun r => ⟨borrows_snoc allowed, next r⟩)

theorem allowed_get {f : Field} (own : ∀ part, f ≠ .cleaner part) : Allowed h (.get f) :=
  ⟨rfl, fun part same => own part (Request.get.inj same), by simp [names]⟩

theorem allowed_event {e : Request} {hEvent : ℤ} (transfers : transferring e = true)
    (named : names e = [hEvent]) (read : Read h hEvent) : Allowed h e := by
  refine ⟨transfers, ?_, ?_⟩
  · rintro part rfl
    cases named
  · simpa [named] using read

theorem allowed_transfer {e : Request} {hEvent : ℤ} (transfers : transferring e = true)
    (named : names e = [handle, hEvent]) (read : Read h handle) (event : Read h hEvent) :
    Allowed h e := by
  refine ⟨transfers, ?_, ?_⟩
  · rintro part rfl
    cases named
  · simpa [named] using ⟨read, event⟩

/-- The field decides what is thrown. -/
theorem failing_reports {α : Type} {e : JavaException} (other : e ≠ asynchronousCloseException)
    (io : e.isIOException = true)
    {post : History overlapped → ByteBuffer → Except JavaException α → Prop} (thrown : ∀ r e,
    (e = asynchronousCloseException → Told (h ++ [⟨.get hFile, r⟩])) → e.isIOException = true →
      post (h ++ [⟨.get hFile, r⟩]) buffer (.error e)) : borrowing h buffer (failing e) post := by
  refine borrowing_ask (allowed_get (by simp [hFile])) fun r => ?_
  split
  · exact Method.mwp_raise.mpr (thrown r e (fun same => absurd same other) io)
  · next none =>
    rw [not_not] at none
    refine Method.mwp_raise.mpr (thrown r _ (fun _ => .inl ?_) rfl)
    rw [none]
    exact List.mem_append_right _ (List.mem_singleton_self _)

/-- What `end` throws replaces what was there. -/
theorem ended_reports {x : Except JavaException ℤ} (begun : Begun h)
    (reported : Reported transfer h buffer x) :
    borrowing h buffer ended
      (Method.settle (fun h buffer x => Reported transfer h buffer x) x) := by
  refine borrowing_ask ⟨rfl, by simp, by simp [names]⟩ fun thrown => ?_
  have kept := reported.append [⟨.end true, thrown⟩]
  cases thrown with
  | none => exact Method.mwp_pure.mpr kept
  | some e =>
      refine Method.mwp_raise.mpr (reported_error kept.moved ?_ (.inl (begun.append _)))
      rintro rfl
      exact .inr (List.mem_append_right _ (List.mem_singleton_self _))

/-- The wait, which leaves the buffer alone. -/
theorem waiting_reports {event : ℤ} {name : String}
    (unmoved : buffer = transfer.buffer) (begun : Begun h) (read : Read h event)
    {k : Unit → Action ByteBuffer ℤ} (next : ∀ r, Begun (h ++ [⟨.WaitForSingleObject event, r⟩]) →
      borrowing (h ++ [⟨.WaitForSingleObject event, r⟩]) buffer (k ()) (Reported transfer)) :
    borrowing h buffer (waiting event name >>= k) (Reported transfer) := by
  apply mwp_bind.mpr
  refine borrowing_ask (allowed_event rfl rfl read) fun waited => ?_
  cases waited with
  | error errno =>
      refine Method.mwp_raise.mpr (reported_error (.inl unmoved) ?_ (.inl (begun.append _)))
      rintro ⟨⟩
  | ok result =>
      dsimp only
      split
      · refine failing_reports (by simp) rfl fun r e told io => ?_
        exact reported_error (.inl unmoved) told (.inr io)
      · exact Method.mwp_pure.mpr (next _ (begun.append _))

end Laws

section Transfers
variable {h : History overlapped}

/-- What the part between `begin` and `end` owes, and `end` after it. -/
theorem tryFinally_reports {transfer : Transfer} {buffer : ByteBuffer} {body : Action ByteBuffer ℤ}
    (reports : Begun h → borrowing h buffer body (Reported transfer)) (begun : Begun h) :
    borrowing h buffer (Method.tryFinally body ended) (Reported transfer) := by
  apply Method.mwp_tryFinally
  apply mwp_mono (Method.mwp_grows (reports begun))
  rintro h' buffer x ⟨⟨t, rfl⟩, reported⟩
  exact ended_reports (begun.append t) reported

theorem not_refused {r : Except ℕ Unit} (taken : r = .ok () ∨ r = .error ERROR_IO_PENDING) :
    ¬Refused r := by
  rintro ⟨errno, rfl, other⟩
  rcases taken with fails | pending
  · cases fails
  · exact other (Except.error.inj pending)

theorem begun_read {handle hEvent : ℤ} {room : ℕ} {r : Except ℕ Unit} (read : Read h handle)
    (taken : r = .ok () ∨ r = .error ERROR_IO_PENDING) :
    Begun (h ++ [⟨.ReadFile handle hEvent room, r⟩]) :=
  ⟨handle, read.append _,
    .inl ⟨hEvent, room, r, List.mem_append_right _ (List.mem_singleton_self _), not_refused taken⟩⟩

theorem begun_write {handle hEvent : ℤ} {bytes : List UInt8} {r : Except ℕ Unit}
    (read : Read h handle) (taken : r = .ok () ∨ r = .error ERROR_IO_PENDING) :
    Begun (h ++ [⟨.WriteFile handle hEvent bytes, r⟩]) :=
  ⟨handle, read.append _,
    .inr ⟨hEvent, bytes, r, List.mem_append_right _ (List.mem_singleton_self _), not_refused taken⟩⟩

theorem awaitRead_reports (dst : ByteBuffer) (begun : Begun h) :
    borrowing h dst (awaitRead dst.remaining) (Reported (.read dst)) := by
  have unmoved : dst = (Transfer.read dst).buffer := rfl
  refine borrowing_ask ⟨rfl, by simp, by simp [names]⟩ fun _ => ?_
  refine borrowing_ask (allowed_get (by simp [readEvent])) fun event => ?_
  refine waiting_reports unmoved ((begun.append _).append _) read_get fun waited begun => ?_
  refine borrowing_ask (allowed_get (by simp [hFile])) fun handle => ?_
  refine borrowing_ask (allowed_get (by simp)) fun hEvent => ?_
  refine borrowing_ask (allowed_transfer rfl rfl (read_get.append _) read_get) fun result => ?_
  cases result with
  | error errno =>
      refine failing_reports (by simp) rfl fun r e told io => ?_
      exact reported_error (.inl unmoved) told (.inr io)
  | ok bytes =>
      obtain ⟨buffer, put⟩ : ∃ buffer, dst.put bytes.val = some buffer :=
        ⟨_, dif_pos bytes.property⟩
      have moved {h : History overlapped} (begun : Begun h) : (Transfer.read dst).Moved
          (h ++ [⟨.overlappedRead handle hEvent dst.remaining, .ok bytes⟩])
            buffer bytes.val.length :=
        ⟨begun.append _, handle, hEvent, bytes,
          List.mem_append_right _ (List.mem_singleton_self _), rfl, put⟩
      replace moved :=
        moved ((begun.append [⟨.get hFile, handle⟩]).append [⟨.get .readOverlapped, hEvent⟩])
      refine mwp_bind.mpr (Method.mwp_assign.mpr (Method.rest_ok.mpr ?_))
      rw [put, Option.getD_some]
      split
      · next positive =>
        refine Method.mwp_pure.mpr ⟨.inr ⟨_, moved⟩, ?_, by simp, by simp⟩
        rintro n ⟨⟩
        exact .inr ⟨_, rfl, moved, positive⟩
      · refine failing_reports (by simp) rfl fun r e told io => ?_
        exact reported_error (.inr ⟨_, moved.append _⟩) told (.inr io)

theorem read_reports (dst : ByteBuffer) : borrowing [] dst read (Reported (.read dst)) := by
  have unmoved : dst = (Transfer.read dst).buffer := rfl
  refine mwp_bind.mpr (Method.mwp_locals.mpr (Method.rest_ok.mpr ?_))
  split
  · next full =>
    refine Method.mwp_pure.mpr ⟨.inl unmoved, ?_, by simp, by simp⟩
    rintro n ⟨⟩
    exact .inl ⟨full, rfl⟩
  refine borrowing_ask (allowed_get (by simp [readEvent])) fun event => ?_
  refine borrowing_ask (allowed_event rfl rfl read_get) fun reset => ?_
  cases reset with
  | error errno =>
      refine Method.mwp_raise.mpr (reported_error (.inl unmoved) ?_ (.inr rfl))
      rintro ⟨⟩
  | ok =>
      refine borrowing_ask (allowed_get (by simp [hFile])) fun handle => ?_
      refine borrowing_ask (allowed_get (by simp)) fun hEvent => ?_
      refine borrowing_ask (allowed_transfer rfl rfl (read_get.append _) read_get) fun started => ?_
      cases started with
      | ok =>
          exact tryFinally_reports (awaitRead_reports dst)
            (begun_read (read_get.append _) (.inl rfl))
      | error errno =>
          dsimp only
          split
          · refine failing_reports (by simp) rfl fun r e told io => ?_
            exact reported_error (.inl unmoved) told (.inr io)
          · next pending =>
            rw [not_not] at pending
            subst pending
            exact tryFinally_reports (awaitRead_reports dst)
              (begun_read (read_get.append _) (.inr rfl))

theorem written_enough {src : ByteBuffer} (written : Fin (src.remaining + 1))
    (through : ¬(src.advance written.val).hasRemaining = true) :
    (Transfer.write src).Enough written.val := by
  have most := written.isLt
  rw [ByteBuffer.hasRemaining_iff, ByteBuffer.advance_remaining] at through
  change written.val = src.remaining
  omega

theorem awaitWrite_reports (src : ByteBuffer) (begun : Begun h) :
    borrowing h src (awaitWrite src.remaining) (Reported (.write src)) := by
  have unmoved : src = (Transfer.write src).buffer := rfl
  refine borrowing_ask ⟨rfl, by simp, by simp [names]⟩ fun _ => ?_
  refine borrowing_ask (allowed_get (by simp [writeEvent])) fun event => ?_
  refine waiting_reports unmoved ((begun.append _).append _) read_get fun waited begun => ?_
  refine borrowing_ask (allowed_get (by simp [hFile])) fun handle => ?_
  refine borrowing_ask (allowed_get (by simp)) fun hEvent => ?_
  refine borrowing_ask (allowed_transfer rfl rfl (read_get.append _) read_get) fun result => ?_
  cases result with
  | error errno =>
      refine failing_reports (by simp) rfl fun r e told io => ?_
      exact reported_error (.inl unmoved) told (.inr io)
  | ok written =>
      have moved {h : History overlapped} (begun : Begun h) : (Transfer.write src).Moved
          (h ++ [⟨.overlappedWrite handle hEvent src.remaining, .ok written⟩])
            (src.advance written.val) written.val :=
        ⟨begun.append _, handle, hEvent, written,
          List.mem_append_right _ (List.mem_singleton_self _), rfl, rfl⟩
      replace moved :=
        moved ((begun.append [⟨.get hFile, handle⟩]).append [⟨.get .writeOverlapped, hEvent⟩])
      refine mwp_bind.mpr (Method.mwp_assign.mpr (Method.rest_ok.mpr ?_))
      refine mwp_bind.mpr (Method.mwp_locals.mpr (Method.rest_ok.mpr ?_))
      split
      · refine failing_reports (by simp) rfl fun r e told io => ?_
        exact reported_error (.inr ⟨_, moved.append _⟩) told (.inr io)
      · next through =>
        refine Method.mwp_pure.mpr ⟨.inr ⟨_, moved⟩, ?_, by simp, by simp⟩
        rintro n ⟨⟩
        exact .inr ⟨_, rfl, moved, written_enough written through⟩

theorem write_reports (src : ByteBuffer) : borrowing [] src write (Reported (.write src)) := by
  have unmoved : src = (Transfer.write src).buffer := rfl
  refine mwp_bind.mpr (Method.mwp_locals.mpr (Method.rest_ok.mpr ?_))
  split
  · next full =>
    refine Method.mwp_pure.mpr ⟨.inl unmoved, ?_, by simp, by simp⟩
    rintro n ⟨⟩
    exact .inl ⟨full, rfl⟩
  refine borrowing_ask (allowed_get (by simp [writeEvent])) fun event => ?_
  refine borrowing_ask (allowed_event rfl rfl read_get) fun reset => ?_
  cases reset with
  | error errno =>
      refine Method.mwp_raise.mpr (reported_error (.inl unmoved) ?_ (.inr rfl))
      rintro ⟨⟩
  | ok =>
      refine borrowing_ask (allowed_get (by simp [hFile])) fun handle => ?_
      refine borrowing_ask (allowed_get (by simp)) fun hEvent => ?_
      refine borrowing_ask (allowed_transfer rfl rfl (read_get.append _) read_get) fun started => ?_
      cases started with
      | ok =>
          exact tryFinally_reports (awaitWrite_reports src)
            (begun_write (read_get.append _) (.inl rfl))
      | error errno =>
          dsimp only
          split
          · refine failing_reports (by simp) rfl fun r e told io => ?_
            exact reported_error (.inl unmoved) told (.inr io)
          · next pending =>
            rw [not_not] at pending
            subst pending
            exact tryFinally_reports (awaitWrite_reports src)
              (begun_write (read_get.append _) (.inr rfl))

end Transfers

section Runs
variable {ι : Type} [DecidableEq ι] {σ σ' : Handles} {transfers : ι → Transfer}
  {t : Interleaved (Option ι) (fun _ => overlapped) Outcome Handles}

def borrowsOf : Option ι → History overlapped → Prop
  | none => fun _ => True
  | some _ => Borrows

def reportOf (transfers : ι → Transfer) : (i : Option ι) → History overlapped → Outcome i → Prop
  | none => fun _ _ => True
  | some i => fun h y => Reported (transfers i) h y.2 y.1

omit [DecidableEq ι] in
theorem reports (σ : Handles) (transfers : ι → Transfer) (i : Option ι) :
    wp (borrowsOf i) [] ((sharing σ transfers).program i) (reportOf transfers i) := by
  cases i with
  | none => exact fun _ _ _ => ⟨fun _ => trivial, fun _ _ => trivial⟩
  | some i =>
      have all : ∀ transfer : Transfer, wp Borrows [] transfer.program fun h y =>
          Reported transfer h y.2 y.1 := by
        intro transfer
        cases transfer with
        | read dst => exact read_reports dst
        | write src => exact write_reports src
      exact all (transfers i)

/-- A field is set by a request for it. -/
theorem field_answers {ev : Event overlapped} (f : Field) (answer : σ.answers ev σ') :
    σ'.field f = σ.field f ∨ ∃ handle, ev = ⟨.set f handle, ()⟩ ∧ σ'.field f = handle := by
  obtain ⟨e, r⟩ := ev
  cases e with
  | set f' handle =>
      obtain rfl : σ' = σ.set f' handle := answer
      by_cases same : f = f'
      · subst same
        exact .inr ⟨handle, rfl, Handles.set_self⟩
      · exact .inl (Handles.set_other same)
  | get f' => rw [answer.2]; exact .inl rfl
  | CreateFileW name =>
      cases r with
      | ok handle => rw [answer.2]; exact .inl rfl
      | error errno => exact .inl (congrArg (Handles.field · f) answer)
  | CreateEventW =>
      cases r with
      | ok handle => rw [answer.2]; exact .inl rfl
      | error errno => exact .inl (congrArg (Handles.field · f) answer)
  | CloseHandle handle =>
      cases r with
      | ok =>
          obtain rfl : σ' = σ.close handle := answer
          exact .inl (by rw [Handles.close_field])
      | error errno =>
          obtain rfl : σ' = σ.touch handle := answer
          exact .inl (by rw [Handles.touch_field])
  | register =>
      obtain rfl : σ' = { σ with registered := true } := answer
      exact .inl rfl
  | CancelIo handle => rw [answers_touch rfl answer, Handles.touch_field]; exact .inl rfl
  | GetCommState handle => rw [answers_touch rfl answer, Handles.touch_field]; exact .inl rfl
  | SetCommState handle dcb => rw [answers_touch rfl answer, Handles.touch_field]; exact .inl rfl
  | GetCommTimeouts handle => rw [answers_touch rfl answer, Handles.touch_field]; exact .inl rfl
  | SetCommTimeouts handle timeouts =>
      rw [answers_touch rfl answer, Handles.touch_field]; exact .inl rfl
  | _ => rw [answers_transferring rfl answer]; exact .inl rfl

/-- The field of the port has been cleared. -/
def Marked (h : History overlapped) : Prop :=
  (⟨.set hFile INVALID_HANDLE_VALUE, ()⟩ : Event overlapped) ∈ h

/-- A cleared field is the work of the one who closes. -/
structure Truthful (σ : Handles) (record : Option ι → History overlapped) : Prop where
  field : ¬Marked (record none) → σ.field hFile ≠ INVALID_HANDLE_VALUE
  found : ∀ i, (⟨.get hFile, INVALID_HANDLE_VALUE⟩ : Event overlapped) ∈ record (some i) →
    Marked (record none)

theorem reached_truthful (valid : σ.field hFile ≠ INVALID_HANDLE_VALUE)
    {ok : Interleaved (Option ι) (fun _ => overlapped) Outcome Handles →
      Option (Interleaved.Label fun _ : Option ι => overlapped) → Prop}
    (reached : Interleaved.Reached (sharing σ transfers) ok t) : Truthful t.shared t.record := by
  refine reached.invariant (reports σ transfers) Truthful ⟨fun _ => valid, by simp⟩ ?_
  intro t i ev shared _ before _ law answer
  cases i with
  | none =>
      constructor
      · intro unmarked
        rw [Function.update_self] at unmarked
        rcases field_answers hFile answer with same | ⟨handle, rfl, set⟩
        · rw [same]
          exact before.field fun marked => unmarked (List.mem_append_left _ marked)
        · rw [set]
          rintro rfl
          exact unmarked (List.mem_append_right _ (List.mem_singleton_self _))
      · intro i member
        rw [Function.update_of_ne (Option.some_ne_none i)] at member
        rw [Function.update_self]
        exact List.mem_append_left _ (before.found i member)
  | some j =>
      have borrows : Borrows (t.record (some j) ++ [ev]) := law
      obtain rfl : shared = t.shared := answers_transferring (borrows _ ev rfl).transfers answer
      constructor
      · rw [Function.update_of_ne (Option.some_ne_none j).symm]
        exact before.field
      · intro i member
        rw [Function.update_of_ne (Option.some_ne_none j).symm]
        by_cases same : i = j
        · subst same
          rw [Function.update_self] at member
          rcases List.mem_append.mp member with old | new
          · exact before.found i old
          · by_contra unmarked
            obtain rfl := List.mem_singleton.mp new
            exact before.field unmarked answer.1.symm
        · rw [Function.update_of_ne fun eq => same (Option.some.inj eq)] at member
          exact before.found i member

/-- The port has been closed when `i` takes a step. -/
def Late (i : ι) (s : Interleaved (Option ι) (fun _ => overlapped) Outcome Handles) :
    Option (Interleaved.Label fun _ : Option ι => overlapped) → Prop
  | some ⟨j, _⟩ => j = some i → s.thread none = .pure (.ok (), ())
  | none => True

/-- A transfer that has found nothing. -/
structure Spared (h : History overlapped) : Prop where
  fields : ∀ f handle, (⟨.get f, handle⟩ : Event overlapped) ∈ h → handle = INVALID_HANDLE_VALUE
  named : ∀ ev ∈ h, ∀ handle ∈ names ev.1, handle = INVALID_HANDLE_VALUE
  reads : ∀ hEvent room r,
    (⟨.ReadFile INVALID_HANDLE_VALUE hEvent room, r⟩ : Event overlapped) ∈ h → Refused r
  writes : ∀ hEvent bytes r,
    (⟨.WriteFile INVALID_HANDLE_VALUE hEvent bytes, r⟩ : Event overlapped) ∈ h →
    Refused r

theorem Spared.unbegun {h : History overlapped} (spared : Spared h) : ¬Begun h := by
  rintro ⟨handle, ⟨f, read⟩, taken⟩
  obtain rfl := spared.fields f handle read
  rcases taken with ⟨hEvent, room, r, member, taken⟩ | ⟨hEvent, bytes, r, member, taken⟩
  · exact taken (spared.reads hEvent room r member)
  · exact taken (spared.writes hEvent bytes r member)

theorem Spared.snoc {h : History overlapped} {ev : Event overlapped} (spared : Spared h)
    (allowed : Allowed h ev.1)
    (cleared : ∀ f, (∀ part, f ≠ .cleaner part) → σ.field f = INVALID_HANDLE_VALUE)
    (shut : σ.opened INVALID_HANDLE_VALUE = false) (answer : σ.answers ev σ') :
    Spared (h ++ [ev]) := by
  constructor
  case fields =>
    intro f handle member
    rcases List.mem_append.mp member with old | new
    · exact spared.fields f handle old
    · obtain rfl := List.mem_singleton.mp new
      exact answer.1.trans (cleared f fun part same =>
        allowed.field part (congrArg Request.get same))
  case named =>
    intro ev' member handle named
    rcases List.mem_append.mp member with old | new
    · exact spared.named ev' old handle named
    · obtain rfl := List.mem_singleton.mp new
      obtain ⟨f, read⟩ := allowed.read handle named
      exact spared.fields f handle read
  case reads =>
    intro hEvent room r member
    rcases List.mem_append.mp member with old | new
    · exact spared.reads hEvent room r old
    · obtain rfl := List.mem_singleton.mp new
      exact answer.1 shut
  case writes =>
    intro hEvent bytes r member
    rcases List.mem_append.mp member with old | new
    · exact spared.writes hEvent bytes r old
    · obtain rfl := List.mem_singleton.mp new
      exact answer.1 shut

/-- Where the one who closes has got to, and what he has done, when a transfer takes a step. -/
theorem reached_spared (mirrored : Mirrored σ) {i : ι}
    (reached : Interleaved.Reached (sharing σ transfers) (Late i) t) :
    Spared (t.record (some i)) := by
  refine reached.invariant (reports σ transfers) (fun _ record => Spared (record (some i))) ?_ ?_
  · exact ⟨by simp, by simp, by simp, by simp⟩
  intro t j ev shared reached before late law answer
  by_cases same : j = some i
  · subst same
    rw [Function.update_self]
    have borrows : Borrows (t.record (some i) ++ [ev]) := law
    have run := reached.run none
    rw [late rfl] at run
    have returns : Program.Returns (implCloseChannel ()) (t.record none) (.ok (), ()) := run
    obtain ⟨owned, -, cleared⟩ :=
      Method.amwp_returns (implCloseChannel_ends mirrored) returns (reached_answered reached)
    exact before.snoc (borrows _ ev rfl) (cleared rfl) (owned.kept.nobody _ rfl) answer
  · rw [Function.update_of_ne (Ne.symm same)]
    exact before

/-- However transfers and one close overlap: a transfer that returns has moved what it says,
and one that tells of a close was told by the field, which had been cleared by then, or by
`end`. One that begins after the port was closed names no handle, moves nothing and throws,
unless there was nothing to move. -/
theorem transfers_reported (σ : Handles) (transfers : ι → Transfer) (mirrored : Mirrored σ)
    (valid : σ.field hFile ≠ INVALID_HANDLE_VALUE) :
    (∀ t, Interleaved.Reached (sharing σ transfers) (fun _ _ => True) t → ∀ i x buffer,
      t.thread (some i) = .pure (x, buffer) →
        (∀ n, x = .ok n → (transfers i).buffer.hasRemaining = false ∧ n = 0 ∨
          ∃ m : ℕ, n = m ∧ (transfers i).Moved (t.record (some i)) buffer m ∧
            (transfers i).Enough m) ∧
        (buffer = (transfers i).buffer ∨ ∃ m, (transfers i).Moved (t.record (some i)) buffer m) ∧
        (x = .error asynchronousCloseException → Marked (t.record none) ∨
          (⟨.end true, some asynchronousCloseException⟩ : Event overlapped) ∈ t.record (some i))) ∧
    ∀ i t, Interleaved.Reached (sharing σ transfers) (Late i) t →
      (∀ ev ∈ t.record (some i), ∀ handle ∈ names ev.1, handle = INVALID_HANDLE_VALUE) ∧ ∀ x buffer,
        t.thread (some i) = .pure (x, buffer) → buffer = (transfers i).buffer ∧
          ((transfers i).buffer.hasRemaining = true → ∃ e, x = .error e ∧
            e.isIOException = true) := by
  constructor
  · intro t reached i x buffer done
    have reported : Reported (transfers i) (t.record (some i)) buffer x :=
      reached.returned (reports σ transfers) done
    refine ⟨reported.done, reported.moved,
      fun close => (reported.told close).imp_left fun found => ?_⟩
    exact (reached_truthful valid reached).found i found
  · intro i t reached
    have spared := reached_spared mirrored reached
    refine ⟨spared.named, fun x buffer done => ?_⟩
    have reported : Reported (transfers i) (t.record (some i)) buffer x :=
      reached.returned (reports σ transfers) done
    have unmoved : ∀ n, ¬(transfers i).Moved (t.record (some i)) buffer n := by
      intro n moved
      cases same : transfers i with
      | read dst =>
          rw [same] at moved
          exact spared.unbegun moved.1
      | write src =>
          rw [same] at moved
          exact spared.unbegun moved.1
    refine ⟨reported.moved.resolve_right fun moved => unmoved _ moved.choose_spec,
      fun remains => ?_⟩
    cases x with
    | error e => exact ⟨e, rfl, (reported.early e rfl).resolve_left spared.unbegun⟩
    | ok n =>
        rcases reported.done n rfl with ⟨full, -⟩ | ⟨m, -, moved, -⟩
        · rw [full] at remains
          cases remains
        · exact absurd moved (unmoved m)

end Runs

section Examples

theorem com3Opened_mirrored : Mirrored com3Opened := by
  obtain ⟨h, returns, answered⟩ := com3Opened_returns
  have ready : Ready com3Opened := Method.amwp_returns (open_ends "COM3" {}) returns answered
  exact ready.mirrored

/-- A read that begins after the port was closed. -/
theorem transfers_reported_late :
    ∃ t : Interleaved (Option Unit) (fun _ => overlapped) Outcome Handles, ∃ x buffer,
    t.thread (some ()) = .pure (x, buffer) ∧ buffer = .allocateDirect 8 ∧ ∃ e, x = .error e ∧
      e.isIOException = true := by
  have early {s : Interleaved (Option Unit) (fun _ => overlapped) Outcome Handles}
    {ev : Event overlapped} :
      Late () s (some ⟨none, ev⟩) := fun same => absurd same (by decide)
  have fresh : Interleaved.Reached (sharing com3Opened fun _ : Unit =>
    .read (.allocateDirect 8)) (Late ()) _ := .start
  have marked :=
    (fresh.ask (i := none) rfl (3 : ℤ) ⟨rfl, rfl⟩ early).ask (i := none) rfl () rfl early
  have closed :=
    (marked.ask (i := none) rfl (.ok ()) rfl early).ask (i := none) rfl (.ok ()) rfl early
  have read :=
    (closed.ask (i := none) rfl () rfl early).ask (i := none) rfl (4 : ℤ) ⟨rfl, rfl⟩ early
  have cleared := (read.ask (i := none) rfl () rfl early).ask (i := none) rfl () rfl early
  have shut := (cleared.ask (i := none) rfl (.ok ()) rfl early).ask (i := none) rfl () rfl early
  have write := (shut.ask (i := none) rfl (5 : ℤ) ⟨rfl, rfl⟩ early).ask (i := none) rfl () rfl early
  have closing := (write.ask (i := none) rfl () rfl early).ask (i := none) rfl (.ok ()) rfl early
  have done := closing.ask (i := none) rfl () rfl early
  have reset := (done.ask (i := some ()) rfl INVALID_HANDLE_VALUE ⟨rfl, rfl⟩ (fun _ => rfl)).ask
    (i := some ()) rfl (.ok ()) rfl (fun _ => rfl)
  have named := (reset.ask (i := some ()) rfl INVALID_HANDLE_VALUE ⟨rfl, rfl⟩ (fun _ => rfl)).ask
    (i := some ()) rfl INVALID_HANDLE_VALUE ⟨rfl, rfl⟩ (fun _ => rfl)
  have fails :=
    (named.ask (i := some ()) rfl (.error 6) ⟨fun _ => ⟨6, rfl, by decide⟩, rfl⟩
      (fun _ => rfl)).ask (i := some ()) rfl INVALID_HANDLE_VALUE ⟨rfl, rfl⟩ (fun _ => rfl)
  obtain ⟨t, reached, x, buffer, returned⟩ : ∃ t,
      Interleaved.Reached (sharing com3Opened fun _ : Unit => .read (.allocateDirect 8))
      (Late ()) t ∧ ∃ x buffer, t.thread (some ()) = .pure (x, buffer) := ⟨_, fails, _, _, rfl⟩
  have reports := transfers_reported com3Opened (fun _ : Unit =>
    .read (.allocateDirect 8)) com3Opened_mirrored (by decide)
  obtain ⟨unmoved, throws⟩ := (reports.2 () t reached).2 x buffer returned
  exact ⟨t, x, buffer, returned, unmoved, throws rfl⟩

end Examples
end Spsw.Jnhw.OverlappedIO

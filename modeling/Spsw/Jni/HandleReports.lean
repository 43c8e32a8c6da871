import Spsw.Jni.HandleLives
import Spsw.Jni.InputStream

/-!
# What a call tells of a close

A call that fails asks the field of the socket for the reason, and throws once. Where the
field was cleared it tells of the close, and a call that begins after that does nothing else.
-/
namespace Spsw.Jni.WinApiIO
open Interaction
open Interaction.Method (mwp mwp_mono)
open AbstractSerialPortSocketIO (returned)
open Jnhw (Errno INVALID_HANDLE_VALUE)
open JavaException (asynchronousCloseException)
open TermiosIO (Env)
open Resources (Inventory)

/-- The handle of the port that a request names. -/
def ports : Request → List ℤ
  | .GetCommState hFile | .SetCommState hFile _ | .GetCommTimeouts hFile | .SetCommTimeouts hFile _
  | .ReadFile hFile _ _ | .WriteFile hFile _ _ | .overlappedRead hFile _
      _ | .overlappedWrite hFile _ _
  | .SetCommBreak hFile | .ClearCommBreak hFile | .CancelIo hFile => [hFile]
  | .getFd | .setFd _ | .getCleanerFd | .setCleanerFd _ | .CreateFile
      _ | .CreateEventA | .WaitForSingleObject _
  | .Sleep _ | .CloseHandle _ | .GetLastError => []

/-- The event that a request names, or the handle that it closes. -/
def events : Request → List ℤ
  | .ReadFile _ hEvent _ | .WriteFile _ hEvent _ | .overlappedRead _ hEvent
      _ | .overlappedWrite _ hEvent _
  | .WaitForSingleObject hEvent | .CloseHandle hEvent => [hEvent]
  | .getFd | .setFd _ | .getCleanerFd | .setCleanerFd _ | .CreateFile
      _ | .CreateEventA | .GetCommState _
  | .SetCommState _ _ | .GetCommTimeouts _ | .SetCommTimeouts _ _ | .SetCommBreak
      _ | .Sleep _ | .ClearCommBreak _
  | .CancelIo _ | .GetLastError => []

/-- What a call may ask next: it names a port by what it has read from the field, and an event
that it has created. -/
structure Allowed (h : History winApi) (e : Request) : Prop where
  ports : ∀ hFile ∈ ports e, (⟨.getFd, hFile⟩ : Event winApi) ∈ h
  events : ∀ hEvent ∈ events e, (⟨.CreateEventA, hEvent⟩ : Event winApi) ∈ h

def Borrows (h : History winApi) : Prop := ∀ t ev, h = t ++ [ev] → Allowed t ev.1

/-- One exception, chosen by what the field held. -/
def Fails (h : History winApi) (raised : List JavaException) : Prop :=
  ∃ fd e, raised = [e] ∧ (⟨.getFd, fd⟩ : Event winApi) ∈ h ∧
    (e = asynchronousCloseException ↔ fd = INVALID_HANDLE_VALUE)

/-- The system has taken on a transfer on the handle that the field held. -/
def Begun (h : History winApi) : Prop :=
  ∃ hFile, (⟨.getFd, hFile⟩ : Event winApi) ∈ h ∧
    ((∃ hEvent len r, (⟨.ReadFile hFile hEvent len, r⟩ : Event winApi) ∈ h ∧ ¬Refused r) ∨
      ∃ hEvent buff r, (⟨.WriteFile hFile hEvent buff, r⟩ : Event winApi) ∈ h ∧ ¬Refused r)

/-- The memory that a call is given to read into. -/
def NativeCall.memory : NativeCall → List UInt8
  | .readBuffer _ _ memory => memory
  | .writeBuffer _ _ => []

/-- A call has done what it was called for. -/
def NativeCall.Done : NativeCall → History winApi → Env → Except ℤ ℤ → Prop
  | .readBuffer len _ memory, h, env, x => ∃ hFile hEvent bytes,
      (⟨.overlappedRead hFile hEvent len, (true, bytes)⟩ : Event winApi) ∈ h ∧
        0 < bytes.val.length ∧
        x = .ok bytes.val.length ∧ env.buff = bytes.val ++ memory.drop bytes.val.length
  | .writeBuffer buff _, h, _, x => ∃ hFile hEvent written,
      (⟨.overlappedWrite hFile hEvent buff.length, (true, written)⟩ : Event winApi) ∈ h ∧
        written.val = buff.length ∧
        x = .ok buff.length

/-- How a call ends: it is done, or throws once. -/
structure Reported (call : NativeCall) (h : History winApi) (env : Env)
    (x : Except ℤ ℤ) : Prop where
  ends : env.raised = [] ∧ call.Done h env x ∨ Fails h env.raised
  begun : env.raised = [] ∨ returned x ≠ 0 → Begun h
  memory : env.buff = call.memory ∨ Begun h

section Calls
variable {h : History winApi} {env : Env} {errnoText : Errno → String} {hFile hEvent : ℤ}

theorem Fails.append {raised : List JavaException} (fails : Fails h raised) (t : History winApi) :
    Fails (h ++ t) raised := by
  obtain ⟨fd, e, same, member, reason⟩ := fails
  exact ⟨fd, e, same, List.mem_append_left _ member, reason⟩

theorem Begun.append (begun : Begun h) (t : History winApi) : Begun (h ++ t) := by
  obtain ⟨hFile, read, ⟨hEvent, len, r, member, good⟩ | ⟨hEvent, buff, r, member, good⟩⟩ := begun
  · exact ⟨hFile, List.mem_append_left _ read,
      .inl ⟨hEvent, len, r, List.mem_append_left _ member, good⟩⟩
  · exact ⟨hFile, List.mem_append_left _ read,
      .inr ⟨hEvent, buff, r, List.mem_append_left _ member, good⟩⟩

theorem borrows_snoc {ev : Event winApi} (allowed : Allowed h ev.1) : Borrows (h ++ [ev]) := by
  intro t ev' same
  obtain ⟨rfl, last⟩ := List.append_inj' same rfl
  obtain rfl := List.singleton_inj.mp last
  exact allowed

/-- A request that names nothing. -/
theorem allowed_nothing {e : Request} (port : ports e = []) (event : events e = []) : Allowed h e :=
  ⟨by simp [port], by simp [event]⟩

theorem allowed_event {e : Request} (port : ports e = []) (event : events e = [hEvent])
    (created : (⟨.CreateEventA, hEvent⟩ : Event winApi) ∈ h) : Allowed h e :=
  ⟨by simp [port], by simpa [event] using created⟩

theorem allowed_transfer {e : Request} (port : ports e = [hFile]) (event : events e = [hEvent])
    (read : (⟨.getFd, hFile⟩ : Event winApi) ∈ h)
    (created : (⟨.CreateEventA, hEvent⟩ : Event winApi) ∈ h) :
    Allowed h e :=
  ⟨by simpa [port] using read, by simpa [event] using created⟩

/-- A method that asks as `Borrows` says, and ends as `post` says. -/
abbrev borrowing {α : Type} (h : History winApi) (env : Env) (m : Native α)
    (post : History winApi → Env → Except ℤ α → Prop) : Prop :=
  mwp Borrows h env m post

theorem borrowing_ask {α : Type} {e : Request} {k : Answer e → Native α}
    {post : History winApi → Env → Except ℤ α → Prop} (allowed : Allowed h e)
    (next : ∀ r, borrowing (h ++ [⟨e, r⟩]) env (k r) post) : borrowing h env (ask e >>= k) post :=
  mwp_ask_bind fun r => ⟨borrows_snoc allowed, next r⟩

/-- A part that throws one exception, which is not that of a close. -/
def Throws (m : Native Unit) : Prop := ∀ h env, env.raised = [] → borrowing h env m fun h' env' x =>
  x = .ok () ∧ (∃ t, h' = h ++ t) ∧ env'.buff = env.buff ∧ ∃ e, env'.raised = [e] ∧
    e ≠ asynchronousCloseException

theorem throwing_throws {e : JavaException} (other : e ≠ asynchronousCloseException) :
    Throws (throwing e) := by
  intro h env quietly
  refine mwp_throwing.mpr ⟨rfl, ⟨[], (List.append_nil h).symm⟩, rfl, e, ?_, other⟩
  rw [quietly]
  rfl

theorem throwInterrupted_throws (bytesTransferred : ℤ) (msg : String) :
    Throws (throw_InterruptedIOExceptionWithError errnoText bytesTransferred msg) := by
  intro h env quietly
  exact Method.mwp_bind.mpr (Method.mwp_locals.mpr (throwing_throws (by simp) h env quietly))

theorem throwNative_throws (msg : String) : Throws (throw_IOException_NativeError msg) := by
  intro h env quietly
  refine borrowing_ask (allowed_nothing rfl rfl) fun errno => ?_
  have throws :=
    throwing_throws (e := WinSocket.nativeError errno msg) (by simp [WinSocket.nativeError])
  apply mwp_mono (throws _ env quietly)
  rintro h' env' x ⟨rfl, ⟨t, rfl⟩, rest⟩
  exact ⟨rfl, ⟨_, List.append_assoc _ _ _⟩, rest⟩

theorem writtenShort_throws (dwBytesWritten : ℕ) :
    Throws (writtenShort errnoText dwBytesWritten) := by
  intro h env quietly
  refine borrowing_ask (allowed_nothing rfl rfl) fun errno => ?_
  have chosen : Throws (if errno = ERROR_IO_PENDING then
      throwing (.timeoutIOException dwBytesWritten (some "Timeout writeBuffer overlapped"))
      else
        throw_InterruptedIOExceptionWithError errnoText dwBytesWritten
          "Error writeBytes too view written") := by
    split
    · exact throwing_throws (by simp)
    · exact throwInterrupted_throws _ _
  apply mwp_mono (chosen _ env quietly)
  rintro h' env' x ⟨rfl, ⟨t, rfl⟩, rest⟩
  exact ⟨rfl, ⟨_, List.append_assoc _ _ _⟩, rest⟩

/-- How a part ends that throws: with one exception, and the memory as it was. -/
def Failing {α : Type} (h : History winApi) (env : Env) (x : Except ℤ α)
    (h' : History winApi) (env' : Env) (x' : Except ℤ α) : Prop :=
  x' = x ∧ (∃ t, h' = h ++ t) ∧ Fails h' env'.raised ∧ env'.buff = env.buff

/-- What is thrown is the exception of the close if and only if the field was cleared. -/
theorem closedOr_fails {otherwise : Native Unit} (throws : Throws otherwise)
    (quietly : env.raised = []) :
    borrowing h env (closedOr otherwise) (Failing h env (.ok ())) := by
  refine borrowing_ask (allowed_nothing rfl rfl) fun fd => ?_
  split
  · next cleared =>
    refine mwp_throwing.mpr ⟨rfl, ⟨_, rfl⟩,
      ⟨fd, asynchronousCloseException, ?_, by simp, by simp [cleared]⟩, rfl⟩
    rw [quietly]
    rfl
  · next cleared =>
    apply mwp_mono (throws _ env quietly)
    rintro h' env' x ⟨rfl, ⟨t, rfl⟩, memory, e, raised, other⟩
    exact ⟨rfl, ⟨_, List.append_assoc _ _ _⟩,
      ⟨fd, e, raised, by simp, by simp [other, cleared]⟩, memory⟩

theorem release_calls {handle : ℤ} (created : (⟨.CreateEventA, handle⟩ : Event winApi) ∈ h) :
    borrowing h env (release handle) fun h' env' x =>
      x = .ok () ∧ (∃ r, h' = h ++ [⟨.CloseHandle handle, r⟩]) ∧ env' = env :=
  borrowing_ask (allowed_event rfl rfl created) fun r => Method.mwp_pure.mpr ⟨rfl, ⟨r, rfl⟩, rfl⟩

/-- `throw ..; CloseHandle(..); return result;` -/
theorem fail_release {α : Type} {otherwise : Native Unit} {handle result : ℤ}
    (throws : Throws otherwise) (quietly : env.raised = [])
    (created : (⟨.CreateEventA, handle⟩ : Event winApi) ∈ h) : borrowing h env (do
      closedOr otherwise
      release handle
      leave result : Native α) (Failing h env (.error result)) := by
  refine Method.mwp_seq (closedOr_fails throws quietly) (by simp [Failing]) ?_
  rintro h' env' u ⟨-, ⟨t, rfl⟩, fails, memory⟩
  refine Method.mwp_seq (release_calls (List.mem_append_left _ created)) (by simp) ?_
  rintro h' env'' u ⟨-, ⟨r, rfl⟩, rfl⟩
  exact Method.mwp_raise.mpr ⟨rfl, ⟨_, List.append_assoc _ _ _⟩, fails.append _, memory⟩

/-- `CloseHandle(..); throw ..; return result;` -/
theorem release_fail {α : Type} {otherwise : Native Unit} {handle result : ℤ}
    (throws : Throws otherwise) (quietly : env.raised = [])
    (created : (⟨.CreateEventA, handle⟩ : Event winApi) ∈ h) : borrowing h env (do
      release handle
      closedOr otherwise
      leave result : Native α) (Failing h env (.error result)) := by
  refine Method.mwp_seq (release_calls created) (by simp) ?_
  rintro h' env'' u ⟨-, ⟨r, rfl⟩, rfl⟩
  refine Method.mwp_seq (closedOr_fails throws quietly) (by simp [Failing]) ?_
  rintro h' env' u ⟨-, ⟨t, rfl⟩, fails, memory⟩
  exact Method.mwp_raise.mpr ⟨rfl, ⟨_, List.append_assoc _ _ _⟩, fails, memory⟩

/-- `throw ..; return result;` -/
theorem fail_leave {α : Type} {otherwise : Native Unit} {result : ℤ} (throws : Throws otherwise)
    (quietly : env.raised = []) : borrowing h env (do
      closedOr otherwise
      leave result : Native α) (Failing h env (.error result)) := by
  refine Method.mwp_seq (closedOr_fails throws quietly) (by simp [Failing]) ?_
  rintro h' env' u ⟨-, ⟨t, rfl⟩, rest⟩
  exact Method.mwp_raise.mpr ⟨rfl, ⟨t, rfl⟩, rest⟩

/-- What is waited for: the call goes on with a transfer that was taken on, or fails. -/
def Awaited (h : History winApi) (env : Env) (started : Except ℕ Unit)
    (h' : History winApi) (env' : Env) (x : Except ℤ Unit) : Prop :=
  (∃ t, h' = h ++ t) ∧ x = .ok () ∧ env' = env ∧ ¬Refused started ∨
    Failing h env (.error 0) h' env' x

theorem not_refused_ok : ¬Refused (.ok ()) := by
  rintro ⟨errno, ⟨⟩, -⟩

theorem not_refused_pending {errno : ℕ} (pending : errno = ERROR_IO_PENDING) :
    ¬Refused (.error errno) := by
  rintro ⟨errno', ⟨⟩, other⟩
  exact other pending

/-- A failure after some requests. -/
theorem Failing.after {α : Type} {x x' : Except ℤ α} {h' : History winApi}
    {env' : Env} {ev : Event winApi} (failing : Failing (h ++ [ev]) env x h' env' x') :
    Failing h env x h' env' x' := by
  obtain ⟨same, ⟨t, rfl⟩, rest⟩ := failing
  exact ⟨same, ⟨_, List.append_assoc _ _ _⟩, rest⟩

theorem awaitRead_calls (quietly : env.raised = []) (started : Except ℕ Unit)
    (created : (⟨.CreateEventA, hEvent⟩ : Event winApi) ∈ h) :
    borrowing h env (awaitRead hEvent started) (Awaited h env started) := by
  cases started with
  | ok =>
      exact Method.mwp_pure.mpr (.inl ⟨⟨[], (List.append_nil h).symm⟩, rfl, rfl, not_refused_ok⟩)
  | error errno =>
      rw [awaitRead]
      split
      · have throws : Throws
          (throwing (WinSocket.nativeError errno "Error readBytes(GetLastError)")) :=
          throwing_throws (by simp [WinSocket.nativeError])
        exact mwp_mono (fail_release throws quietly created) fun _ _ _ failing => .inr failing
      · next pending =>
        refine borrowing_ask (allowed_event rfl rfl created) fun waited => ?_
        split
        · have created := List.mem_append_left [⟨.WaitForSingleObject hEvent, waited⟩] created
          exact mwp_mono (fail_release (throwNative_throws _) quietly created)
            fun _ _ _ failing => .inr failing.after
        · exact Method.mwp_pure.mpr
            (.inl ⟨⟨_, rfl⟩, rfl, rfl, not_refused_pending (not_not.mp pending)⟩)

theorem awaitWrite_calls (quietly : env.raised = []) (started : Except ℕ Unit)
    (created : (⟨.CreateEventA, hEvent⟩ : Event winApi) ∈ h) :
    borrowing h env (awaitWrite errnoText hEvent started) (Awaited h env started) := by
  cases started with
  | ok =>
      exact Method.mwp_pure.mpr (.inl ⟨⟨[], (List.append_nil h).symm⟩, rfl, rfl, not_refused_ok⟩)
  | error errno =>
      rw [awaitWrite]
      split
      · exact mwp_mono (release_fail (throwInterrupted_throws _ _) quietly created)
          fun _ _ _ failing => .inr failing
      · next pending =>
        refine borrowing_ask (allowed_event rfl rfl created) fun waited => ?_
        split
        · have created := List.mem_append_left [⟨.WaitForSingleObject hEvent, waited⟩] created
          exact mwp_mono (release_fail (throwInterrupted_throws _ _) quietly created)
              fun _ _ _ failing =>
            .inr failing.after
        · exact Method.mwp_pure.mpr
            (.inl ⟨⟨_, rfl⟩, rfl, rfl, not_refused_pending (not_not.mp pending)⟩)

theorem Fails.raised {raised : List JavaException} (fails : Fails h raised) : raised ≠ [] := by
  obtain ⟨fd, e, rfl, -⟩ := fails
  exact List.cons_ne_nil _ _

/-- A call that fails after its transfer was taken on. -/
theorem Reported.failed {call : NativeCall} {x : Except ℤ ℤ}
    (fails : Fails h env.raised) (begun : Begun h) :
    Reported call h env x :=
  ⟨.inr fails, fun _ => begun, .inr begun⟩

/-- A call whose transfer was not taken on. -/
theorem Reported.refused {call : NativeCall} (fails : Fails h env.raised)
    (memory : env.buff = call.memory) :
    Reported call h env (.error 0) :=
  ⟨.inr fails, fun going => going.elim (fun quietly => absurd quietly fails.raised)
    fun other => absurd rfl other, .inl memory⟩

theorem readBuffer_reports (errnoText : Errno → String) (len : ℕ) (errno : Errno)
    (memory : List UInt8) :
    borrowing [] ⟨[], errno, memory⟩ (readBuffer errnoText len)
      (Reported (.readBuffer len errno memory)) := by
  refine borrowing_ask (allowed_nothing rfl rfl) fun hFile =>
    borrowing_ask (allowed_nothing rfl rfl) fun hEvent => ?_
  refine borrowing_ask
    (allowed_transfer rfl rfl (by simp) (by simp)) fun started => Method.mwp_bind.mpr ?_
  apply mwp_mono (awaitRead_calls rfl started (by simp))
  rintro h env x (⟨⟨t, rfl⟩, rfl, rfl, good⟩ | ⟨rfl, -, fails, same⟩)
  · refine borrowing_ask (allowed_transfer rfl rfl (by simp) (by simp)) fun result => ?_
    obtain ⟨finished, bytes⟩ := result
    refine Method.mwp_bind.mpr (Method.mwp_assign.mpr (Method.rest_ok.mpr ?_))
    refine Method.mwp_seq (release_calls (by simp)) (by simp) ?_
    rintro h env u ⟨-, ⟨r, rfl⟩, rfl⟩
    have begun : Begun ([] ++ [⟨.getFd, hFile⟩] ++ [⟨.CreateEventA, hEvent⟩] ++
      [⟨.ReadFile hFile hEvent len, started⟩]) :=
      ⟨hFile, by simp, .inl ⟨hEvent, len, started, by simp, good⟩⟩
    have begun :=
      ((begun.append t).append [⟨.overlappedRead hFile hEvent len, (finished, bytes)⟩]).append
      [⟨.CloseHandle hEvent, r⟩]
    split
    · apply mwp_mono (fail_leave (throwInterrupted_throws _ _) rfl)
      rintro h' env x ⟨rfl, ⟨t', rfl⟩, fails, -⟩
      exact .failed fails (begun.append t')
    split
    · next finished' some_came =>
      obtain rfl : finished = true := Bool.not_eq_false _ ▸ finished'
      refine Method.mwp_pure.mpr ⟨.inl ⟨rfl, ?_⟩, fun _ => begun, .inr begun⟩
      exact ⟨hFile, hEvent, bytes, by simp, some_came, rfl, rfl⟩
    · apply mwp_mono (fail_leave (throwing_throws (by simp)) rfl)
      rintro h' env x ⟨rfl, ⟨t', rfl⟩, fails, -⟩
      exact .failed fails (begun.append t')
  · exact .refused fails same

theorem writeBuffer_reports (errnoText : Errno → String) (buff : List UInt8) (errno : Errno) :
    borrowing [] ⟨[], errno, []⟩ (writeBuffer errnoText buff)
      (Reported (.writeBuffer buff errno)) := by
  refine borrowing_ask (allowed_nothing rfl rfl) fun hFile =>
    borrowing_ask (allowed_nothing rfl rfl) fun hEvent => ?_
  refine borrowing_ask
    (allowed_transfer rfl rfl (by simp) (by simp)) fun started => Method.mwp_bind.mpr ?_
  apply mwp_mono (awaitWrite_calls rfl started (by simp))
  rintro h env x (⟨⟨t, rfl⟩, rfl, rfl, good⟩ | ⟨rfl, -, fails, same⟩)
  · refine borrowing_ask (allowed_transfer rfl rfl (by simp) (by simp)) fun result => ?_
    obtain ⟨finished, written⟩ := result
    refine Method.mwp_seq (release_calls (by simp)) (by simp) ?_
    rintro h env u ⟨-, ⟨r, rfl⟩, rfl⟩
    have begun : Begun ([] ++ [⟨.getFd, hFile⟩] ++ [⟨.CreateEventA, hEvent⟩] ++
      [⟨.WriteFile hFile hEvent buff, started⟩]) :=
      ⟨hFile, by simp, .inr ⟨hEvent, buff, started, by simp, good⟩⟩
    have begun := ((begun.append t).append
      [⟨.overlappedWrite hFile hEvent buff.length, (finished, written)⟩]).append
      [⟨.CloseHandle hEvent, r⟩]
    split
    · apply mwp_mono (fail_leave (throwInterrupted_throws _ _) rfl)
      rintro h' env x ⟨rfl, ⟨t', rfl⟩, fails, -⟩
      exact .failed fails (begun.append t')
    split
    · apply mwp_mono (fail_leave (writtenShort_throws _) rfl)
      rintro h' env x ⟨rfl, ⟨t', rfl⟩, fails, -⟩
      exact .failed fails (begun.append t')
    · next finished' complete =>
      obtain rfl : finished = true := Bool.not_eq_false _ ▸ finished'
      have all : written.val = buff.length := not_not.mp complete
      refine Method.mwp_pure.mpr ⟨.inl ⟨rfl, ?_⟩, fun _ => begun, .inr begun⟩
      exact ⟨hFile, hEvent, written, by simp, all, by rw [all]⟩
  · exact .refused fails same

end Calls

section Runs
variable {ι : Type} [DecidableEq ι] {errnoText : Errno → String} {σ σ' : Handles}
  {calls : ι → NativeCall} {t : Interleaved (Option ι) (fun _ => winApi) Outcome Handles}

/-- The closer has cleared the field. -/
def Marked (h : History winApi) : Prop := (⟨.setFd INVALID_HANDLE_VALUE, ()⟩ : Event winApi) ∈ h

/-- The call `i` runs after the field was cleared, which is for good. -/
def Late (i : ι) (s : Interleaved (Option ι) (fun _ => winApi) Outcome Handles) :
    Option (Interleaved.Label fun _ : Option ι => winApi) → Prop
  | some ⟨some j, _⟩ => j = i → Marked (s.record none)
  | some ⟨none, ⟨.setFd value, _⟩⟩ => value = INVALID_HANDLE_VALUE
  | _ => True

/-- The call has found the field cleared, and nothing that the system would take on. -/
structure Denied (h : History winApi) : Prop where
  fields : ∀ fd, (⟨.getFd, fd⟩ : Event winApi) ∈ h → fd = INVALID_HANDLE_VALUE
  named : ∀ ev ∈ h, (∀ hFile ∈ ports ev.1, hFile = INVALID_HANDLE_VALUE) ∧
    ∀ hEvent ∈ events ev.1, (⟨.CreateEventA, hEvent⟩ : Event winApi) ∈ h
  reads : ∀ hEvent len r,
    (⟨.ReadFile INVALID_HANDLE_VALUE hEvent len, r⟩ : Event winApi) ∈ h → Refused r
  writes : ∀ hEvent buff r, (⟨.WriteFile INVALID_HANDLE_VALUE hEvent buff, r⟩ : Event winApi) ∈ h →
    Refused r

def askOf : Option ι → History winApi → Prop
  | none => fun _ => True
  | some _ => Borrows

def reportOf (calls : ι → NativeCall) : (i : Option ι) → History winApi → Outcome i → Prop
  | none => fun _ _ => True
  | some i => fun h y => Reported (calls i) h y.2 y.1

omit [DecidableEq ι] in
theorem reports (errnoText : Errno → String) (σ : Handles) (calls : ι → NativeCall) (i : Option ι) :
    wp (askOf i) [] ((sharing errnoText σ calls).program i) (reportOf calls i) := by
  cases i with
  | none => exact wp_mono (wp_forget (implCloseChannel_law rfl)) fun _ _ _ => trivial
  | some i =>
      have reports : ∀ call : NativeCall, wp Borrows [] (call.program errnoText) fun h y =>
          Reported call h y.2 y.1 := by
        intro call
        cases call with
        | readBuffer len errno memory => exact readBuffer_reports errnoText len errno memory
        | writeBuffer buff errno => exact writeBuffer_reports errnoText buff errno
      exact reports (calls i)

/-- Only the closer sets the field. -/
theorem field_of_call {h : History winApi} {ev : Event winApi} (firm : Firm handling (h ++ [ev]))
    (answer : σ.answers ev σ') : σ'.fd = σ.fd := by
  have allowed := firm.allowed
  obtain ⟨e, r⟩ := ev
  cases e with
  | CreateEventA => rcases answer with ⟨-, rfl⟩ | ⟨-, rfl⟩ <;> rfl
  | CloseHandle handle =>
      cases r with
      | ok =>
          obtain rfl : σ' = σ.close handle := answer
          exact Handles.close_fd
      | error errno =>
          obtain rfl : σ' = σ.touch handle := answer
          exact Handles.touch_fd
  | setFd value => exact absurd rfl allowed
  | setCleanerFd value => exact absurd rfl allowed
  | CreateFile name => exact absurd rfl allowed
  | CancelIo hFile => exact absurd rfl allowed
  | _ => rw [answers_quiet rfl answer]

/-- The closer sets the field by a request for it. -/
theorem field_of_closer {h : History winApi} {ev : Event winApi} (law : CloserLaw (h ++ [ev]))
    (answer : σ.answers ev σ') :
    σ'.fd = σ.fd ∨ ∃ value, ev = ⟨.setFd value, ()⟩ ∧ σ'.fd = value := by
  have next : Next h ev := law h ev rfl
  obtain ⟨e, r⟩ := ev
  cases e with
  | getFd => rw [answer.2]; exact .inl rfl
  | setFd value =>
      obtain rfl : σ' = { σ with fd := value } := answer
      exact .inr ⟨value, rfl, rfl⟩
  | CancelIo hFile =>
      obtain rfl : σ' = σ.touch hFile := answer
      exact .inl Handles.touch_fd
  | CloseHandle handle =>
      cases r with
      | ok =>
          obtain rfl : σ' = σ.close handle := answer
          exact .inl Handles.close_fd
      | error errno =>
          obtain rfl : σ' = σ.touch handle := answer
          exact .inl Handles.touch_fd
  | setCleanerFd value =>
      obtain rfl : σ' = { σ with cleanerFd := value } := answer
      exact .inl rfl
  | _ => exact absurd next id

/-- What stands for no handle is never open. -/
theorem invalid_answers {ev : Event winApi} (invalid : σ.opened INVALID_HANDLE_VALUE = false)
    (answer : σ.answers ev σ') : σ'.opened INVALID_HANDLE_VALUE = false := by
  have obtained : ∀ handle, σ.Fresh handle →
    (σ.obtain handle).opened INVALID_HANDLE_VALUE = false :=
    fun handle fresh =>
      (Function.update_of_ne (fun invalid => fresh.2 (.inl invalid.symm)) _ _).trans invalid
  obtain ⟨e, r⟩ := ev
  cases e with
  | CreateEventA =>
      rcases answer with ⟨-, rfl⟩ | ⟨fresh, rfl⟩
      · exact invalid
      · exact obtained _ fresh
  | CreateFile name =>
      cases r with
      | ok hFile =>
          obtain ⟨fresh, rfl⟩ := answer
          exact obtained _ fresh
      | error errno =>
          obtain rfl : σ' = σ := answer
          exact invalid
  | CloseHandle handle =>
      cases r with
      | ok =>
          obtain rfl : σ' = σ.close handle := answer
          exact Inventory.close_shut invalid
      | error errno =>
          obtain rfl : σ' = σ.touch handle := answer
          rw [Handles.touch_opened]
          exact invalid
  | CancelIo hFile =>
      obtain rfl : σ' = σ.touch hFile := answer
      rw [Handles.touch_opened]
      exact invalid
  | setFd value =>
      obtain rfl : σ' = { σ with fd := value } := answer
      exact invalid
  | setCleanerFd value =>
      obtain rfl : σ' = { σ with cleanerFd := value } := answer
      exact invalid
  | _ => rw [answers_quiet rfl answer]; exact invalid

theorem Marked.append {h : History winApi} (marked : Marked h) (t : History winApi) :
    Marked (h ++ t) :=
  List.mem_append_left _ marked

theorem marked_set {h : History winApi} : Marked (h ++ [⟨.setFd INVALID_HANDLE_VALUE, ()⟩]) :=
  List.mem_append_right _ (List.mem_singleton_self _)

/-- A cleared field is the work of the closer. -/
structure Truthful (σ : Handles) (record : Option ι → History winApi) : Prop where
  field : ¬Marked (record none) → σ.fd ≠ INVALID_HANDLE_VALUE
  found : ∀ i, (⟨.getFd, INVALID_HANDLE_VALUE⟩ : Event winApi) ∈ record (some i) →
    Marked (record none)

theorem reached_truthful (valid : σ.fd ≠ INVALID_HANDLE_VALUE)
    (reached : Interleaved.Reached (sharing errnoText σ calls) (fun _ _ => True) t) :
    Truthful t.shared t.record := by
  refine reached.invariant (laws errnoText σ calls) Truthful ⟨fun _ => valid, by simp⟩ ?_
  intro t i ev shared _ before _ law answer
  cases i with
  | none =>
      constructor
      · rw [Function.update_self]
        intro unmarked
        rcases field_of_closer law answer with same | ⟨value, rfl, set⟩
        · rw [same]
          exact before.field fun marked => unmarked (marked.append _)
        · rw [set]
          rintro rfl
          exact unmarked marked_set
      · intro i member
        rw [Function.update_self]
        rw [Function.update_of_ne (Option.some_ne_none i)] at member
        exact (before.found i member).append _
  | some i =>
      constructor
      · rw [Function.update_of_ne (Option.some_ne_none i).symm, field_of_call law answer]
        exact before.field
      · intro j member
        rw [Function.update_of_ne (Option.some_ne_none i).symm]
        by_cases same : j = i
        · subst same
          rw [Function.update_self] at member
          rcases List.mem_append.mp member with old | new
          · exact before.found j old
          · cases List.mem_singleton.mp new
            by_contra unmarked
            exact before.field unmarked answer.1.symm
        · rw [Function.update_of_ne fun eq => same (Option.some.inj eq)] at member
          exact before.found j member

/-- What a late call finds. -/
structure Refusing (i : ι) (σ : Handles) (record : Option ι → History winApi) : Prop where
  field : Marked (record none) → σ.fd = INVALID_HANDLE_VALUE
  invalid : σ.opened INVALID_HANDLE_VALUE = false
  denied : Denied (record (some i))

theorem Denied.snoc {h : History winApi} {ev : Event winApi} (denied : Denied h)
    (allowed : Allowed h ev.1) (fd : σ.fd = INVALID_HANDLE_VALUE)
    (invalid : σ.opened INVALID_HANDLE_VALUE = false) (answer : σ.answers ev σ') :
    Denied (h ++ [ev]) := by
  constructor
  case fields =>
    intro fd' member
    rcases List.mem_append.mp member with old | new
    · exact denied.fields fd' old
    · cases List.mem_singleton.mp new
      exact answer.1.trans fd
  case named =>
    intro ev' member
    rcases List.mem_append.mp member with old | new
    · obtain ⟨ports, events⟩ := denied.named ev' old
      exact ⟨ports, fun hEvent named => List.mem_append_left _ (events hEvent named)⟩
    · obtain rfl := List.mem_singleton.mp new
      exact ⟨fun hFile named => denied.fields hFile (allowed.ports hFile named),
        fun hEvent named => List.mem_append_left _ (allowed.events hEvent named)⟩
  case reads =>
    intro hEvent len r member
    rcases List.mem_append.mp member with old | new
    · exact denied.reads hEvent len r old
    · cases List.mem_singleton.mp new
      exact answer.1 invalid
  case writes =>
    intro hEvent buff r member
    rcases List.mem_append.mp member with old | new
    · exact denied.writes hEvent buff r old
    · cases List.mem_singleton.mp new
      exact answer.1 invalid

theorem reached_refusing (invalid : σ.opened INVALID_HANDLE_VALUE = false) {i : ι}
    (reached : Interleaved.Reached (sharing errnoText σ calls) (Late i) t) :
    Refusing i t.shared t.record := by
  have unmarked : ¬Marked ([] : History winApi) := List.not_mem_nil
  refine reached.invariant (fun i =>
    wp_both (laws errnoText σ calls i) (reports errnoText σ calls i)) (Refusing i) ⟨fun marked =>
    absurd marked unmarked, invalid, ⟨by simp, by simp, by simp, by simp⟩⟩ ?_
  rintro t j ev shared - before late ⟨law, asks⟩ answer
  have invalid := invalid_answers before.invalid answer
  cases j with
  | none =>
      refine ⟨?_, invalid, ?_⟩
      · rw [Function.update_self]
        intro marked
        rcases field_of_closer law answer with same | ⟨value, rfl, set⟩
        · rw [same]
          rcases List.mem_append.mp marked with old | new
          · exact before.field old
          · cases List.mem_singleton.mp new
            rw [← same, show shared = { t.shared with fd := INVALID_HANDLE_VALUE } from answer]
        · rw [set]
          exact late
      · rw [Function.update_of_ne (Option.some_ne_none i)]
        exact before.denied
  | some j =>
      refine ⟨?_, invalid, ?_⟩
      · rw [Function.update_of_ne (Option.some_ne_none j).symm, field_of_call law answer]
        exact before.field
      · by_cases same : j = i
        · subst same
          rw [Function.update_self]
          have borrows : Borrows (t.record (some j) ++ [ev]) := asks
          exact before.denied.snoc (borrows _ ev rfl)
            (before.field (late rfl)) before.invalid answer
        · rw [Function.update_of_ne fun eq => same (Option.some.inj eq).symm]
          exact before.denied

theorem Denied.unbegun {h : History winApi} (denied : Denied h) : ¬Begun h := by
  rintro ⟨hFile, read, taken⟩
  obtain rfl := denied.fields hFile read
  rcases taken with ⟨hEvent, len, r, member, good⟩ | ⟨hEvent, buff, r, member, good⟩
  · exact good (denied.reads hEvent len r member)
  · exact good (denied.writes hEvent buff r member)

/-- A call whose transfer was denied tells of the close, and of no bytes. -/
theorem Reported.denied {call : NativeCall} {h : History winApi} {env : Env} {x : Except ℤ ℤ}
    (reported : Reported call h env x) (denied : Denied h) :
    env.raised = [asynchronousCloseException] ∧ returned x = 0 ∧ env.buff = call.memory := by
  have unbegun := denied.unbegun
  have fails := reported.ends.resolve_left fun done => unbegun (reported.begun (.inl done.1))
  obtain ⟨fd, e, raised, member, reason⟩ := fails
  refine ⟨by rw [raised,
    reason.mpr (denied.fields fd member)], ?_, reported.memory.resolve_right unbegun⟩
  by_contra other
  exact unbegun (reported.begun (.inr other))

/-- However reads, writes and one close overlap: a call that returns has done its work, or has
thrown once, and told of a close only if the field was cleared by then; and every call that
begins once the field is cleared for good names no port and no event but its own, leaves the
memory as it was, and tells of the close. -/
theorem closing_reported (errnoText : Errno → String) (σ : Handles) (calls : ι → NativeCall)
    (valid : σ.fd ≠ INVALID_HANDLE_VALUE) (invalid : σ.opened INVALID_HANDLE_VALUE = false) :
    (∀ t, Interleaved.Reached (sharing errnoText σ calls) (fun _ _ => True) t → ∀ i x env,
      t.thread (some i) = .pure (x, env) →
        env.raised = [] ∧ (calls i).Done (t.record (some i)) env x ∨
          ∃ e, env.raised = [e] ∧ (e = asynchronousCloseException → Marked (t.record none))) ∧
    ∀ i t, Interleaved.Reached (sharing errnoText σ calls) (Late i) t →
      (∀ ev ∈ t.record (some i), (∀ hFile ∈ ports ev.1, hFile = INVALID_HANDLE_VALUE) ∧
        ∀ hEvent ∈ events ev.1, (⟨.CreateEventA, hEvent⟩ : Event winApi) ∈ t.record (some i)) ∧
      ∀ x env, t.thread (some i) = .pure (x, env) →
        env.raised = [asynchronousCloseException] ∧ returned x = 0 ∧
          env.buff = (calls i).memory := by
  constructor
  · intro t reached i x env done
    have reported : Reported (calls i) (t.record (some i)) env x :=
      reached.returned (reports errnoText σ calls) done
    refine reported.ends.imp_right ?_
    rintro ⟨fd, e, raised, member, reason⟩
    refine ⟨e, raised, fun close => (reached_truthful valid reached).found i ?_⟩
    rw [← reason.mp close]
    exact member
  · intro i t reached
    have denied := (reached_refusing invalid reached).denied
    refine ⟨denied.named, fun x env done => ?_⟩
    have reported : Reported (calls i) (t.record (some i)) env x :=
      reached.returned (reports errnoText σ calls) done
    exact reported.denied denied

end Runs

/-- A read that begins while the port is being closed. -/
theorem closing_reported_late :
    ∃ t : Interleaved (Option Unit) (fun _ => winApi) Outcome Handles, ∃ x env,
    t.thread (some ()) = .pure (x, env) ∧ env.raised = [asynchronousCloseException] ∧
      returned x = 0 ∧ env.buff = [] := by
  have fresh : Interleaved.Reached (sharing Errno.getErrnoSymbol com3Opened oneRead) (Late ()) _ :=
    .start
  have marked :=
    (fresh.ask (i := none) rfl (3 : ℤ) ⟨rfl, rfl⟩ trivial).ask (i := none) rfl () rfl rfl
  have late : Marked ([⟨.getFd, (3 : ℤ)⟩] ++ [⟨.setFd INVALID_HANDLE_VALUE, ()⟩]) := marked_set
  have created := (marked.ask (i := some ()) rfl INVALID_HANDLE_VALUE ⟨rfl,
    rfl⟩ (fun _ => late)).ask (i :=
    some ()) rfl (4 : ℤ) (.inr ⟨⟨rfl, by decide⟩, rfl⟩) (fun _ => late)
  have refused :=
    created.ask (i := some ()) rfl (.error 6) ⟨fun _ => ⟨6, rfl, by decide⟩, rfl⟩ (fun _ => late)
  have told := (refused.ask (i := some ()) rfl INVALID_HANDLE_VALUE ⟨rfl, rfl⟩ (fun _ => late)).ask
    (i := some ()) rfl (.ok ()) rfl (fun _ => late)
  obtain ⟨t, reached, x, env, done⟩ : ∃ t,
      Interleaved.Reached (sharing Errno.getErrnoSymbol com3Opened oneRead) (Late ()) t ∧
      ∃ x env, t.thread (some ()) = .pure (x, env) := ⟨_, told, _, _, rfl⟩
  have late :=
    (closing_reported Errno.getErrnoSymbol com3Opened oneRead (by decide) rfl).2 () t reached
  exact ⟨t, x, env, done, late.2 x env done⟩

end Spsw.Jni.WinApiIO

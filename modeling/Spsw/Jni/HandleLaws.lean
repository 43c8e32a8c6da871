import Spsw.Jni.Handles

/-!
# What the native calls do with handles

A read or a write holds one event at a time. The socket is closed by a call that closes
only what it has read from the field, and that once.
-/
namespace Spsw.Jni.WinApiIO
open Interaction
open Interaction.Method (mwp mwp_mono Passes)
open Jnhw (Errno INVALID_HANDLE_VALUE)

/-- Calls do not close the port, nor set the fields. -/
def handling : Event winApi → Handling ℤ
  | ⟨.CreateEventA, hEvent⟩ => .takes hEvent
  | ⟨.CloseHandle handle, _⟩ => .gives handle
  | ⟨.setFd _, _⟩ | ⟨.setCleanerFd _, _⟩ | ⟨.CreateFile _, _⟩ | ⟨.CancelIo _, _⟩ => .forbidden
  | _ => .nothing

section Calls
variable {grip : Grip ℤ} {errnoText : Errno → String}

theorem leave_passes {α : Type} (result : ℤ) :
    Passes handling .empty grip (leave result : Native α) := .raise _

theorem throwing_passes (e : JavaException) : Passes handling grip grip (throwing e) := .assign _

theorem throwInterrupted_passes (bytesTransferred : ℤ) (msg : String) :
    Passes handling grip grip
      (throw_InterruptedIOExceptionWithError errnoText bytesTransferred msg) :=
  .bind .locals fun _ => throwing_passes _

/-- Requests that leave the hand alone. -/
def quiet : Request → Bool
  | .CreateEventA | .CloseHandle _ | .setFd _ | .setCleanerFd _ | .CreateFile _ | .CancelIo _ =>
      false
  | _ => true

theorem ask_passes {e : Request} (own : quiet e = true) (unbroken : grip ≠ .broken) :
    Passes handling grip grip (ask e) := by
  refine .request (fun r => ?_) unbroken
  cases e <;> first | rfl | cases own

theorem throwNative_passes (msg : String) (unbroken : grip ≠ .broken) :
    Passes handling grip grip (throw_IOException_NativeError msg) :=
  .bind (ask_passes rfl unbroken) fun _ => throwing_passes _

theorem closedOr_passes {otherwise : Native Unit} (passes : Passes handling grip grip otherwise)
    (unbroken : grip ≠ .broken) : Passes handling grip grip (closedOr otherwise) :=
  .bind (ask_passes rfl unbroken) fun _ => .ite (throwing_passes _) passes

theorem release_passes (handle : ℤ) : Passes handling (.holds handle) .empty (release handle) :=
  .bind (.give fun _ => rfl) fun _ => .pure _

theorem awaitRead_passes (hEvent : ℤ) (started : Except ℕ Unit) :
    Passes handling (.holds hEvent) (.holds hEvent) (awaitRead hEvent started) := by
  cases started with
  | ok => exact .pure _
  | error errno =>
      refine .ite ?_ (.bind (ask_passes rfl (by simp)) fun waited => .ite ?_ (.pure _))
      · refine .bind (closedOr_passes (throwing_passes _) (by simp)) fun _ => ?_
        exact .bind (release_passes _) fun _ => leave_passes _
      · refine .bind (closedOr_passes (throwNative_passes _ (by simp)) (by simp)) fun _ => ?_
        exact .bind (release_passes _) fun _ => leave_passes _

theorem readBuffer_passes (errnoText : Errno → String) (len : ℕ) :
    Passes handling .empty .empty (readBuffer errnoText len) := by
  refine .bind (ask_passes rfl (by simp)) fun hFile => .take (fun _ => rfl) fun hEvent => ?_
  refine .bind (ask_passes rfl
    (by simp)) fun started => .bind (awaitRead_passes _ started) fun _ => ?_
  refine .bind (ask_passes rfl (by simp)) fun result => .bind (.assign _) fun _ => ?_
  refine .bind (release_passes _) fun _ => .ite ?_ (.ite (.pure _) ?_)
  · exact .bind (closedOr_passes (throwInterrupted_passes _ _) (by simp)) fun _ => leave_passes _
  · exact .bind (closedOr_passes (throwing_passes _) (by simp)) fun _ => leave_passes _

theorem awaitWrite_passes (hEvent : ℤ) (started : Except ℕ Unit) :
    Passes handling (.holds hEvent) (.holds hEvent) (awaitWrite errnoText hEvent started) := by
  have gives_up : ∀ msg, Passes handling (.holds hEvent) (.holds hEvent) (do
      release hEvent
      closedOr (throw_InterruptedIOExceptionWithError errnoText 0 msg)
      leave 0 : Native Unit) := fun msg =>
    .bind (release_passes _) fun _ =>
        .bind (closedOr_passes (throwInterrupted_passes _ _) (by simp)) fun _ =>
      leave_passes _
  cases started with
  | ok => exact .pure _
  | error errno => exact .ite (gives_up _) (.bind
      (ask_passes rfl (by simp)) fun waited => .ite (gives_up _) (.pure _))

theorem writeBuffer_passes (errnoText : Errno → String) (buff : List UInt8) :
    Passes handling .empty .empty (writeBuffer errnoText buff) := by
  refine .bind (ask_passes rfl (by simp)) fun hFile => .take (fun _ => rfl) fun hEvent => ?_
  refine .bind (ask_passes rfl
    (by simp)) fun started => .bind (awaitWrite_passes _ started) fun _ => ?_
  refine .bind (ask_passes rfl (by simp)) fun result => .bind (release_passes _) fun _ => ?_
  refine .ite ?_ (.ite ?_ (.pure _))
  · exact .bind (closedOr_passes (throwInterrupted_passes _ _) (by simp)) fun _ => leave_passes _
  · refine .bind (closedOr_passes ?_ (by simp)) fun _ => leave_passes _
    exact .bind (ask_passes rfl
      (by simp)) fun _ => .ite (throwing_passes _) (throwInterrupted_passes _ _)

end Calls

section Closer

/-- What the call that closes may do next. -/
def Next (h : History winApi) : Event winApi → Prop
  | ⟨.getFd, _⟩ => h = []
  | ⟨.setFd value, _⟩ => value = INVALID_HANDLE_VALUE ∨ (⟨.getFd, value⟩ : Event winApi) ∈ h
  | ⟨.CancelIo handle, _⟩ => (⟨.getFd, handle⟩ : Event winApi) ∈ h ∧
      ∀ other r, (⟨.CloseHandle other, r⟩ : Event winApi) ∉ h
  | ⟨.CloseHandle handle, _⟩ => (⟨.getFd, handle⟩ : Event winApi) ∈ h ∧
      ∀ other r, (⟨.CloseHandle other, r⟩ : Event winApi) ∉ h
  | ⟨.setCleanerFd value, _⟩ => value = INVALID_HANDLE_VALUE
  | _ => False

def CloserLaw (h : History winApi) : Prop := ∀ t ev, h = t ++ [ev] → Next t ev

theorem closerLaw_snoc {h : History winApi} {ev : Event winApi} (next : Next h ev) :
    CloserLaw (h ++ [ev]) := by
  intro t ev' same
  obtain ⟨rfl, last⟩ := List.append_inj' same rfl
  obtain rfl := List.singleton_inj.mp last
  exact next

/-- How the call that closes ends: the port was closed and the cleaner knows, or neither. -/
def CloserEnd (h : History winApi) (env : TermiosIO.Env) : Prop :=
  if env.raised = [] then (∃ hFile, (⟨.CloseHandle hFile, .ok ()⟩ : Event winApi) ∈ h) ∧
    (⟨.setCleanerFd INVALID_HANDLE_VALUE, ()⟩ : Event winApi) ∈ h
  else (∀ hFile, (⟨.CloseHandle hFile, .ok ()⟩ : Event winApi) ∉ h) ∧
    ∀ value, (⟨.setCleanerFd value, ()⟩ : Event winApi) ∉ h

variable {h : History winApi} {env : TermiosIO.Env}

theorem mwp_ask {I : History winApi → Prop} {e : Request}
    {post : History winApi → TermiosIO.Env → Except ℤ (Answer e) → Prop} :
    mwp I h env (ask e) post ↔ ∀ r :
      Answer e, I (h ++ [⟨e, r⟩]) ∧ post (h ++ [⟨e, r⟩]) env (.ok r) :=
  Method.mwp_request

theorem mwp_ask_bind {α : Type} {I : History winApi → Prop} {e : Request} {f : Answer e → Native α}
    {post : History winApi → TermiosIO.Env → Except ℤ α → Prop}
    (next : ∀ r : Answer e, I (h ++ [⟨e, r⟩]) ∧ mwp I (h ++ [⟨e, r⟩]) env (f r) post) :
    mwp I h env (ask e >>= f) post :=
  Method.mwp_bind.mpr (mwp_ask.mpr next)

theorem mwp_throwing {I : History winApi → Prop} {e : JavaException}
    {post : History winApi → TermiosIO.Env → Except ℤ Unit → Prop} :
    mwp I h env (throwing e) post ↔ post h { env with raised := env.raised ++ [e] } (.ok ()) :=
  Method.mwp_assign

/-- `close0` has returned: the port was closed without an exception, or not closed. -/
def ClosedBy (h : History winApi) (env : TermiosIO.Env) (x : Except ℤ Unit) : Prop :=
  x = .ok () ∧ (∀ value, (⟨.setCleanerFd value, ()⟩ : Event winApi) ∉ h) ∧
    if env.raised = [] then ∃ hFile, (⟨.CloseHandle hFile, .ok ()⟩ : Event winApi) ∈ h
    else ∀ hFile, (⟨.CloseHandle hFile, .ok ()⟩ : Event winApi) ∉ h

theorem closePort_law {hFile : ℤ} (quietly : env.raised = [])
    (read : (⟨.getFd, hFile⟩ : Event winApi) ∈ h)
    (unclosed : ∀ other r, (⟨.CloseHandle other, r⟩ : Event winApi) ∉ h)
    (unset : ∀ value, (⟨.setCleanerFd value, ()⟩ : Event winApi) ∉ h) :
    mwp CloserLaw h env (closePort hFile) ClosedBy := by
  refine mwp_ask_bind fun closed => ⟨closerLaw_snoc ⟨read, unclosed⟩, ?_⟩
  have unset : ∀ value, (⟨.setCleanerFd value, ()⟩ : Event winApi) ∉ h ++
      [⟨.CloseHandle hFile, closed⟩] := by
    simpa using unset
  cases closed with
  | ok =>
      refine Method.mwp_pure.mpr ⟨rfl, unset, ?_⟩
      rw [if_pos quietly]
      exact ⟨hFile, by simp⟩
  | error errno =>
      refine mwp_throwing.mpr ⟨rfl, unset, ?_⟩
      rw [if_neg (by simp)]
      rintro other member
      rcases List.mem_append.mp member with old | new
      · exact unclosed _ _ old
      · cases List.mem_singleton.mp new

theorem close0_law (quietly : env.raised = []) : mwp CloserLaw [] env close0 ClosedBy := by
  refine mwp_ask_bind fun hFile => ⟨closerLaw_snoc rfl, ?_⟩
  refine mwp_ask_bind fun _ => ⟨closerLaw_snoc (.inl rfl), ?_⟩
  refine mwp_ask_bind fun cancelled => ⟨closerLaw_snoc ⟨by simp, by simp⟩, ?_⟩
  have close : mwp CloserLaw _ env (closePort hFile) ClosedBy :=
    closePort_law (h := [⟨.getFd, hFile⟩] ++ [⟨.setFd INVALID_HANDLE_VALUE, ()⟩] ++
      [⟨.CancelIo hFile, cancelled⟩]) quietly (by simp) (by simp) (by simp)
  cases cancelled with
  | ok => exact close
  | error errno =>
      dsimp only
      split
      · refine Method.mwp_bind.mpr (mwp_throwing.mpr (mwp_ask.mpr fun _ => ?_))
        refine ⟨closerLaw_snoc (.inr (by simp)), rfl, by simp, ?_⟩
        rw [if_neg (by simp)]
        simp
      · exact close

theorem implCloseChannel_law (quietly : env.raised = []) :
    mwp CloserLaw [] env implCloseChannel (fun h env _ => CloserEnd h env) := by
  apply Method.mwp_seq (close0_law quietly)
  · rintro h env e ⟨fails, -⟩
    cases fails
  rintro h env u ⟨-, unset, closed⟩
  refine Method.mwp_bind.mpr (Method.mwp_locals.mpr (Method.rest_ok.mpr ?_))
  by_cases raised : env.raised = []
  · rw [if_pos raised] at closed ⊢
    refine mwp_ask.mpr fun _ => ⟨closerLaw_snoc rfl, ?_⟩
    obtain ⟨hFile, member⟩ := closed
    rw [CloserEnd, if_pos raised]
    exact ⟨⟨hFile, List.mem_append_left _ member⟩, by simp⟩
  · rw [if_neg raised] at closed ⊢
    refine Method.mwp_pure.mpr ?_
    rw [CloserEnd, if_neg raised]
    exact ⟨closed, unset⟩

end Closer
end Spsw.Jni.WinApiIO

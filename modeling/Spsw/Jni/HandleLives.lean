import Spsw.Jni.HandleAccounting

/-!
# The lives of a native socket on Windows

The constructor, which gives back what it has opened when it throws; then the calls and the
one that closes; then the cleaner.
-/
namespace Spsw.Jni.WinApiIO
open Interaction
open Interaction.Program (Returns)
open Interaction.Method (amwp amwp_mono amwp_bind amwp_request amwp_request_bind amwp_pure arest)
open Jnhw (DCB Errno INVALID_HANDLE_VALUE)
open TermiosIO (Env)
open Resources (Inventory)

/-- An answer that closes no open handle in vain. -/
def steps (σ : Handles) (ev : Event winApi) (σ' : Handles) : Prop := σ.answers ev σ' ∧ σ.Closes ev

section Rules
variable {α : Type} {σ : Handles} {env : Env} {post : Handles → Env → Except ℤ α → Prop}

/-- What holds at the end of a part. -/
abbrev ends (σ : Handles) (env : Env) (m : Native α)
    (post : Handles → Env → Except ℤ α → Prop) : Prop :=
  amwp steps (fun _ => True) σ env m post

theorem ends_quiet {e : Request} (own : quiet e = true) {f : Answer e → Native α}
    (next : ∀ r, ends σ env (f r) post) :
    ends σ env (ask e >>= f) post := by
  apply amwp_request_bind
  rintro r σ' ⟨answer, -⟩
  obtain rfl : σ' = σ := answers_quiet own answer
  exact ⟨trivial, next r⟩

theorem ends_getFd {f : ℤ → Native α} (next : ends σ env (f σ.fd) post) :
    ends σ env (ask .getFd >>= f) post := by
  apply amwp_request_bind
  rintro r σ' ⟨⟨rfl, same⟩, -⟩
  obtain rfl : σ' = σ := same
  exact ⟨trivial, next⟩

theorem ends_setFd {value : ℤ} {f : Unit → Native α}
    (next : ends { σ with fd := value } env (f ()) post) :
    ends σ env (ask (.setFd value) >>= f) post := by
  apply amwp_request_bind
  rintro r σ' ⟨rfl, -⟩
  exact ⟨trivial, next⟩

/-- A `CloseHandle` closes what is open, and whether it has is not asked. -/
theorem ends_release {handle : ℤ} {f : Unit → Native α} (mine : σ.Mine handle)
    (next : ends (σ.close handle) env (f ()) post) : ends σ env (release handle >>= f) post := by
  apply amwp_bind
  apply amwp_request_bind
  rintro r σ' ⟨answer, closes⟩
  rw [Handles.closed_of_closes mine answer closes]
  exact ⟨trivial, amwp_pure next⟩

theorem ends_throwing {e : JavaException} {f : Unit → Native α}
    (next : ends σ { env with raised := env.raised ++ [e] } (f ()) post) :
    ends σ env (throwing e >>= f) post :=
  amwp_bind (awp_pure next)

end Rules

section Constructor
variable {σ : Handles} {env : Env} {hFile : ℤ}

/-- The port alone is open, and the field has its number. -/
structure HasPort (hFile : ℤ) (σ : Handles) : Prop where
  only : σ.toInventory.Only Handles.Nobody hFile
  fd : σ.fd = hFile

/-- How a part of `open0` leaves the handles. -/
def Leaves (hFile : ℤ) (σ : Handles) (env : Env) (x : Except ℤ Unit) : Prop :=
  x = .ok () ∧ (env.raised = [] → HasPort hFile σ) ∧ (env.raised ≠ [] → σ.Gone)

/-- The port is closed again, and something is thrown. -/
theorem giveUp_ends {next : Native Unit} (port : HasPort hFile σ)
    (throws : ∀ σ, σ.Gone → ends σ env next (Leaves hFile)) :
    ends σ env (do giveUp hFile; next) (Leaves hFile) := by
  apply amwp_bind
  apply ends_release port.only.mine
  apply amwp_request
  rintro r σ' ⟨rfl, -⟩
  exact ⟨trivial, throws _ port.only.close⟩

theorem throwing_ends (gone : σ.Gone) (e : JavaException) :
    ends σ env (throwing e) (Leaves hFile) :=
  awp_pure ⟨rfl, by simp, fun _ => gone⟩

theorem throwNative_ends (gone : σ.Gone) (msg : String) :
    ends σ env (throw_IOException_NativeError msg) (Leaves hFile) :=
  ends_quiet rfl fun _ => throwing_ends gone _

theorem openTimeouts_ends (quietly : env.raised = []) (port : HasPort hFile σ) :
    ends σ env (openTimeouts hFile) (Leaves hFile) := by
  refine ends_quiet rfl fun found => ?_
  cases found with
  | error errno => exact giveUp_ends port fun _ gone => throwNative_ends gone _
  | ok timeouts =>
      refine ends_quiet rfl fun stored => ?_
      cases stored with
      | error errno => exact giveUp_ends port fun _ gone => throwNative_ends gone _
      | ok => exact amwp_pure ⟨rfl, fun _ => port, fun raised => absurd quietly raised⟩

theorem setParams_ends (portName : String) (dcb : DCB) (paramBitSet : BitVec 32) :
    ends σ env (setParams portName dcb paramBitSet) (fun σ' env' x => σ' = σ ∧
      env' = env ∧ ∃ r, x = .ok r) := by
  rw [setParams]
  cases WinApiSettings.alter dcb paramBitSet with
  | error e => exact amwp_pure ⟨rfl, rfl, _, rfl⟩
  | ok dcb =>
      refine ends_quiet rfl fun hFile => ends_quiet rfl fun stored => ?_
      cases stored with
      | error errno => exact ends_quiet rfl fun fd => amwp_pure ⟨rfl, rfl, _, rfl⟩
      | ok =>
          refine ends_quiet rfl fun hFile => ends_quiet rfl fun read => ?_
          cases read with
          | error errno => exact ends_quiet rfl fun fd => amwp_pure ⟨rfl, rfl, _, rfl⟩
          | ok dcb => exact amwp_pure ⟨rfl, rfl, _, rfl⟩

theorem configure_ends (quietly : env.raised = []) (port : HasPort hFile σ) (portName : String)
    (paramBitSet : BitVec 32) :
    ends σ env (configure portName hFile paramBitSet) (Leaves hFile) := by
  refine ends_quiet rfl fun found => ?_
  cases found with
  | error errno => exact giveUp_ends port fun _ gone => throwing_ends gone _
  | ok dcb =>
      dsimp only
      split
      · apply amwp_bind
        apply amwp_mono (setParams_ends portName dcb paramBitSet)
        rintro σ' env' x ⟨rfl, rfl, result, rfl⟩
        cases result with
        | error e =>
            apply ends_throwing
            apply ends_release port.only.mine
            apply amwp_request
            rintro r σ'' ⟨rfl, -⟩
            exact ⟨trivial, rfl, by simp, fun _ => port.only.close⟩
        | ok => exact openTimeouts_ends quietly port
      · exact openTimeouts_ends quietly port

/-- How the constructor leaves the handles. -/
def Opens (σ : Handles) (env : Env) (_ : Except ℤ Unit) : Prop :=
  (env.raised = [] → ∃ hFile, HasPort hFile σ ∧ σ.cleanerFd = hFile) ∧ (env.raised ≠ [] → σ.Gone)

theorem open_ends (portName : String) (paramBitSet : BitVec 32) :
    ends .initial calling («open» portName paramBitSet) Opens := by
  have opens : ends .initial calling (open0 portName paramBitSet) fun σ env x =>
      x = .ok () ∧ (env.raised = [] → ∃ hFile, HasPort hFile σ) ∧ (env.raised ≠ [] → σ.Gone) := by
    apply ends_getFd
    have unopened : ¬Handles.initial.fd ≠ INVALID_HANDLE_VALUE := not_not_intro rfl
    rw [if_neg unopened]
    apply amwp_request_bind
    rintro (errno | hFile) σ ⟨answer, -⟩
    · obtain rfl : σ = .initial := answer
      refine ⟨trivial, ends_setFd (awp_pure ⟨rfl, by simp, fun _ => ?_⟩)⟩
      exact Inventory.gone_empty
    · obtain ⟨fresh, same⟩ := answer
      obtain rfl : σ = Handles.initial.obtain hFile := same
      refine ⟨trivial, ends_setFd ?_⟩
      have port : HasPort hFile { Handles.initial.obtain hFile with fd := hFile } :=
        ⟨Inventory.gone_empty.obtain fresh, rfl⟩
      apply amwp_mono (configure_ends rfl port portName paramBitSet)
      rintro σ env x ⟨rfl, returned, thrown⟩
      exact ⟨rfl, fun quietly => ⟨hFile, returned quietly⟩, thrown⟩
  apply amwp_bind
  apply amwp_mono opens
  rintro σ env x ⟨rfl, returned, thrown⟩
  refine amwp_bind (awp_pure ?_)
  change ends σ env (if env.raised = [] then _ else _) Opens
  split
  · next quietly =>
    obtain ⟨hFile, port⟩ := returned quietly
    apply ends_getFd
    apply amwp_request
    rintro r σ' ⟨rfl, -⟩
    exact ⟨trivial, fun _ => ⟨hFile, ⟨port.only, port.fd⟩, port.fd⟩,
      fun raised => absurd quietly raised⟩
  · next quietly => exact amwp_pure ⟨fun raised => absurd raised quietly, thrown⟩

end Constructor

section Cleaner
variable {σ : Handles} {env : Env}

/-- The cleaner closes what it knows of, and that is all there is. -/
theorem runCleaner_ends (kept : σ.Kept) (mine : σ.Mine σ.cleanerFd)
    (only : ∀ handle, σ.opened handle = true → handle = σ.cleanerFd) :
    ends σ env runCleaner (fun σ' _ _ => σ'.Gone) := by
  apply amwp_request_bind
  rintro r σ' ⟨⟨rfl, same⟩, -⟩
  obtain rfl : σ' = σ := same
  refine ⟨trivial, amwp_request_bind ?_⟩
  rintro r σ ⟨rfl, -⟩
  have touched : (σ'.touch σ'.cleanerFd).Mine σ'.cleanerFd :=
    mine.imp_right fun opened => by simpa using opened
  refine ⟨trivial, ?_⟩
  apply amwp_request_bind
  rintro r σ ⟨answer, closes⟩
  have keeps := kept.touch mine
  rw [Handles.closed_of_closes touched answer closes]
  refine ⟨trivial, amwp_pure ⟨keeps.close touched,
    fun handle => Bool.eq_false_iff.mpr fun opened => ?_⟩⟩
  obtain ⟨before, other⟩ := (Inventory.opened_close keeps handle).mp opened
  exact other (only handle (by simpa using before))

end Cleaner

section Lives
variable {ι : Type} [DecidableEq ι]

/-- The life of a socket: its constructor; any number of calls that have all returned, and
the one that closes, if it has begun; then the cleaner. -/
inductive Lives (errnoText : Errno → String) (portName : String) (paramBitSet : BitVec 32)
    (calls : ι → NativeCall) :
    Handles → Prop
  | refused {σ : Handles} {h : History winApi} {y : Except ℤ Unit × Env}
      (thrown : Returns («open» portName paramBitSet calling) h y) (raised : y.2.raised ≠ [])
      (answered : Answered steps .initial h σ) : Lives errnoText portName paramBitSet calls σ
  | cleaned {σ₁ σ : Handles} {h h' : History winApi} {y y' : Except ℤ Unit × Env}
      {t : Interleaved (Option ι) (fun _ => winApi) Outcome Handles}
      (constructed : Returns («open» portName paramBitSet calling) h y) (quietly : y.2.raised = [])
      (answered : Answered steps .initial h σ₁)
      (reached : Interleaved.Reached (sharing errnoText σ₁ calls) Closing t)
      (returned : ∀ i, ∃ y, t.thread (some i) = .pure y)
      (closer : t.record none = [] ∨ ∃ y, t.thread none = .pure y)
      (cleaned : Returns (runCleaner calling) h' y') (cleaning : Answered steps t.shared h' σ) :
      Lives errnoText portName paramBitSet calls σ

section Sharing
variable {errnoText : Errno → String} {σ : Handles} {hFile : ℤ} {calls : ι → NativeCall}
  {t : Interleaved (Option ι) (fun _ => winApi) Outcome Handles}

omit [DecidableEq ι] in
theorem HasPort.shared (port : HasPort hFile σ) (cleaner : σ.cleanerFd = hFile) :
    Shared hFile σ (fun _ : ι => .empty) [] := by
  constructor
  case kept => exact port.only.kept
  case opened => exact fun _ => ⟨(port.only.opened hFile).mpr rfl, by simp⟩
  case owned =>
    exact fun handle opened => .inl ⟨(port.only.opened handle).mp opened, fun _ => List.not_mem_nil⟩
  case field => exact fun _ => port.fd
  case uncleared => exact fun _ => cleaner
  all_goals simp

/-- When the calls are over, the cleaner knows of what is open, and of nothing else. -/
theorem returned_only (start : Shared hFile σ (fun _ : ι => .empty) [])
    (reached : Interleaved.Reached (sharing errnoText σ calls) Closing t)
    (returned : ∀ i, ∃ y, t.thread (some i) = .pure y)
    (closer : t.record none = [] ∨ ∃ y, t.thread none = .pure y) :
    t.shared.Mine t.shared.cleanerFd ∧ ∀ handle, t.shared.opened handle = true →
      handle = t.shared.cleanerFd := by
  have shared := reached_shared start reached
  have free : ∀ i handle, grips t.record i ≠ .holds handle := by
    intro i handle holds
    obtain ⟨y, done⟩ := returned i
    have empty : gripOf handling (t.record (some i)) = .empty :=
      reached.returned (laws errnoText σ calls) done
    rw [grips, empty] at holds
    cases holds
  have own : ∀ handle, t.shared.opened handle = true → handle = hFile ∧
      Unclosed (t.record none) := by
    intro handle opened
    rcases shared.owned handle opened with own | ⟨i, holds⟩
    · exact own
    · exact absurd holds (free i handle)
  have unset : Unclosed (t.record none) →
      (∀ value, (⟨.setCleanerFd value, ()⟩ : Event winApi) ∉ t.record none) →
      t.shared.Mine t.shared.cleanerFd ∧ ∀ handle, t.shared.opened handle = true →
        handle = t.shared.cleanerFd := by
    intro unclosed unset
    rw [shared.uncleared unset]
    exact ⟨.inr (shared.opened unclosed).1, fun handle opened => (own handle opened).1⟩
  rcases closer with none_yet | ⟨y, done⟩
  · refine unset ?_ ?_
    · simp [Unclosed, none_yet]
    · simp [none_yet]
  have ended : CloserEnd (t.record none) y.2 := reached.returned (laws errnoText σ calls) done
  rw [CloserEnd] at ended
  split at ended
  · obtain ⟨⟨closed, member⟩, cleared⟩ := ended
    refine ⟨.inl (.inl (shared.cleared cleared)), fun handle opened => ?_⟩
    exact absurd member ((own handle opened).2 closed)
  · exact unset ended.1 ended.2

end Sharing

/-- In every life of a socket, each handle is closed once, and not closed or cancelled again,
however the calls and the close overlap and whichever call of the system fails, the one that
closes the port among them. -/
theorem handles_accounted {errnoText : Errno → String} {portName : String} {paramBitSet : BitVec 32}
    {calls : ι → NativeCall} {σ : Handles} (lives : Lives errnoText portName paramBitSet calls σ) :
    Resources.Accounted (Resources.stamp σ.log) := by
  have opens := open_ends portName paramBitSet
  cases lives with
  | refused thrown raised answered =>
      exact ((Method.amwp_returns opens thrown answered).2 raised).accounted
  | cleaned constructed quietly answered reached returned closer cleaned cleaning =>
      obtain ⟨hFile, port, cleaner⟩ := (Method.amwp_returns opens constructed answered).1 quietly
      have kept := (reached_shared (port.shared cleaner) reached).kept
      obtain ⟨mine, only⟩ := returned_only (port.shared cleaner) reached returned closer
      exact (Method.amwp_returns (runCleaner_ends kept mine only) cleaned cleaning).accounted

end Lives
section Examples

def oneRead : Unit → NativeCall := fun _ => .readBuffer 8 .EAGAIN []

/-- `COM3`, as it is found and as it is opened. -/
def found : Jnhw.DCB :=
  ⟨9600, 8, Jnhw.ONESTOPBIT, Jnhw.PARITY .NONE, Jnhw.RTS_CONTROL_DISABLE, false, false, false⟩

def openedAs3 : History winApi :=
  [⟨.getFd, INVALID_HANDLE_VALUE⟩, ⟨.CreateFile "\\\\.\\COM3", .ok 3⟩, ⟨.setFd 3, ()⟩,
    ⟨.GetCommState 3, .ok found⟩, ⟨.GetCommTimeouts 3, .ok ⟨0, 0, 0, 0, 0⟩⟩,
    ⟨.SetCommTimeouts 3 ⟨100, 0, 0, 0, 0⟩, .ok ()⟩, ⟨.getFd, (3 : ℤ)⟩, ⟨.setCleanerFd 3, ()⟩]

theorem opened_returns :
    Returns («open» "COM3" NO_PARAMS_TO_SET calling) openedAs3 (.ok (), calling) :=
  Program.replay_sound 20 rfl

/-- The handle of `COM3` is the only one. -/
def com3Opened : Handles := ⟨⟨Function.update (fun _ => false) 3 true, [.obtain 3]⟩, 3, 3⟩

theorem opened_answered : Answered steps .initial openedAs3 com3Opened :=
  .cons ⟨⟨rfl, rfl⟩, trivial⟩ (.cons ⟨⟨⟨rfl, by decide⟩, rfl⟩, trivial⟩ (.cons ⟨rfl, trivial⟩
    (.cons ⟨rfl, trivial⟩ (.cons ⟨rfl, trivial⟩ (.cons ⟨rfl, trivial⟩ (.cons ⟨⟨rfl, rfl⟩, trivial⟩
      (.cons ⟨rfl, trivial⟩ (.nil _))))))))

/-- A read waits while the port is closed, and gets its event back afterwards. -/
theorem handles_accounted_closing :
    ∃ σ, Lives Errno.getErrnoSymbol "COM3" NO_PARAMS_TO_SET oneRead σ ∧
      Resources.Accounted (Resources.stamp σ.log) := by
  have fresh : Interleaved.Reached (sharing Errno.getErrnoSymbol com3Opened oneRead) Closing _ :=
    .start
  have created :=
    (fresh.ask (i := some ()) rfl (3 : ℤ) ⟨rfl, rfl⟩ trivial).ask (i := some ()) rfl (4 : ℤ)
    (.inr ⟨⟨rfl, by decide⟩, rfl⟩) trivial
  have waits := created.ask (i := some ()) rfl (.error ERROR_IO_PENDING)
    ⟨fun shut => absurd (show true = false from shut) (by decide), rfl⟩ trivial
  have marked :=
    (waits.ask (i := none) rfl (3 : ℤ) ⟨rfl, rfl⟩ trivial).ask (i := none) rfl () rfl trivial
  have closed :=
    (marked.ask (i := none) rfl (.ok ()) rfl trivial).ask (i := none) rfl (.ok ()) rfl trivial
  have told := closed.ask (i := none) rfl () rfl trivial
  have wakes := (told.ask (i := some ()) rfl WAIT_OBJECT_0 rfl trivial).ask (i := some ()) rfl
    (false, ⟨[], Nat.zero_le _⟩) rfl trivial
  have finished := (wakes.ask (i := some ()) rfl (.ok ()) rfl (fun _ => rfl)).ask
    (i := some ()) rfl INVALID_HANDLE_VALUE ⟨rfl, rfl⟩ trivial
  have cleaned : Returns (runCleaner calling) [⟨.getCleanerFd, INVALID_HANDLE_VALUE⟩,
      ⟨.CancelIo INVALID_HANDLE_VALUE, .error 6⟩,
        ⟨.CloseHandle INVALID_HANDLE_VALUE, .error 6⟩] (.ok (), calling) :=
    Program.replay_sound 20 rfl
  have lives : Lives Errno.getErrnoSymbol "COM3" NO_PARAMS_TO_SET oneRead _ :=
    .cleaned opened_returns rfl opened_answered finished (fun _ => ⟨_, rfl⟩) (.inr ⟨_, rfl⟩) cleaned
      (.cons ⟨⟨rfl, rfl⟩, trivial⟩ (.cons ⟨rfl, trivial⟩
        (.cons ⟨rfl, fun opened => absurd (show false = true from opened) (by decide)⟩ (.nil _))))
  exact ⟨_, lives, handles_accounted lives⟩

end Examples
end Spsw.Jni.WinApiIO

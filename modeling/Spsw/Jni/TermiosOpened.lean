import Spsw.Jni.TermiosLives

/-!
# What the constructor does to the device

The calls of `open0` on the device are those of `openParams`: a constructor that throws
nothing leaves the settings that `openParams` makes of those it found.
-/
namespace Spsw.Jni.TermiosLife
open Interaction Stateful
open Interaction.Program (Returns)
open Interaction.Method (amwp amwp_mono amwp_bind amwp_request amwp_request_bind amwp_pure)
open Jnhw
open TermiosIO (Env)

/-- The port of the socket, and the settings behind each descriptor. -/
structure Ports where
  fd : ℤ
  behind : Descriptors

/-- At most the device behind the descriptor has changed. -/
def Ports.Off (σ : Ports) (fd : ℤ) (σ' : Ports) : Prop :=
  σ'.fd = σ.fd ∧ ∀ other, other ≠ fd → σ'.behind other = σ.behind other

/-- What an answer tells of the device. A call that fails may have any reason, and a
`tcsetattr` that fails may have stored something. -/
def Ports.answers (driver : Driver) (σ : Ports) : Event life → Ports → Prop
  | ⟨.io .getFd, r⟩, σ' => r = σ.fd ∧ σ' = σ
  | ⟨.io (.setFd fd), _⟩, σ' => σ' = { σ with fd := fd }
  | ⟨.io (.close fd), _⟩, σ' => σ.Off fd σ'
  | ⟨.«open» _, .ok fd⟩, σ' =>
      ∃ found, σ' = { σ with behind := Function.update σ.behind fd (some found) }
  | ⟨.tcgetattr fd, .ok settings⟩, σ' => σ.behind fd = some settings ∧ σ' = σ
  | ⟨.tcsetattr fd settings, .ok ()⟩, σ' =>
      tcsetattr driver fd settings σ.behind = .ok (.ok ()) σ'.behind ∧ σ'.fd = σ.fd
  | ⟨.tcsetattr fd _, .error _⟩, σ' => σ.Off fd σ'
  | _, σ' => σ' = σ

section Configuring
variable {b : Build} {portName : String} {driver : Driver} {α β : Type}
  {σ : Ports} {env : Env} {fd : ℤ} {bits : BitVec 32}

/-- What holds once a part of the constructor is over. -/
abbrev leaves (driver : Driver) (σ : Ports) (env : Env) (m : Native α)
    (post : Ports → Env → Except ℤ α → Prop) : Prop :=
  amwp (Ports.answers driver) (fun _ => True) σ env m post

/-- A part that throws nothing has done what `run` does. -/
def Follows (run : EStateM.Result JavaException Descriptors Unit) (fd : ℤ) (σ : Ports) (env : Env)
    (_ : Except ℤ Unit) : Prop :=
  env.raised = [] → run = .ok () σ.behind ∧ σ.fd = fd

variable {run : EStateM.Result JavaException Descriptors Unit}

/-- A request that leaves the socket's port and the devices as they are. -/
theorem leaves_aside {e : Request} {post : Ports → Env → Except ℤ α → Prop}
    {k : Answer e → Native α} (aside : ∀ r σ', Ports.answers driver σ ⟨e, r⟩ σ' → σ' = σ)
    (next : ∀ r, leaves driver σ env (k r) post) :
    leaves driver σ env (ask e >>= k) post := by
  apply amwp_request_bind
  intro r σ' answer
  rw [aside r σ' answer]
  exact ⟨trivial, next r⟩

theorem leaves_noted {post : Ports → Env → Except ℤ α → Prop} {r : Except Errno β}
    {k : Except Errno β → Native α} (ok : ∀ a, r = .ok a → leaves driver σ env (k r) post)
    (error : ∀ errno, r = .error errno → leaves driver σ { env with errno := errno } (k r) post) :
    leaves driver σ env (noted r >>= k) post := by
  apply amwp_bind
  cases r with
  | ok a => exact amwp_pure (ok a rfl)
  | error errno => exact awp_pure (error errno rfl)

theorem throwing_follows (e : JavaException) : leaves driver σ env (throwing e) (Follows run fd) :=
  awp_pure fun quietly => by simp at quietly

theorem throwNative_follows (msg : String) :
    leaves driver σ env (throw_IOException_NativeError b msg) (Follows run fd) :=
  amwp_bind (awp_pure (throwing_follows _))

theorem release_raises (fd : ℤ) :
    leaves driver σ env (release fd) fun _ env' x => x = .ok () ∧ env'.raised = env.raised := by
  apply amwp_request_bind
  intro r σ' _
  exact ⟨trivial, leaves_noted (fun _ _ => amwp_pure ⟨rfl, rfl⟩) fun _ _ => amwp_pure ⟨rfl, rfl⟩⟩

theorem leaves_release {post : Ports → Env → Except ℤ α → Prop} {k : Unit → Native α}
    (next : ∀ σ' env', env'.raised = env.raised → leaves driver σ' env' (k ()) post) :
    leaves driver σ env (release fd >>= k) post := by
  apply amwp_bind
  apply amwp_mono (release_raises fd)
  rintro σ' env' x ⟨rfl, same⟩
  exact next σ' env' same

theorem giveUp_raises (fd : ℤ) :
    leaves driver σ env (giveUp fd) fun _ env' x => x = .ok () ∧ env'.raised = env.raised := by
  apply leaves_release
  intro σ' env' same
  apply amwp_request
  intro r σ'' _
  exact ⟨trivial, rfl, same⟩

/-- Whatever is thrown once the port is closed, nothing more is to be shown. -/
theorem giveUp_follows {next : Unit → Native Unit}
    (throws : ∀ σ env, leaves driver σ env (next ()) (Follows run fd)) (given : ℤ) :
    leaves driver σ env (giveUp given >>= next) (Follows run fd) := by
  apply amwp_bind
  apply amwp_mono (giveUp_raises given)
  rintro σ' env' x ⟨rfl, -⟩
  exact throws σ' env'

theorem storeEvent_follows (read write : ℤ) :
    leaves driver σ env (ask (.io (.setCloseEventReadFd read)) >>= fun _ =>
      ask (.io (.setCloseEventWriteFd write))) (Follows (.ok () σ.behind) σ.fd) := by
  refine leaves_aside (fun _ _ same => same) fun _ => ?_
  apply amwp_request
  rintro r σ' rfl
  exact ⟨trivial, fun _ => ⟨rfl, rfl⟩⟩

theorem openEvent_follows (given : ℤ) :
    leaves driver σ env (openEvent b given) (Follows (.ok () σ.behind) σ.fd) := by
  rw [openEvent]
  split
  · refine leaves_aside (fun _ _ same => same) fun created => leaves_noted ?_ ?_
    · rintro close_event_fd rfl
      exact storeEvent_follows close_event_fd close_event_fd
    · rintro errno rfl
      exact leaves_release fun _ _ _ => throwNative_follows _
  · refine leaves_aside (fun _ _ same => same) fun created => leaves_noted ?_ ?_
    · rintro pipedes rfl
      exact storeEvent_follows pipedes.1 pipedes.2
    · rintro errno rfl
      exact leaves_release fun _ _ _ => throwNative_follows _

theorem flush_follows (given : ℤ) :
    leaves driver σ env (flush b given) (Follows (.ok () σ.behind) σ.fd) := by
  refine leaves_aside (fun _ _ same => same) fun flushed => leaves_noted ?_ ?_
  · rintro u rfl
    exact openEvent_follows given
  · rintro errno rfl
    exact giveUp_follows (fun _ _ => throwNative_follows _) given

/-- A `setParams` that returns has stored what the one on the device stores. -/
theorem setParams_leaves (settings : StructTermios) :
    leaves driver σ env (setParams b portName settings bits) fun σ' env' x =>
      env'.raised = env.raised ∧ ∃ r, x = .ok r ∧ (r = .ok () → σ'.fd = σ.fd ∧
        (b.socket portName σ.fd env).setParams b.p driver settings bits σ.behind =
          .ok () σ'.behind) := by
  apply amwp_request_bind
  rintro r σ' ⟨rfl, rfl⟩
  refine ⟨trivial, amwp_bind (awp_pure ?_)⟩
  dsimp only [Method.arest]
  cases altered : alter b.p (b.socket portName σ'.fd env) settings bits with
  | error e => exact amwp_pure ⟨rfl, .error e, rfl, fun returned => by cases returned⟩
  | ok given =>
      apply amwp_request_bind
      intro stored σ'' answer
      refine ⟨trivial, leaves_noted ?_ ?_⟩
      · rintro u rfl
        obtain ⟨stores, socket⟩ := answer
        apply amwp_request_bind
        intro read σ''' answer
        refine ⟨trivial, leaves_noted ?_ ?_⟩
        · rintro found rfl
          obtain ⟨opened, rfl⟩ := answer
          refine amwp_pure ⟨rfl, _, rfl, fun verified => ⟨socket, ?_⟩⟩
          rw [TermiosSocket.setParams, altered]
          refine (bind_of_ok rfl).trans ((bind_of_ok stores).trans ?_)
          refine (bind_of_ok (getSettings_opened opened)).trans ?_
          rw [verified]
          rfl
        · rintro errno rfl
          exact amwp_pure ⟨rfl, _, rfl, fun returned => by cases returned⟩
      · rintro errno rfl
        exact amwp_pure ⟨rfl, _, rfl, fun returned => by cases returned⟩

theorem configure_follows (settings : StructTermios) (found : σ.behind σ.fd = some settings) :
    leaves driver σ env (configure b portName σ.fd settings bits)
      (Follows ((b.socket portName σ.fd env).openParams b.p b.raw driver bits σ.behind) σ.fd) := by
  rw [configure]
  split
  case isTrue some =>
    have alters : (b.socket portName σ.fd env).openParams b.p b.raw driver bits σ.behind =
        (b.socket portName σ.fd env).setParams b.p driver
          (rawMode b.p b.raw settings) bits σ.behind :=
      (bind_of_ok (tcgetattr_opened found)).trans (congrFun (if_pos some) _)
    apply amwp_bind
    apply amwp_mono (setParams_leaves _)
    rintro σ' env' x ⟨same, r, rfl, returned⟩
    cases r with
    | error e =>
        refine amwp_bind (awp_pure (amwp_mono (giveUp_raises σ.fd) ?_))
        rintro σ'' env'' x ⟨rfl, again⟩ quietly
        simp [again] at quietly
    | ok =>
        obtain ⟨socket, stored⟩ := returned rfl
        refine amwp_mono (flush_follows σ.fd) fun σ'' env'' x flushed quietly => ?_
        obtain ⟨behind, port⟩ := flushed quietly
        exact ⟨alters.trans (stored.trans behind), port.trans socket⟩
  case isFalse none =>
    apply amwp_request_bind
    intro stored σ' answer
    refine ⟨trivial, leaves_noted ?_ ?_⟩
    · rintro u rfl
      obtain ⟨stores, socket⟩ := answer
      refine amwp_mono (flush_follows σ.fd) fun σ'' env'' x flushed quietly => ?_
      obtain ⟨behind, port⟩ := flushed quietly
      refine ⟨(bind_of_ok (tcgetattr_opened found)).trans ?_, port.trans socket⟩
      exact (congrFun (if_neg none) _).trans ((bind_of_ok stores).trans behind)
    · rintro errno rfl
      exact giveUp_follows (fun _ _ => throwNative_follows _) σ.fd

theorem occupy_follows :
    leaves driver σ env (occupy b portName σ.fd bits)
      (Follows ((b.socket portName σ.fd env).openParams b.p b.raw driver bits σ.behind) σ.fd) := by
  apply amwp_request_bind
  intro found σ' answer
  refine ⟨trivial, leaves_noted ?_ ?_⟩
  · rintro settings rfl
    obtain ⟨found, rfl⟩ := answer
    refine leaves_aside (fun _ _ same => same) fun exclusive => leaves_noted ?_ ?_
    · rintro u rfl
      exact configure_follows settings found
    · rintro errno rfl
      exact giveUp_follows (fun _ _ => throwNative_follows _) _
  · rintro errno rfl
    apply giveUp_follows
    intro σ'' env''
    refine amwp_bind (awp_pure ?_)
    change leaves driver σ'' env'' (if env''.errno = ENOTTY then _ else _) _
    split
    · exact throwing_follows _
    · exact throwNative_follows _

/-- Unless something is thrown, the settings are those that `openParams` makes of what it
found behind the port. -/
def Opened (b : Build) (portName : String) (driver : Driver) (bits : BitVec 32)
    (before : Descriptors) (env : Env) (σ : Ports) (env' : Env) (_ : Except ℤ Unit) : Prop :=
  env'.raised = [] → ∃ found, (b.socket portName σ.fd env).openParams b.p b.raw driver bits
    (Function.update before σ.fd (some found)) = .ok () σ.behind

theorem open0_opened :
    leaves driver σ env (open0 b portName bits) (Opened b portName driver bits σ.behind env) := by
  apply amwp_request_bind
  rintro fd σ' ⟨rfl, rfl⟩
  refine ⟨trivial, ?_⟩
  split
  · exact awp_pure fun quietly => by simp at quietly
  · apply amwp_request_bind
    intro opened σ'' answer
    refine ⟨trivial, leaves_noted ?_ ?_⟩
    · rintro fd rfl
      obtain ⟨found, rfl⟩ := answer
      apply amwp_request_bind
      rintro - σ''' rfl
      refine ⟨trivial, amwp_mono occupy_follows fun σ'' env'' x followed quietly => ?_⟩
      obtain ⟨opened, rfl⟩ := followed quietly
      exact ⟨found, opened⟩
    · rintro errno rfl
      apply amwp_request_bind
      intro r σ''' _
      exact ⟨trivial, awp_pure fun quietly => by simp at quietly⟩

theorem register_keeps : leaves driver σ env register fun σ' env' _ => env' = env ∧ σ' = σ := by
  refine leaves_aside (fun _ _ same => same) fun _ => ?_
  refine leaves_aside (fun _ _ answer => answer.2) fun fd => ?_
  refine leaves_aside (fun _ _ same => same) fun _ => ?_
  refine leaves_aside (fun _ _ same => same) fun closeEventReadFd => ?_
  refine leaves_aside (fun _ _ same => same) fun _ => ?_
  refine leaves_aside (fun _ _ same => same) fun closeEventWriteFd => ?_
  apply amwp_request
  rintro r σ' rfl
  exact ⟨trivial, rfl, rfl⟩

/-- A constructor that throws nothing has done with the device what `openParams` does. -/
theorem open_opened :
    leaves driver σ env («open» b portName bits) (Opened b portName driver bits σ.behind env) := by
  apply amwp_bind
  apply amwp_mono open0_opened
  intro σ' env' x opened
  cases x with
  | error e => exact opened
  | ok =>
      refine whenReturned_ends (fun quietly => amwp_mono register_keeps ?_)
        fun raised quietly => absurd quietly raised
      rintro σ'' env'' x ⟨rfl, rfl⟩
      exact opened

end Configuring

section Reports
variable {p : Platform} {raw : RawFlags} {driver : Driver} {n : TermiosSocket} {s s' : Descriptors}
  {settings : StructTermios} {bits : BitVec 32}

theorem getSettings_returned {message : String}
    (returned : n.getSettings message s = .ok settings s') :
    s n.fd = some settings ∧ s' = s := by
  cases opened : s n.fd with
  | some current =>
      rw [getSettings_opened opened] at returned
      cases returned
      exact ⟨rfl, rfl⟩
  | none =>
      rw [TermiosSocket.getSettings, bind_of_ok (tcgetattr_closed opened)] at returned
      cases returned

theorem verify_read (verified : verify p n settings bits = .ok ()) :
    getParamsOf p n settings (paramsToRead bits) = .ok bits := by
  rw [verify] at verified
  cases read : getParamsOf p n settings (paramsToRead bits) with
  | error e =>
      rw [read] at verified
      cases verified
  | ok paramsRead =>
      rw [read] at verified
      change (if paramsRead = bits then _ else _) = _ at verified
      split at verified
      · next same => rw [same]
      · cases verified

/-- What has been set is what is read. -/
theorem setParams_reports (returned : n.setParams p driver settings bits s = .ok () s') :
    n.getParams p (paramsToRead bits) s' = .ok bits s' := by
  obtain ⟨given, s₁, -, stored⟩ := bind_ok returned
  obtain ⟨result, s₂, -, checked⟩ := bind_ok stored
  cases result with
  | error errno => cases checked
  | ok =>
      obtain ⟨found, s₃, read, compared⟩ := bind_ok checked
      obtain ⟨opened, rfl⟩ := getSettings_returned read
      cases verified : verify p n found bits with
      | error e =>
          rw [verified] at compared
          cases compared
      | ok =>
          rw [verified] at compared
          cases compared
          refine (bind_of_ok (getSettings_opened opened)).trans ?_
          rw [verify_read verified]
          rfl

theorem openParams_reports (some : bits ≠ NO_PARAMS_TO_SET)
    (returned : n.openParams p raw driver bits s = .ok () s') :
    n.getParameters p (paramsToRead bits) s' = .ok bits s' := by
  obtain ⟨result, s₁, read, followed⟩ := bind_ok returned
  cases result with
  | error errno =>
      dsimp only at followed
      split at followed
      · cases followed
      · cases followed
  | ok settings => exact setParams_reports ((congrFun (if_pos some) _).symm.trans followed)

/-- A constructor that throws nothing, whatever its calls were answered, has done with the
device what `openParams` does, and the parameters that it was given are read back. -/
theorem opened_as_requested {b : Build} {portName : String} {env : Env}
    {σ σ' : Ports} {h : History life} {y : Except ℤ Unit × Env}
    (constructed : Returns («open» b portName bits env) h y) (quietly : y.2.raised = [])
    (answered : Answered (Ports.answers driver) σ h σ') :
    (∃ found, (b.socket portName σ'.fd env).openParams b.p b.raw driver bits
      (Function.update σ.behind σ'.fd (some found)) = .ok () σ'.behind) ∧
    (bits ≠ NO_PARAMS_TO_SET →
      (b.socket portName σ'.fd env).getParameters b.p (paramsToRead bits) σ'.behind =
        .ok bits σ'.behind) := by
  obtain ⟨found, configured⟩ := Method.amwp_returns open_opened constructed answered quietly
  exact ⟨⟨found, configured⟩, fun some => openParams_reports some configured⟩

end Reports

section Examples

/-- `ttyu0` behind 5, and a pipe. -/
def configure5 (σ : Ports) : (e : Request) → Option (Answer e × Ports)
  | .io .getFd => some (σ.fd, σ)
  | .io (.setFd fd) => some ((), { σ with fd := fd })
  | .io .getCloseEventReadFd => some (6, σ)
  | .io .getCloseEventWriteFd => some (7, σ)
  | .io (.setCloseEventReadFd _) | .io (.setCloseEventWriteFd _) | .register | .setCleaner _ _ =>
      some ((), σ)
  | .io (.tcflush _) | .TIOCEXCL _ => some (.ok (), σ)
  | .«open» _ => some (.ok 5, { σ with behind := Function.update σ.behind 5 (some ttyu0Found) })
  | .tcgetattr fd => (σ.behind fd).map fun settings => (.ok settings, σ)
  | .tcsetattr fd settings =>
      (σ.behind fd).map fun _ =>
        (.ok (), { σ with behind := Function.update σ.behind fd (some settings) })
  | .pipe => some (.ok (6, 7), σ)
  | _ => none

theorem configure5_lawful (σ : Ports) (e : Request) (y : Answer e × Ports)
    (served : configure5 σ e = some y) :
    Ports.answers (fun _ given => (given, none)) σ ⟨e, y.1⟩ y.2 := by
  cases e with
  | io e =>
      cases e with
      | getFd =>
          cases served
          exact ⟨rfl, rfl⟩
      | setFd fd =>
          cases served
          rfl
      | getCloseEventReadFd =>
          cases served
          rfl
      | getCloseEventWriteFd =>
          cases served
          rfl
      | setCloseEventReadFd fd =>
          cases served
          rfl
      | setCloseEventWriteFd fd =>
          cases served
          rfl
      | tcflush fd =>
          cases served
          rfl
      | _ => cases served
  | «open» portName =>
      cases served
      exact ⟨ttyu0Found, rfl⟩
  | tcgetattr fd =>
      obtain ⟨settings, opened, rfl⟩ := Option.map_eq_some_iff.mp served
      exact ⟨opened, rfl⟩
  | tcsetattr fd settings =>
      obtain ⟨current, opened, rfl⟩ := Option.map_eq_some_iff.mp served
      exact ⟨tcsetattr_opened opened rfl, rfl⟩
  | TIOCEXCL fd =>
      cases served
      rfl
  | pipe =>
      cases served
      rfl
  | register =>
      cases served
      rfl
  | setCleaner part fd =>
      cases served
      rfl
  | _ => cases served

def sevenBits : BitVec 32 := toBitSet { speed := some ._19200_BPS, dataBits := some .DB_7 }

theorem opened_as_requested_sevenBits : ∃ h y, ∃ σ : Ports,
    Returns («open» piped "ttyu0" sevenBits calling) h y ∧
      (piped.socket "ttyu0" σ.fd calling).getParameters piped.p (paramsToRead sevenBits) σ.behind =
      .ok sevenBits σ.behind := by
  have executed : execute configure5 40 ⟨INVALID_FD,
    fun _ => none⟩ («open» piped "ttyu0" sevenBits calling) =
      some (_, (.ok (), calling), _) := rfl
  obtain ⟨constructed, answered⟩ := execute_sound configure5_lawful 40 executed
  have reported := (opened_as_requested constructed rfl answered).2 (by decide)
  exact ⟨_, _, _, constructed, reported⟩

end Examples
end Spsw.Jni.TermiosLife

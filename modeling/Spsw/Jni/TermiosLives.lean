import Spsw.Interaction.Interleaved
import Spsw.Jnhw.DescriptorAccounting
import Spsw.Jni.LostWakeup
import Spsw.Jni.TermiosDescriptors

/-!
# The lives of a native POSIX socket

The constructor, which may fail at any of its calls; then reads and writes, and the one who
closes while they run; then the cleaner. What the one who closes leaves to the cleaner is
closed by it; what he has lost, it closes a second time.
-/
namespace Spsw.Jni.TermiosLife
open Interaction
open Interaction.Program (Returns)
open Interaction.Method (Keeps amwp amwp_mono amwp_bind amwp_request amwp_request_bind amwp_pure)
open Jnhw (Errno INVALID_FD StructTermios)
open Resources (Inventory)
open TermiosIO (Env NativeCall close0)

/-- An answer that closes no open descriptor in vain. -/
def steps (σ : Table) (ev : Event life) (σ' : Table) : Prop := σ.answers ev σ' ∧ σ.Closes ev

/-- What holds at the end of a part of the constructor or the cleaner. -/
abbrev ends {α : Type} (σ : Table) (env : Env) (m : Native α)
    (post : Table → Env → Except ℤ α → Prop) : Prop :=
  amwp steps (fun _ => True) σ env m post

section Rules
variable {α : Type} {σ σ' : Table} {env : Env} {fd : ℤ} {e : Request}
  {post : Table → Env → Except ℤ α → Prop}

/-- The descriptor that a request names, and does nothing to. -/
def touches : Request → Option ℤ
  | .io (.writeEvent fd) | .io (.tcflush fd) | .tcgetattr fd | .TIOCEXCL fd | .tcsetattr fd _ =>
      some fd
  | _ => none

theorem answers_touch {r : Answer e} (own : touches e = some fd) (answer : σ.answers ⟨e, r⟩ σ') :
    σ' = σ.touch fd := by
  cases e with
  | io e =>
      cases e with
      | writeEvent fd' =>
          obtain rfl := Option.some.inj own
          exact answer
      | tcflush fd' =>
          obtain rfl := Option.some.inj own
          exact answer
      | _ => cases own
  | tcgetattr fd' =>
      obtain rfl := Option.some.inj own
      exact answer
  | TIOCEXCL fd' =>
      obtain rfl := Option.some.inj own
      exact answer
  | tcsetattr fd' settings =>
      obtain rfl := Option.some.inj own
      exact answer
  | _ => cases own

theorem ends_touch (own : touches e = some fd) {k : Answer e → Native α}
    (next : ∀ r, ends (σ.touch fd) env (k r) post) : ends σ env (ask e >>= k) post := by
  apply amwp_request_bind
  rintro r σ' ⟨answer, -⟩
  rw [answers_touch own answer]
  exact ⟨trivial, next r⟩

/-- At most `errno` changes. -/
theorem ends_noted {β : Type} {r : Except Errno β} {k : Except Errno β → Native α}
    (next : ∀ env', env'.raised = env.raised → ends σ env' (k r) post) :
    ends σ env (noted r >>= k) post := by
  apply amwp_bind
  cases r with
  | ok b => exact amwp_pure (next env rfl)
  | error errno => exact awp_pure (next { env with errno := errno } rfl)

/-- A `close` that closes what is open, whatever it answers for `INVALID_FD`. -/
theorem closed_of_steps {r : Except Errno Unit} (mine : σ.Mine fd)
    (step : steps σ ⟨.io (.close fd), r⟩ σ') :
    σ' = σ.close fd := by
  obtain ⟨answer, closes⟩ := step
  cases r with
  | ok => exact answer
  | error errno =>
      rcases mine with nobody | opened
      · rcases answer with rfl | ⟨opened, same⟩
        · rw [Table.touch_nobody nobody, Table.close_nobody nobody]
        · cases closes opened
      · cases closes opened

theorem release_ends (mine : σ.Mine fd) :
    ends σ env (release fd) fun σ' env' x => x = .ok () ∧
      env'.raised = env.raised ∧ σ' = σ.close fd := by
  apply amwp_request_bind
  intro r σ' step
  rw [closed_of_steps mine step]
  exact ⟨trivial, ends_noted fun env' same => amwp_pure ⟨rfl, same, rfl⟩⟩

theorem ends_release (mine : σ.Mine fd) {k : Unit → Native α}
    (next : ∀ env', env'.raised = env.raised → ends (σ.close fd) env' (k ()) post) :
    ends σ env (release fd >>= k) post := by
  apply amwp_bind
  apply amwp_mono (release_ends mine)
  rintro σ' env' x ⟨rfl, same, rfl⟩
  exact next env' same

/-- Where every `close` of an open descriptor succeeds, none is lost. -/
theorem steps_lost {ev : Event life} (step : steps σ ev σ') : σ'.lost = σ.lost := by
  obtain ⟨e, r⟩ := ev
  obtain ⟨answer, closes⟩ := step
  cases own : touches e with
  | some fd =>
      rw [answers_touch own answer]
      exact Table.touch_lost
  | none =>
      cases e with
      | io e =>
          cases e with
          | getFd => exact congrArg Table.lost answer.2
          | getCloseEventReadFd => exact congrArg Table.lost answer.2
          | getCloseEventWriteFd => exact congrArg Table.lost answer.2
          | setFd fd =>
              obtain rfl : σ' = σ.setSocket .port fd := answer
              rfl
          | setCloseEventReadFd fd =>
              obtain rfl : σ' = σ.setSocket .eventRead fd := answer
              rfl
          | setCloseEventWriteFd fd =>
              obtain rfl : σ' = σ.setSocket .eventWrite fd := answer
              rfl
          | close fd =>
              cases r with
              | ok => exact (congrArg Table.lost answer).trans Table.close_lost
              | error errno =>
                  rcases answer with rfl | ⟨opened, -⟩
                  · exact Table.touch_lost
                  · cases closes opened
          | writeEvent fd => cases own
          | tcflush fd => cases own
          | _ => exact congrArg Table.lost answer
      | getCleaner part => exact congrArg Table.lost answer.2
      | setCleaner part fd =>
          obtain rfl : σ' = σ.setCleaner part fd := answer
          rfl
      | «open» portName =>
          cases r with
          | ok fd =>
              obtain rfl : σ' = σ.obtain fd := answer.2
              rfl
          | error errno => exact congrArg Table.lost answer
      | eventfd =>
          cases r with
          | ok fd =>
              obtain rfl : σ' = σ.obtain fd := answer.2
              rfl
          | error errno => exact congrArg Table.lost answer
      | pipe =>
          cases r with
          | ok pipedes =>
              obtain rfl : σ' = (σ.obtain pipedes.1).obtain pipedes.2 := answer.2.2
              rfl
          | error errno => exact congrArg Table.lost answer
      | tcgetattr fd => cases own
      | TIOCEXCL fd => cases own
      | tcsetattr fd settings => cases own
      | _ => exact congrArg Table.lost answer

theorem answered_lost {h : History life} (answered : Answered steps σ h σ') : σ'.lost = σ.lost := by
  induction answered with
  | nil => rfl
  | cons step _ ih => exact ih.trans (steps_lost step)

theorem whenReturned_ends {ω : Type} {ans : ω → Event life → ω → Prop} {w : ω} {next : Native Unit}
    {post : ω → Env → Except ℤ Unit → Prop}
    (returned : env.raised = [] → amwp ans (fun _ => True) w env next post)
    (thrown : env.raised ≠ [] → post w env (.ok ())) :
    amwp ans (fun _ => True) w env (whenReturned next) post := by
  refine amwp_bind (awp_pure ?_)
  change amwp ans (fun _ => True) w env (if env.raised = [] then next else pure ()) post
  split
  · next quietly => exact returned quietly
  · next raised => exact amwp_pure (thrown raised)

end Rules
section Constructor
variable {b : Build} {portName : String} {σ : Table} {env : Env} {fd : ℤ}

/-- Nothing has been thrown yet. -/
def calling : Env := ⟨[], .EAGAIN, []⟩

/-- The port alone is open. -/
structure HasPort (fd : ℤ) (σ : Table) : Prop where
  only : σ.toInventory.Only Table.Nobody fd
  named : σ.socket .port = fd

/-- The fields of `names` name what is open, and the event is not the port. -/
structure Full (names : Part → ℤ) (σ : Table) : Prop where
  kept : σ.Kept
  opened : ∀ fd, σ.opened fd = true ↔ ∃ part, names part = fd
  apart : ∀ part, part ≠ .port → names part ≠ names .port

/-- How a part of `open0` ends. -/
def Leaves (σ : Table) (env : Env) (x : Except ℤ Unit) : Prop :=
  x = .ok () ∧ (env.raised = [] → Full σ.socket σ) ∧ (env.raised ≠ [] → σ.Gone)

theorem HasPort.touch (port : HasPort fd σ) : HasPort fd (σ.touch fd) :=
  ⟨port.only.touch, port.named⟩

theorem throwing_ends (gone : σ.Gone) (e : JavaException) : ends σ env (throwing e) Leaves :=
  awp_pure ⟨rfl, by simp, fun _ => gone⟩

theorem throwNative_ends (gone : σ.Gone) (msg : String) :
    ends σ env (throw_IOException_NativeError b msg) Leaves :=
  amwp_bind (awp_pure (throwing_ends gone _))

theorem giveUp_gone (port : HasPort fd σ) :
    ends σ env (giveUp fd) fun σ' env' x => x = .ok () ∧ σ'.Gone ∧ env'.raised = env.raised := by
  apply ends_release port.only.mine
  intro env' same
  apply amwp_request
  rintro r σ' ⟨rfl, -⟩
  exact ⟨trivial, rfl, port.only.close, same⟩

/-- The port is closed again, and something is thrown. -/
theorem giveUp_ends {next : Unit → Native Unit} (port : HasPort fd σ)
    (throws : ∀ σ env', σ.Gone → env'.raised = env.raised → ends σ env' (next ()) Leaves) :
    ends σ env (giveUp fd >>= next) Leaves := by
  apply amwp_bind
  apply amwp_mono (giveUp_gone port)
  rintro σ' env' x ⟨rfl, gone, same⟩
  exact throws σ' env' gone same

/-- The descriptors of the event are stored next to that of the port. -/
theorem storeEvent_ends {read write : ℤ} (quietly : env.raised = []) (kept : σ.Kept)
    (named : σ.socket .port = fd)
    (opened : ∀ fd', σ.opened fd' = true ↔ fd' = fd ∨ fd' = read ∨ fd' = write)
    (readOther : read ≠ fd) (writeOther : write ≠ fd) : ends σ env (do
      ask (.io (.setCloseEventReadFd read))
      ask (.io (.setCloseEventWriteFd write))) Leaves := by
  apply amwp_request_bind
  rintro r σ₁ ⟨rfl, -⟩
  refine ⟨trivial, amwp_request ?_⟩
  rintro r σ₂ ⟨rfl, -⟩
  have port : ((σ.setSocket .eventRead read).setSocket .eventWrite write).socket .port = fd := by
    rw [Table.setSocket_other (by simp), Table.setSocket_other (by simp), named]
  have reads : ((σ.setSocket .eventRead read).setSocket .eventWrite write).socket .eventRead =
      read := by
    rw [Table.setSocket_other (by simp), Table.setSocket_self]
  have writes : ((σ.setSocket .eventRead read).setSocket .eventWrite write).socket .eventWrite =
    write :=
    Table.setSocket_self
  refine ⟨trivial, rfl, fun _ => ⟨kept, fun fd' => (opened fd').trans ?_, fun part other => ?_⟩,
    fun raised => absurd quietly raised⟩
  · constructor
    · rintro (rfl | rfl | rfl)
      · exact ⟨.port, port⟩
      · exact ⟨.eventRead, reads⟩
      · exact ⟨.eventWrite, writes⟩
    · rintro ⟨part, rfl⟩
      cases part with
      | port => exact .inl port
      | eventRead => exact .inr (.inl reads)
      | eventWrite => exact .inr (.inr writes)
  · rw [port]
    cases part with
    | port => exact absurd rfl other
    | eventRead =>
        rw [reads]
        exact readOther
    | eventWrite =>
        rw [writes]
        exact writeOther

theorem openEvent_ends (quietly : env.raised = []) (port : HasPort fd σ) :
    ends σ env (openEvent b fd) Leaves := by
  have fails : ∀ env msg, ends σ env (do release fd; throw_IOException_NativeError b msg) Leaves :=
    fun env msg => ends_release port.only.mine fun env' _ => throwNative_ends port.only.close msg
  have other : ∀ {fd'}, σ.Fresh fd' → fd' ≠ fd := by
    rintro fd' fresh rfl
    cases fresh.1.symm.trans ((port.only.opened fd').mpr rfl)
  rw [openEvent]
  split
  · apply amwp_request_bind
    rintro (errno | event) σ₁ ⟨answer, -⟩
    · obtain rfl : σ₁ = σ := answer
      exact ⟨trivial, ends_noted fun env' _ => fails env' _⟩
    obtain ⟨fresh, rfl⟩ := answer
    refine ⟨trivial, ends_noted fun env' same => ?_⟩
    refine storeEvent_ends (same.trans quietly) (port.only.kept.obtain fresh) port.named
      (fun fd' => ?_) (other fresh) (other fresh)
    have opened : (σ.toInventory.obtain event).opened fd' = true ↔ _ :=
      Inventory.obtain_opened event fd'
    rw [port.only.opened] at opened
    rw [or_self, or_comm]
    exact opened
  · apply amwp_request_bind
    rintro (errno | pipedes) σ₁ ⟨answer, -⟩
    · obtain rfl : σ₁ = σ := answer
      exact ⟨trivial, ends_noted fun env' _ => fails env' _⟩
    obtain ⟨read, write, rfl⟩ := answer
    refine ⟨trivial, ends_noted fun env' same => ?_⟩
    have kept := (port.only.kept.obtain read).obtain write
    have writeOther : pipedes.2 ≠ fd := by
      intro same
      have opened :=
        (Inventory.obtain_opened pipedes.1 pipedes.2).mpr (.inr ((port.only.opened _).mpr same))
      cases write.1.symm.trans opened
    refine storeEvent_ends (same.trans quietly) kept port.named (fun fd' => ?_)
      (other read) writeOther
    have first : (σ.toInventory.obtain pipedes.1).opened fd' = true ↔ _ :=
      Inventory.obtain_opened pipedes.1 fd'
    have second : ((σ.toInventory.obtain pipedes.1).obtain pipedes.2).opened fd' = true ↔ _ :=
      Inventory.obtain_opened pipedes.2 fd'
    rw [port.only.opened] at first
    refine second.trans ((or_congr_right first).trans ?_)
    tauto

theorem flush_ends (quietly : env.raised = []) (port : HasPort fd σ) :
    ends σ env (flush b fd) Leaves := by
  refine ends_touch rfl fun flushed => ends_noted fun env' same => ?_
  cases flushed with
  | error errno => exact giveUp_ends port.touch fun _ _ gone _ => throwNative_ends gone _
  | ok => exact openEvent_ends (same.trans quietly) port.touch

theorem setParams_ends {post : Table → Env → Except ℤ (Except JavaException Unit) → Prop}
    (port : HasPort fd σ) (settings : StructTermios) (paramBitSet : BitVec 32)
    (next : ∀ σ' env' r, HasPort fd σ' → env'.raised = env.raised → post σ' env' (.ok r)) :
    ends σ env (setParams b portName settings paramBitSet) post := by
  apply amwp_request_bind
  rintro r σ' ⟨⟨rfl, same⟩, -⟩
  obtain rfl : σ' = σ := same
  refine ⟨trivial, amwp_bind (awp_pure ?_)⟩
  rw [port.named]
  dsimp only [Method.arest]
  cases alter b.p (b.socket portName fd env) settings paramBitSet with
  | error e => exact amwp_pure (next _ _ _ port rfl)
  | ok settings =>
      refine ends_touch rfl fun stored => ends_noted fun env' same => ?_
      cases stored with
      | error errno => exact amwp_pure (next _ _ _ port.touch same)
      | ok =>
          refine ends_touch rfl fun read => ends_noted fun env'' again => ?_
          cases read with
          | error errno => exact amwp_pure (next _ _ _ port.touch.touch (again.trans same))
          | ok settings => exact amwp_pure (next _ _ _ port.touch.touch (again.trans same))

theorem configure_ends (quietly : env.raised = []) (port : HasPort fd σ) (settings : StructTermios)
    (paramBitSet : BitVec 32) :
    ends σ env (configure b portName fd settings paramBitSet) Leaves := by
  rw [configure]
  split
  · refine amwp_bind (setParams_ends port _ _ fun σ' env' r port same => ?_)
    cases r with
    | error e =>
        refine amwp_bind (awp_pure (amwp_mono (giveUp_gone port) ?_))
        rintro σ'' env'' x ⟨rfl, gone, again⟩
        exact ⟨rfl, fun quietly => by simp [again] at quietly, fun _ => gone⟩
    | ok => exact flush_ends (same.trans quietly) port
  · refine ends_touch rfl fun stored => ends_noted fun env' same => ?_
    cases stored with
    | error errno => exact giveUp_ends port.touch fun _ _ gone _ => throwNative_ends gone _
    | ok => exact flush_ends (same.trans quietly) port.touch

theorem occupy_ends (quietly : env.raised = []) (port : HasPort fd σ) (paramBitSet : BitVec 32) :
    ends σ env (occupy b portName fd paramBitSet) Leaves := by
  refine ends_touch rfl fun found => ends_noted fun env' same => ?_
  cases found with
  | error errno =>
      refine giveUp_ends port.touch fun σ' env'' gone _ => amwp_bind (awp_pure ?_)
      change ends σ' env'' (if env''.errno = Jnhw.ENOTTY then _ else _) Leaves
      split
      · exact throwing_ends gone _
      · exact throwNative_ends gone _
  | ok settings =>
      refine ends_touch rfl fun exclusive => ends_noted fun env'' again => ?_
      cases exclusive with
      | error errno => exact giveUp_ends port.touch.touch fun _ _ gone _ => throwNative_ends gone _
      | ok => exact configure_ends (again.trans
          (same.trans quietly)) port.touch.touch settings paramBitSet

theorem open0_ends (paramBitSet : BitVec 32) :
    ends .initial calling (open0 b portName paramBitSet) Leaves := by
  apply amwp_request_bind
  rintro r σ ⟨⟨rfl, same⟩, -⟩
  obtain rfl : σ = .initial := same
  have unopened : ¬Table.initial.socket .port ≠ INVALID_FD := not_not_intro rfl
  rw [if_neg unopened]
  refine ⟨trivial, amwp_request_bind ?_⟩
  rintro (errno | fd) σ ⟨answer, -⟩
  · obtain rfl : σ = .initial := answer
    refine ⟨trivial, ends_noted fun env' _ => amwp_request_bind ?_⟩
    rintro r σ ⟨rfl, -⟩
    have gone : (Table.initial.setSocket .port INVALID_FD).Gone := Inventory.gone_empty
    exact ⟨trivial, throwing_ends gone _⟩
  · obtain ⟨fresh, rfl⟩ := answer
    refine ⟨trivial, ends_noted fun env' same => amwp_request_bind ?_⟩
    rintro r σ ⟨rfl, -⟩
    have port : HasPort fd ((Table.initial.obtain fd).setSocket .port fd) :=
      ⟨Inventory.gone_empty.obtain fresh, Table.setSocket_self⟩
    exact ⟨trivial, occupy_ends same port paramBitSet⟩

/-- The cleaner has what the socket has. -/
structure Ready (σ : Table) : Prop where
  full : Full σ.cleaner σ
  same : σ.socket = σ.cleaner

theorem register_ends (full : Full σ.socket σ) :
    ends σ env register fun σ' env' _ => env' = env ∧ Ready σ' := by
  apply amwp_request_bind
  rintro r σ₁ ⟨answer, -⟩
  obtain rfl : σ₁ = σ := answer
  refine ⟨trivial, amwp_request_bind ?_⟩
  rintro r σ₂ ⟨⟨rfl, same⟩, -⟩
  obtain rfl : σ₂ = σ₁ := same
  refine ⟨trivial, amwp_request_bind ?_⟩
  rintro r σ₃ ⟨rfl, -⟩
  refine ⟨trivial, amwp_request_bind ?_⟩
  rintro r σ₄ ⟨⟨rfl, same⟩, -⟩
  obtain rfl : σ₄ = σ₂.setCleaner .port (σ₂.socket .port) := same
  refine ⟨trivial, amwp_request_bind ?_⟩
  rintro r σ₅ ⟨rfl, -⟩
  refine ⟨trivial, amwp_request_bind ?_⟩
  rintro r σ₆ ⟨⟨rfl, same⟩, -⟩
  obtain rfl : σ₆ = (σ₂.setCleaner .port (σ₂.socket .port)).setCleaner .eventRead
    (σ₂.socket .eventRead) := same
  refine ⟨trivial, amwp_request ?_⟩
  rintro r σ₇ ⟨rfl, -⟩
  let σ' := ((σ₂.setCleaner .port (σ₂.socket .port)).setCleaner .eventRead
    (σ₂.socket .eventRead)).setCleaner .eventWrite (σ₂.socket .eventWrite)
  have same : σ'.cleaner = σ₂.socket := by
    funext part
    cases part with
    | port => exact (Table.setCleaner_other
        (by simp)).trans ((Table.setCleaner_other (by simp)).trans Table.setCleaner_self)
    | eventRead => exact (Table.setCleaner_other (by simp)).trans Table.setCleaner_self
    | eventWrite => exact Table.setCleaner_self
  have known : Full σ'.cleaner σ' := by
    rw [same]
    exact ⟨full.kept, full.opened, full.apart⟩
  exact ⟨trivial, rfl, known, same.symm⟩

/-- How the constructor ends. -/
def Opens (σ : Table) (env : Env) (_ : Except ℤ Unit) : Prop :=
  (env.raised = [] → Ready σ) ∧ (env.raised ≠ [] → σ.Gone)

theorem open_ends (b : Build) (portName : String) (paramBitSet : BitVec 32) :
    ends .initial calling («open» b portName paramBitSet) Opens := by
  apply amwp_bind
  apply amwp_mono (open0_ends paramBitSet)
  rintro σ env x ⟨rfl, returned, thrown⟩
  refine whenReturned_ends (fun quietly => amwp_mono (register_ends (returned quietly)) ?_)
    fun raised => ⟨fun quietly => absurd quietly raised, thrown⟩
  rintro σ' env' x ⟨rfl, ready⟩
  exact ⟨fun _ => ready, fun raised => absurd quietly raised⟩

end Constructor
section Closer
variable {σ : Table} {env : Env} {names : Part → ℤ} {s : TermiosIO.Settings}

/-- How the one who closes leaves the descriptors to the cleaner: the event is open; the port
is open, or the cleaner has no number of it, unless it was lost. -/
structure Left (σ : Table) : Prop where
  kept : σ.Kept
  event : ∀ part, part ≠ .port → σ.opened (σ.cleaner part) = true ∧ σ.cleaner part ≠ σ.cleaner .port
  only : ∀ fd, σ.opened fd = true → ∃ part, σ.cleaner part = fd
  found : σ.lost = false → σ.Mine (σ.cleaner .port)
  gone : σ.lost = true → σ.cleaner .port ≠ INVALID_FD ∧ σ.Stale (σ.cleaner .port)

theorem Full.open (full : Full names σ) (part : Part) : σ.opened (names part) = true :=
  (full.opened _).mpr ⟨part, rfl⟩

/-- What the cleaner knows, whatever becomes of the fields of the socket. -/
structure Knows (names : Part → ℤ) (σ : Table) : Prop where
  full : Full names σ
  cleaner : σ.cleaner = names
  found : σ.lost = false

theorem Knows.touch (knows : Knows names σ) (part : Part) : Knows names (σ.touch (names part)) where
  full := by
    refine ⟨knows.full.kept.touch (.inr (knows.full.open part)), ?_, knows.full.apart⟩
    rw [Table.touch_opened]
    exact knows.full.opened
  cleaner := Table.touch_cleaner.trans knows.cleaner
  found := Table.touch_lost.trans knows.found

theorem Knows.setSocket (knows : Knows names σ) (part : Part) (fd : ℤ) :
    Knows names (σ.setSocket part fd) :=
  ⟨⟨knows.full.kept, knows.full.opened, knows.full.apart⟩, knows.cleaner, knows.found⟩

theorem Knows.left (knows : Knows names σ) : Left σ := by
  obtain ⟨full, rfl, found⟩ := knows
  exact ⟨full.kept, fun part other => ⟨full.open part, full.apart part other⟩,
    fun fd => (full.opened fd).mp, fun _ => .inr (full.open .port),
    fun lost => by cases found.symm.trans lost⟩

/-- The port has been closed, and the event is open yet. -/
structure Closed (σ : Table) : Prop where
  kept : σ.Kept
  event : ∀ part, part ≠ .port → σ.opened (σ.cleaner part) = true ∧ σ.cleaner part ≠ σ.cleaner .port
  only : ∀ fd, σ.opened fd = true → ∃ part, part ≠ .port ∧ σ.cleaner part = fd
  stale : σ.Stale (σ.cleaner .port)
  valid : σ.cleaner .port ≠ INVALID_FD
  found : σ.lost = false

theorem Knows.closed (knows : Knows names σ) : Closed (σ.close (names .port)) := by
  obtain ⟨full, rfl, found⟩ := knows
  have kept := full.kept
  have opened := full.open .port
  constructor
  case kept => exact kept.close (.inr opened)
  case event =>
    intro part other
    have apart := full.apart part other
    rw [Table.close_cleaner]
    exact ⟨(Inventory.opened_close kept _).mpr ⟨full.open part, apart⟩, apart⟩
  case only =>
    intro fd still
    obtain ⟨before, other⟩ := (Inventory.opened_close kept fd).mp still
    obtain ⟨part, rfl⟩ := (full.opened fd).mp before
    refine ⟨part, ?_, by rw [Table.close_cleaner]⟩
    rintro rfl
    exact other rfl
  case stale =>
    rw [Table.close_cleaner]
    exact kept.stale opened
  case valid =>
    rw [Table.close_cleaner]
    exact kept.somebody opened
  case found => exact Table.close_lost.trans found

/-- Where closing has failed, the cleaner still has the number. -/
theorem Closed.lost (closed : Closed σ) : Left { σ with lost := true } where
  kept := closed.kept
  event := closed.event
  only fd opened := by
    obtain ⟨part, -, named⟩ := closed.only fd opened
    exact ⟨part, named⟩
  found found := by cases found
  gone _ := ⟨closed.valid, closed.stale⟩

/-- Where it has not, the cleaner forgets the number. -/
theorem Closed.forget (closed : Closed σ) : Left (σ.setCleaner .port INVALID_FD) where
  kept := closed.kept
  event part other := by
    rw [Table.setCleaner_other other, Table.setCleaner_self]
    exact ⟨(closed.event part other).1, closed.kept.somebody (closed.event part other).1⟩
  only fd opened := by
    obtain ⟨part, other, named⟩ := closed.only fd opened
    exact ⟨part, (Table.setCleaner_other other).trans named⟩
  found _ := .inl Table.setCleaner_self
  gone lost := by cases closed.found.symm.trans lost

/-- How `close0` ends. -/
def Closes (σ : Table) (env : Env) (x : Except ℤ Unit) : Prop :=
  x = .ok () ∧ (env.raised = [] → Closed σ) ∧ (env.raised ≠ [] → Left σ)

theorem close0_ends (quietly : env.raised = []) (ready : Ready σ) (found : σ.lost = false) :
    amwp (io.pullback Table.answers) (fun _ => True) σ env (close0 s) Closes := by
  have fields := congrFun ready.same
  have knows : Knows σ.cleaner σ := ⟨ready.full, rfl, found⟩
  apply amwp_request_bind
  rintro r σ₁ ⟨r', rfl, rfl, same⟩
  obtain rfl : σ₁ = σ := same
  rw [fields]
  refine ⟨trivial, amwp_request_bind ?_⟩
  rintro r σ₂ ⟨r', rfl, rfl⟩
  have knows := knows.setSocket .port INVALID_FD
  refine ⟨trivial, amwp_request_bind ?_⟩
  rintro r σ₃ ⟨r', rfl, rfl, same⟩
  obtain rfl : σ₃ = σ₁.setSocket .port INVALID_FD := same
  rw [Table.setSocket_other (by simp), fields]
  have knows := knows.touch .eventWrite
  refine ⟨trivial, amwp_request_bind ?_⟩
  rintro r σ₄ ⟨r', rfl, rfl⟩
  have knows := knows.touch .port
  refine ⟨trivial, amwp_request_bind ?_⟩
  rintro r σ₅ ⟨r', rfl, rfl⟩
  refine ⟨trivial, amwp_request_bind ?_⟩
  rintro r σ₆ ⟨r', rfl, rfl⟩
  have knows := (knows.setSocket .eventWrite INVALID_FD).setSocket .eventRead INVALID_FD
  refine ⟨trivial, amwp_request_bind ?_⟩
  rintro r σ₇ ⟨r', rfl, rfl⟩
  refine ⟨trivial, amwp_request_bind ?_⟩
  rintro r σ₈ ⟨r', rfl, answer⟩
  refine ⟨trivial, ?_⟩
  cases r with
  | ok =>
      obtain rfl : σ₈ = _ := answer
      exact amwp_pure ⟨rfl, fun _ => knows.closed, fun raised => absurd quietly raised⟩
  | error errno =>
      refine awp_pure ⟨rfl, by simp, fun _ => ?_⟩
      rcases answer with rfl | ⟨-, rfl⟩
      · exact (knows.touch .port).left
      · exact knows.closed.lost

theorem implCloseChannel_ends (ready : Ready σ) (found : σ.lost = false) :
    amwp Table.answers (fun _ => True) σ calling (implCloseChannel s) fun σ' _ _ => Left σ' := by
  apply amwp_bind
  apply amwp_mono (Method.amwp_embed (close0_ends rfl ready found))
  rintro σ' env x ⟨rfl, closed, failed⟩
  have rest : amwp Table.answers (fun _ => True) σ' env
      (whenReturned (ask (.setCleaner .port INVALID_FD))) fun σ' _ _ => Left σ' := by
    refine whenReturned_ends (fun quietly => amwp_request ?_) failed
    rintro r σ'' rfl
    exact ⟨trivial, (closed quietly).forget⟩
  exact rest

end Closer
section Cleaner
variable {σ σ' : Table} {env : Env} {fd : ℤ}

theorem ends_cleaner {α : Type} {part : Part} {k : ℤ → Native α}
    {post : Table → Env → Except ℤ α → Prop} (next : ends σ env (k (σ.cleaner part)) post) :
    ends σ env (ask (.getCleaner part) >>= k) post := by
  apply amwp_request_bind
  rintro r σ' ⟨⟨rfl, same⟩, -⟩
  obtain rfl : σ' = σ := same
  exact ⟨trivial, next⟩

theorem ends_seq {α : Type} {m : Native Unit} {k : Unit → Native α} {mid : Table → Prop}
    {post : Table → Env → Except ℤ α → Prop}
    (first : ends σ env m fun σ' _ x => x = .ok () ∧ mid σ')
    (next : ∀ σ' env', mid σ' → ends σ' env' (k ()) post) : ends σ env (m >>= k) post := by
  apply amwp_bind
  apply amwp_mono first
  rintro σ' env' x ⟨rfl, after⟩
  exact next σ' env' after

theorem signal_ends (fd : ℤ) :
    ends σ env (signal fd) fun σ' _ x => x = .ok () ∧ σ' = σ.touch fd := by
  rw [signal]
  split
  · refine ends_touch rfl fun written => amwp_request ?_
    rintro r σ' ⟨rfl, -⟩
    exact ⟨trivial, rfl, rfl⟩
  · next none =>
    rw [not_not] at none
    exact amwp_pure ⟨rfl, (Table.touch_nobody none).symm⟩

theorem releaseValid_ends (mine : σ.Mine fd) :
    ends σ env (releaseValid fd) fun σ' _ x => x = .ok () ∧ σ' = σ.close fd := by
  rw [releaseValid]
  split
  · apply amwp_mono (release_ends mine)
    rintro σ' env' x ⟨rfl, -, rfl⟩
    exact ⟨rfl, rfl⟩
  · next none =>
    rw [not_not] at none
    exact amwp_pure ⟨rfl, (Table.close_nobody none).symm⟩

theorem close_spoiled {r : Except Errno Unit} (spoiled : σ.Spoiled)
    (answer : σ.answers ⟨.io (.close fd), r⟩ σ') :
    σ'.Spoiled := by
  cases r with
  | ok =>
      obtain rfl : σ' = σ.close fd := answer
      exact spoiled.close fd
  | error errno =>
      rcases answer with rfl | ⟨-, rfl⟩
      · exact spoiled.touch fd
      · exact spoiled.close fd

theorem noted_keeps {α : Type} {I : Table → Prop} (r : Except Errno α) :
    Keeps steps I (noted r) := by
  cases r with
  | ok a => exact .pure _
  | error errno => exact .bind (.assign _) fun _ => .pure _

theorem release_keeps (fd : ℤ) : Keeps steps Table.Spoiled (release fd) := by
  refine .bind (.request fun σ r σ' spoiled step => ?_) fun result =>
    .bind (noted_keeps result) fun _ => .pure _
  exact close_spoiled spoiled step.1

theorem releaseValid_keeps (fd : ℤ) : Keeps steps Table.Spoiled (releaseValid fd) := by
  rw [releaseValid]
  split
  · exact release_keeps fd
  · exact .pure _

/-- A number that was lost is closed again. -/
theorem releaseValid_spoils (valid : fd ≠ INVALID_FD) (stale : σ.Stale fd) :
    ends σ env (releaseValid fd) fun σ' _ x => x = .ok () ∧ σ'.Spoiled := by
  rw [releaseValid, if_pos valid]
  apply amwp_request_bind
  rintro r σ' ⟨answer, -⟩
  have spoiled : σ'.Spoiled := by
    cases r with
    | ok =>
        obtain rfl : σ' = σ.close fd := answer
        exact stale.close valid
    | error errno =>
        rcases answer with rfl | ⟨-, rfl⟩
        · exact stale.touch valid
        · exact stale.close valid
  exact ⟨trivial, ends_noted fun _ _ => amwp_pure ⟨rfl, spoiled⟩⟩

/-- What its fields name the cleaner closes, and that is all there is. -/
theorem runCleaner_gone (left : Left σ) (found : σ.lost = false) :
    ends σ env runCleaner fun σ' _ _ => σ'.Gone := by
  obtain ⟨readOpen, readOther⟩ := left.event .eventRead (by simp)
  obtain ⟨writeOpen, writeOther⟩ := left.event .eventWrite (by simp)
  refine ends_cleaner (ends_cleaner (ends_cleaner (ends_seq (signal_ends _) ?_)))
  rintro _ env rfl
  have kept := left.kept.touch (.inr readOpen)
  have opened : (σ.touch (σ.cleaner .eventRead)).opened = σ.opened := Table.touch_opened
  have mine : (σ.touch (σ.cleaner .eventRead)).Mine (σ.cleaner .port) := by
    exact (left.found found).imp_right fun still => opened ▸ still
  refine ends_seq (releaseValid_ends mine) ?_
  rintro _ env rfl
  have read : ((σ.touch (σ.cleaner .eventRead)).close (σ.cleaner .port)).Mine
    (σ.cleaner .eventRead) :=
    .inr ((Inventory.opened_close kept _).mpr ⟨opened ▸ readOpen, readOther⟩)
  have keptPort := kept.close mine
  refine ends_seq (releaseValid_ends read) ?_
  rintro _ env rfl
  have keptRead := keptPort.close read
  have closed : ∀ fd, (((σ.touch (σ.cleaner .eventRead)).close (σ.cleaner .port)).close
      (σ.cleaner .eventRead)).opened fd =
      true ↔ (σ.opened fd = true ∧ fd ≠ σ.cleaner .port) ∧ fd ≠ σ.cleaner .eventRead := by
    intro fd
    have port := Inventory.opened_close kept (t := σ.cleaner .port) fd
    rw [Inventory.touch_opened] at port
    exact (Inventory.opened_close keptPort fd).trans (and_congr_left' port)
  have last : ∀ fd, σ.opened fd = true → fd ≠ σ.cleaner .port → fd ≠ σ.cleaner .eventRead →
      fd = σ.cleaner .eventWrite := by
    intro fd opened port read
    obtain ⟨part, rfl⟩ := left.only fd opened
    cases part with
    | port => exact absurd rfl port
    | eventRead => exact absurd rfl read
    | eventWrite => rfl
  split
  · next apart =>
    have write : (((σ.touch (σ.cleaner .eventRead)).close (σ.cleaner .port)).close
        (σ.cleaner .eventRead)).Mine (σ.cleaner .eventWrite) :=
        .inr ((closed _).mpr ⟨⟨writeOpen, writeOther⟩, apart.2⟩)
    apply amwp_mono (release_ends write)
    rintro _ env' x ⟨-, -, rfl⟩
    refine ⟨keptRead.close write, fun fd => Bool.eq_false_iff.mpr fun still => ?_⟩
    obtain ⟨before, other⟩ := (Inventory.opened_close keptRead fd).mp still
    obtain ⟨⟨before, port⟩, read⟩ := (closed fd).mp before
    exact other (last fd before port read)
  · next same =>
    have same : σ.cleaner .eventWrite = σ.cleaner .eventRead :=
      of_not_not fun other => same ⟨left.kept.somebody writeOpen, other⟩
    refine amwp_pure ⟨keptRead, fun fd => Bool.eq_false_iff.mpr fun still => ?_⟩
    obtain ⟨⟨before, port⟩, read⟩ := (closed fd).mp still
    exact read ((last fd before port read).trans same)

theorem runCleaner_spoils (left : Left σ) (lost : σ.lost = true) :
    ends σ env runCleaner fun σ' _ _ => σ'.Spoiled := by
  obtain ⟨valid, stale⟩ := left.gone lost
  refine ends_cleaner (ends_cleaner (ends_cleaner (ends_seq (signal_ends _) ?_)))
  rintro _ env rfl
  refine ends_seq (releaseValid_spoils valid
    (stale.touch_other (left.event .eventRead (by simp)).2)) ?_
  intro σ' env spoiled
  have rest : Keeps steps Table.Spoiled (do
      releaseValid (σ.cleaner .eventRead)
      if σ.cleaner .eventWrite ≠ INVALID_FD ∧ σ.cleaner .eventWrite ≠ σ.cleaner .eventRead then
        release (σ.cleaner .eventWrite)
      else pure ()) := by
    refine .bind (releaseValid_keeps _) fun _ => ?_
    split
    · exact release_keeps _
    · exact .pure _
  exact rest σ' env spoiled

end Cleaner
section Sharing
variable {ι : Type} [DecidableEq ι]

/-- What the one who closes asks for, and what the calls ask for. -/
def Signatures : Option ι → Signature
  | none => life
  | some _ => TermiosIO.termios

/-- What they end with. -/
def Outcome : Option ι → Type
  | none => Except ℤ Unit × Env
  | some _ => Except ℤ ℤ × Env

/-- `implCloseChannel` and the calls, on the descriptors `σ`. -/
def sharing (s : TermiosIO.Settings) (σ : Table) (calls : ι → NativeCall) :
    Interleaved.System (Option ι) Signatures Outcome Table where
  initial := σ
  program
    | none => implCloseChannel s calling
    | some i => (calls i).program
  answers σ
    | none, ev => σ.answers ev
    | some _, ev => σ.answers ⟨.io ev.1, ev.2⟩

section Runs
variable {s : TermiosIO.Settings} {σ σ' : Table} {calls : ι → NativeCall}
  {t : Interleaved (Option ι) Signatures Outcome Table}

/-- A call leaves the descriptors alone. -/
theorem answers_modest {ev : Event TermiosIO.termios} (own : TermiosIO.modest ev.1 = true)
    (answer : σ.answers ⟨.io ev.1, ev.2⟩ σ') : σ' = σ := by
  obtain ⟨e, r⟩ := ev
  cases e with
  | getFd => exact answer.2
  | getCloseEventReadFd => exact answer.2
  | read fd room => exact answer
  | write fd bytes => exact answer
  | poll direction port close timeout => exact answer
  | sleep direction port close timeout => exact answer
  | clockGettime => exact answer
  | _ => cases own

def lawOf : (i : Option ι) → History (Signatures i) → Prop
  | none => fun _ => True
  | some _ => TermiosIO.Law

omit [DecidableEq ι] in
theorem laws (s : TermiosIO.Settings) (σ : Table) (calls : ι → NativeCall) (i : Option ι) :
    wp (lawOf i) [] ((sharing s σ calls).program i) (fun _ _ => True) := by
  cases i with
  | none => exact fun _ _ _ => ⟨fun _ => trivial, fun _ _ => trivial⟩
  | some i =>
      change wp TermiosIO.Law [] (calls i).program fun _ _ => True
      cases calls i with
      | readBuffer s len env => exact TermiosIO.readBuffer_law s len env
      | writeBuffer s buff env => exact TermiosIO.writeBuffer_law s buff env

/-- Only the one who closes changes the descriptors. -/
theorem reached_answered {ok : Interleaved (Option ι) Signatures Outcome Table →
      Option (Interleaved.Label (Signatures : Option ι → Signature)) → Prop}
    (reached : Interleaved.Reached (sharing s σ calls) ok t) :
    Answered Table.answers σ (t.record none) t.shared := by
  apply reached.answered_lawful (laws s σ calls) none
  · exact fun _ _ _ _ answer => answer
  · intro t' j ev shared other law answer
    cases j with
    | none => exact absurd rfl other
    | some j =>
        have law : TermiosIO.Law (t'.record (some j) ++ [ev]) := law
        exact answers_modest
          (law.modest ev (List.mem_append_right _ (List.mem_singleton_self _))) answer

/-- What the cleaner finds. -/
theorem reached_left (ready : Ready σ) (found : σ.lost = false)
    (reached : Interleaved.Reached (sharing s σ calls) (fun _ _ => True) t)
    (closer : t.record none = [] ∨ ∃ y, t.thread none = .pure y) : Left t.shared := by
  have record := reached_answered reached
  rcases closer with none_yet | ⟨y, done⟩
  · rw [none_yet] at record
    cases record
    have knows : Knows t.shared.cleaner t.shared := ⟨ready.full, rfl, found⟩
    exact knows.left
  · have returns : Returns (implCloseChannel s calling) (t.record none) y := by
      have run := reached.run none
      rw [done] at run
      exact run
    exact Method.amwp_returns (implCloseChannel_ends ready found) returns record

end Runs

/-- The life of a socket: a constructor that throws; or one that returns, any calls, and the
one who closes, if he has begun; then the cleaner. -/
inductive Lives (b : Build) (portName : String) (paramBitSet : BitVec 32) (s : TermiosIO.Settings)
    (calls : ι → NativeCall) :
    Table → Prop
  | refused {σ : Table} {h : History life} {y : Except ℤ Unit × Env}
      (thrown : Returns («open» b portName paramBitSet calling) h y) (raised : y.2.raised ≠ [])
      (answered : Answered steps .initial h σ) : Lives b portName paramBitSet s calls σ
  | cleaned {σ₁ σ : Table} {h h' : History life} {y y' : Except ℤ Unit × Env}
      {t : Interleaved (Option ι) Signatures Outcome Table}
      (constructed : Returns («open» b portName paramBitSet calling) h y)
        (quietly : y.2.raised = []) (answered : Answered steps .initial h σ₁)
      (reached : Interleaved.Reached (sharing s σ₁ calls) (fun _ _ => True) t)
      (closer : t.record none = [] ∨ ∃ y, t.thread none = .pure y)
      (cleaned : Returns (runCleaner calling) h' y') (cleaning : Answered steps t.shared h' σ) :
      Lives b portName paramBitSet s calls σ

/-- In every life of a socket each descriptor is closed once and not named afterwards, unless
the one who closes is told that closing the port has failed when the descriptor is gone all
the same: then, and only then, the cleaner closes it a second time. -/
theorem descriptors_accounted_iff {b : Build} {portName : String} {paramBitSet : BitVec 32}
    {s : TermiosIO.Settings} {calls : ι → NativeCall} {σ : Table}
    (lives : Lives b portName paramBitSet s calls σ) :
    (Resources.Accounted (Resources.stamp σ.log) ↔ σ.lost = false) ∧
    (σ.lost = true → σ.Spoiled) := by
  have opens := open_ends b portName paramBitSet
  cases lives with
  | refused thrown raised answered =>
      have gone := (Method.amwp_returns opens thrown answered).2 raised
      have found : σ.lost = false := answered_lost answered
      exact ⟨iff_of_true gone.accounted found, fun lost => by cases found.symm.trans lost⟩
  | @cleaned σ₁ _ h h' y y' t constructed quietly answered reached closer cleaned cleaning =>
      have ready := (Method.amwp_returns opens constructed answered).1 quietly
      have left := reached_left ready (answered_lost answered) reached closer
      rw [answered_lost cleaning]
      cases lost : t.shared.lost with
      | false =>
          have gone : σ.Gone := Method.amwp_returns (runCleaner_gone left lost) cleaned cleaning
          exact ⟨iff_of_true gone.accounted rfl, fun lost => by cases lost⟩
      | true =>
          have spoiled : σ.Spoiled :=
            Method.amwp_returns (runCleaner_spoils left lost) cleaned cleaning
          exact ⟨iff_of_false spoiled.not_accounted (by simp), fun _ => spoiled⟩

end Sharing

section Examples

/-- `ttyu0`, as it is found. -/
def ttyu0Found : StructTermios := ⟨0x2b02, 3, 0x4b00, 0x5cb, fun _ => 0, 9600, 9600⟩

/-- A system that gives out 5 for a port, then 6 and 7 for a pipe. -/
def serve (σ : Table) : (e : Request) → Option (Answer e × Table)
  | .io .getFd => some (σ.socket .port, σ)
  | .io .getCloseEventReadFd => some (σ.socket .eventRead, σ)
  | .io .getCloseEventWriteFd => some (σ.socket .eventWrite, σ)
  | .io (.setFd fd) => some ((), σ.setSocket .port fd)
  | .io (.setCloseEventReadFd fd) => some ((), σ.setSocket .eventRead fd)
  | .io (.setCloseEventWriteFd fd) => some ((), σ.setSocket .eventWrite fd)
  | .io (.writeEvent fd) => some (.ok (), σ.touch fd)
  | .io (.tcflush fd) => some (.ok (), σ.touch fd)
  | .io (.close fd) => some (.ok (), σ.close fd)
  | .getCleaner part => some (σ.cleaner part, σ)
  | .setCleaner part fd => some ((), σ.setCleaner part fd)
  | .«open» _ => if σ.opened 5 = false then some (.ok 5, σ.obtain 5) else none
  | .tcgetattr fd => some (.ok ttyu0Found, σ.touch fd)
  | .TIOCEXCL fd => some (.ok (), σ.touch fd)
  | .tcsetattr fd _ => some (.ok (), σ.touch fd)
  | .pipe => if σ.opened 6 = false ∧ (σ.obtain 6).opened 7 = false then
      some (.ok (6, 7), (σ.obtain 6).obtain 7) else none
  | .register => some ((), σ)
  | .usleep _ => some ((), σ)
  | _ => none

theorem serve_lawful (σ : Table) (e : Request) (y : Answer e × Table)
    (served : serve σ e = some y) :
    steps σ ⟨e, y.1⟩ y.2 := by
  cases e with
  | io e =>
      cases e with
      | getFd =>
          cases served
          exact ⟨⟨rfl, rfl⟩, trivial⟩
      | getCloseEventReadFd =>
          cases served
          exact ⟨⟨rfl, rfl⟩, trivial⟩
      | getCloseEventWriteFd =>
          cases served
          exact ⟨⟨rfl, rfl⟩, trivial⟩
      | close fd =>
          cases served
          exact ⟨rfl, fun _ => rfl⟩
      | setFd fd =>
          cases served
          exact ⟨rfl, trivial⟩
      | setCloseEventReadFd fd =>
          cases served
          exact ⟨rfl, trivial⟩
      | setCloseEventWriteFd fd =>
          cases served
          exact ⟨rfl, trivial⟩
      | writeEvent fd =>
          cases served
          exact ⟨rfl, trivial⟩
      | tcflush fd =>
          cases served
          exact ⟨rfl, trivial⟩
      | _ => cases served
  | getCleaner part =>
      cases served
      exact ⟨⟨rfl, rfl⟩, trivial⟩
  | «open» portName =>
      rw [serve] at served
      split at served
      · next free =>
        cases served
        exact ⟨⟨⟨free, by decide⟩, rfl⟩, trivial⟩
      · cases served
  | pipe =>
      rw [serve] at served
      split at served
      · next free =>
        cases served
        exact ⟨⟨⟨free.1, by decide⟩, ⟨free.2, by decide⟩, rfl⟩, trivial⟩
      · cases served
  | eventfd => cases served
  | setCleaner part fd =>
      cases served
      exact ⟨rfl, trivial⟩
  | tcgetattr fd =>
      cases served
      exact ⟨rfl, trivial⟩
  | TIOCEXCL fd =>
      cases served
      exact ⟨rfl, trivial⟩
  | tcsetattr fd settings =>
      cases served
      exact ⟨rfl, trivial⟩
  | register =>
      cases served
      exact ⟨rfl, trivial⟩
  | usleep microseconds =>
      cases served
      exact ⟨rfl, trivial⟩

/-- A library without `eventfd`. -/
def piped : Build :=
  ⟨Jnhw.freeBSD, Jnhw.PosixSerialPortSocket.rawFlags, false, Errno.getErrnoSymbol⟩

def ttyu0Opened : Table :=
  ((execute serve 60 .initial («open» piped "ttyu0" NO_PARAMS_TO_SET calling)).map fun ended =>
    ended.2.2).getD .initial

theorem ttyu0Opened_returns :
    ∃ h, Returns («open» piped "ttyu0" NO_PARAMS_TO_SET calling) h (.ok (), calling) ∧
    Answered steps .initial h ttyu0Opened := by
  have executed : execute serve 60 .initial («open» piped "ttyu0" NO_PARAMS_TO_SET calling) =
      some (_, (.ok (), calling), ttyu0Opened) := rfl
  exact ⟨_, execute_sound serve_lawful 60 executed⟩

/-- The port is gone, and `close` has failed. -/
def ttyu0Lost : Table :=
  { ((((ttyu0Opened.setSocket .port INVALID_FD).touch 7).touch 5).setSocket .eventWrite
      INVALID_FD).setSocket .eventRead INVALID_FD |>.close 5 with lost := true }

/-- The close of the port is interrupted when the port is gone already. -/
theorem descriptors_accounted_interrupted :
    ∃ σ, Lives piped "ttyu0" NO_PARAMS_TO_SET .new (fun _ : Unit => .readBuffer .new 1 calling) σ ∧
      ¬Resources.Accounted (Resources.stamp σ.log) ∧ σ.Spoiled := by
  have fresh : Interleaved.Reached (sharing .new ttyu0Opened fun _ : Unit =>
    .readBuffer .new 1 calling) (fun _ _ => True) _ := .start
  have marked :=
    (fresh.ask (i := none) rfl (5 : ℤ) ⟨rfl, rfl⟩ trivial).ask (i := none) rfl () rfl trivial
  have signalled :=
    (marked.ask (i := none) rfl (7 : ℤ) ⟨rfl, rfl⟩ trivial).ask (i := none) rfl (.ok ()) rfl trivial
  have flushed := signalled.ask (i := none) rfl (.ok ()) rfl trivial
  have cleared := (flushed.ask (i := none) rfl () rfl trivial).ask (i := none) rfl () rfl trivial
  have failed := cleared.ask (i := none) rfl (.error (.other "EINTR")) (.inr ⟨rfl, rfl⟩) trivial
  obtain ⟨h, constructed, answered⟩ := ttyu0Opened_returns
  obtain ⟨h', y, σ, cleaned, cleaning⟩ : ∃ h y σ, Returns (runCleaner calling) h y ∧
    Answered steps ttyu0Lost h σ :=
    ⟨_, _, _, execute_sound serve_lawful 40 rfl⟩
  have lives := Lives.cleaned constructed rfl answered failed (.inr ⟨_, rfl⟩) cleaned cleaning
  have lost : σ.lost = true := answered_lost cleaning
  refine ⟨σ, lives, mt (descriptors_accounted_iff lives).1.mp ?_,
    (descriptors_accounted_iff lives).2 lost⟩
  rw [lost]
  decide

end Examples
end Spsw.Jni.TermiosLife

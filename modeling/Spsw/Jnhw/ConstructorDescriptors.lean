import Spsw.Jnhw.DescriptorLedger

/-!
# The descriptors of the constructor

Every call of the constructor may fail. Whatever it obtained is closed again before the
exception leaves, if no cancel event was among it.
-/
namespace Spsw.Jnhw.PosixSerialPortSocket
open Interaction
open Interaction.Method (raise amwp amwp_mono amwp_bind amwp_request_bind amwp_pure amwp_raise)

section Configuration
variable {x : State} {completed : Bool} {fd : ℤ}

/-- The configuration has obtained its descriptor. -/
structure Configured (fd : ℤ) (x : State) : Prop where
  kept : Kept {fd} x
  new : New x
  field : x.world.fields .configurationFd = fd

theorem Configured.use (configured : Configured fd x) :
    Configured fd ⟨x.world, x.log ++ [.use fd]⟩ :=
  ⟨configured.kept.use rfl, configured.new.snoc (by simp), configured.field⟩

theorem Configured.closed (configured : Configured fd x) :
    Kept ∅ ⟨x.world.closed fd, x.log ++ [.close fd]⟩ := by
  have kept := configured.kept.close (Set.mem_singleton fd)
  rwa [Set.sdiff_self] at kept

theorem release_ends {α : Type} {f : Unit → Action α}
    {post : State → Bool → Except JavaException α → Prop} (configured : Configured fd x)
    (next : ∀ x', Kept ∅ x' → ends Orderly x' completed (f ()) post) :
    ends Orderly x completed (PosixConfiguration.release >>= f) post := by
  apply amwp_bind
  apply ends_get
  rw [configured.field]
  refine ends_release (fun _ _ => Orderly.releases) ((configured.kept.opened fd).mpr rfl)
    fun closed => ?_
  cases closed with
  | ok =>
      apply ends_set_last
      exact next _ (configured.closed.world rfl)
  | error nee => exact amwp_pure (next _ configured.closed)

/-- How `PosixConfiguration.open` leaves the books. -/
def Configures (x : State) (_ : Bool) : Except JavaException ℤ → Prop
  | .error _ => Kept ∅ x
  | .ok fd => Configured fd x

theorem configuration_open_ends (kept : Kept ∅ x) (new : New x) (p : Platform)
    (raw : RawFlags) (portName : String) (r : Params) :
    ends Orderly x completed (PosixConfiguration.open p raw portName r) Configures := by
  apply ends_ask
  rintro (nee | fd) w' answer -
  · obtain rfl : w' = x.world := answer
    rw [show x.log ++ deeds x.world ⟨.open portName, .error nee⟩ = x.log from List.append_nil _]
    exact amwp_raise kept
  obtain ⟨fresh, same⟩ := answer
  obtain rfl : w' = x.world.obtain fd fd := same
  refine ends_set ?_
  have configured : Configured fd ⟨(x.world.obtain fd fd).store .configurationFd fd,
      x.log ++ [.obtain fd]⟩ := by
    have kept := kept.obtain new fresh fd
    rw [insert_empty_eq] at kept
    exact ⟨kept.world rfl, new.snoc (by simp), store_self⟩
  apply ends_get
  rw [configured.field]
  refine ends_use rfl fun result _ => ?_
  have configured := configured.use
  cases result with
  | error nee =>
      apply ends_get
      rw [configured.field]
      refine ends_release (fun _ _ => Orderly.releases) ((configured.kept.opened fd).mpr rfl)
        fun _ => ends_set ?_
      exact amwp_raise (configured.closed.world rfl)
  | ok termios =>
      apply ends_get
      rw [configured.field]
      refine ends_use rfl fun exclusive _ => ?_
      have configured := configured.use
      cases exclusive with
      | error nee => exact release_ends configured fun _ kept => amwp_raise kept
      | ok =>
          apply ends_get
          rw [configured.field]
          refine ends_use rfl fun result _ => ?_
          have configured := configured.use
          cases result with
          | error t => exact release_ends configured fun _ kept => amwp_raise kept
          | ok =>
              apply ends_get
              rw [configured.field]
              refine ends_use rfl fun flushed _ => ?_
              have configured := configured.use
              cases flushed with
              | error nee => exact release_ends configured fun _ kept => amwp_raise kept
              | ok => exact ends_get_last (configured.field.symm ▸ configured)

end Configuration

section Events
variable {x : State} {completed : Bool} {event : Direction} {held : Set ℤ}
  {w : World} {read_fd write_fd : ℤ}

/-- A cancel event has been created, next to the descriptors in `held`. -/
structure Created (event : Direction) (held : Set ℤ) (w : World) (read_fd write_fd : ℤ)
    (x : State) : Prop where
  kept : Kept (insert write_fd (insert read_fd held)) x
  new : New x
  readField : x.world.fields (.cancelEventFd event .read) = read_fd
  writeField : x.world.fields (.cancelEventFd event .write) = write_fd
  fields : ∀ field, (∀ side, field ≠ .cancelEventFd event side) →
    x.world.fields field = w.fields field
  readEnd : x.world.readEnd write_fd = read_fd
  quiet : x.world.readable read_fd = false
  before : ∀ fd ∈ held, x.world.readEnd fd = w.readEnd fd ∧ x.world.readable fd = w.readable fd
  read_new : read_fd ∉ held
  write_new : write_fd ∉ held

theorem Created.use (created : Created event held w read_fd write_fd x) {fd : ℤ}
    (own : fd = read_fd ∨ fd = write_fd) :
    Created event held w read_fd write_fd ⟨x.world, x.log ++ [.use fd]⟩ where
  kept := created.kept.use (by rcases own with rfl | rfl <;> simp)
  new := created.new.snoc (by simp)
  readField := created.readField
  writeField := created.writeField
  fields := created.fields
  readEnd := created.readEnd
  quiet := created.quiet
  before := created.before
  read_new := created.read_new
  write_new := created.write_new

/-- The two ends are obtained, and stored. -/
def stored (w : World) (event : Direction) (read_fd write_fd : ℤ) : World :=
  (w.store (.cancelEventFd event .read) read_fd).store (.cancelEventFd event .write) write_fd

theorem stored_read :
    (stored w event read_fd write_fd).fields (.cancelEventFd event .read) = read_fd :=
  (store_other (by simp)).trans store_self

theorem stored_other {field : Field} (other : ∀ side, field ≠ .cancelEventFd event side) :
    (stored w event read_fd write_fd).fields field = w.fields field :=
  (store_other (other .write)).trans (store_other (other .read))

theorem not_mem_of_fresh {fd : ℤ} (kept : Kept held x) (fresh : x.world.Fresh fd) : fd ∉ held :=
  fun own => absurd ((kept.opened fd).mpr own) (by rw [fresh.1]; decide)

theorem created_eventfd {fd : ℤ} (kept : Kept held x) (new : New x) (fresh : x.world.Fresh fd) :
    Created event held x.world fd fd ⟨stored (x.world.obtain fd fd) event fd fd,
      x.log ++ [.obtain fd]⟩ where
  kept := by
    rw [Set.insert_idem]
    exact (kept.obtain new fresh fd).world rfl
  new := new.snoc (by simp)
  readField := stored_read
  writeField := store_self
  fields _ other := stored_other other
  readEnd := Function.update_self _ _ _
  quiet := Function.update_self _ _ _
  before fd' own := by
    have apart : fd' ≠ fd := fun same => not_mem_of_fresh kept fresh (same ▸ own)
    exact ⟨Function.update_of_ne apart _ _, Function.update_of_ne apart _ _⟩
  read_new := not_mem_of_fresh kept fresh
  write_new := not_mem_of_fresh kept fresh

theorem created_pipe (kept : Kept held x) (new : New x) (read : x.world.Fresh read_fd)
    (write : x.world.Fresh write_fd) (apart : read_fd ≠ write_fd) (event : Direction) :
      Created event held x.world read_fd write_fd
        ⟨stored ((x.world.obtain read_fd read_fd).obtain write_fd read_fd) event read_fd write_fd,
        x.log ++ [.obtain read_fd, .obtain write_fd]⟩ where
  kept := by
    have second : (x.world.obtain read_fd read_fd).Fresh write_fd :=
      ⟨(Function.update_of_ne apart.symm _ _).trans write.1, write.2⟩
    have both := (kept.obtain new read read_fd).obtain (new.snoc (by simp)) second read_fd
    rw [List.append_assoc] at both
    exact both.world rfl
  new := by
    have first : New ⟨x.world, x.log ++ [.obtain read_fd]⟩ := new.snoc (by simp)
    have both : New ⟨x.world, x.log ++ [.obtain read_fd] ++ [.obtain write_fd]⟩ :=
      first.snoc (by simp)
    rw [List.append_assoc] at both
    exact both
  readField := stored_read
  writeField := store_self
  fields _ other := stored_other other
  readEnd := Function.update_self _ _ _
  quiet := (Function.update_of_ne apart _ _).trans (Function.update_self _ _ _)
  before fd' own := by
    have apart₁ : fd' ≠ read_fd := fun same => not_mem_of_fresh kept read (same ▸ own)
    have apart₂ : fd' ≠ write_fd := fun same => not_mem_of_fresh kept write (same ▸ own)
    exact ⟨(Function.update_of_ne apart₂ _ _).trans (Function.update_of_ne apart₁ _ _),
      (Function.update_of_ne apart₂ _ _).trans (Function.update_of_ne apart₁ _ _)⟩
  read_new := not_mem_of_fresh kept read
  write_new := not_mem_of_fresh kept write

/-- How an attempt to create an event leaves the books. -/
def Creates (event : Direction) (held : Set ℤ) (w : World) (x : State) (_ : Bool) :
    Except Errno Unit → Prop
  | .ok () => ∃ read_fd write_fd, Created event held w read_fd write_fd x
  | .error _ => Kept held x ∧ x.world = w ∧ held.Subsingleton

/-- Where a call that creates an event fails, nothing but the port is open. -/
theorem subsingleton_of_early {ev : Event kernel} (kept : Kept held x) (early : Early x.world ev)
    (fails : failsEvent ev = true) : held.Subsingleton :=
  fun fd own fd' own' => early fails fd fd' ((kept.opened fd).mpr own) ((kept.opened fd').mpr own')

/-- A pipe whose descriptors are both open is not left behind. -/
theorem nonblocking_ends {post : State → Bool → Except Errno Unit → Prop} {fd : ℤ}
    (created : Created event held w read_fd write_fd x)
    (apart : read_fd ≠ write_fd) (own : fd = read_fd ∨ fd = write_fd)
    (next : Created event held w read_fd write_fd ⟨x.world, x.log ++ [.use fd]⟩ →
      post ⟨x.world, x.log ++ [.use fd]⟩ completed (.ok ())) :
    ends Orderly x completed (checked (ask (.fcntl fd .F_SETFL))) post := by
  refine ends_use rfl fun result meets => ?_
  cases result with
  | ok => exact amwp_pure (next (created.use own))
  | error nee =>
      have alone := subsingleton_of_early created.kept meets.early rfl
      exact absurd (alone (by simp) (by simp)) apart

theorem createEvent_ends (kept : Kept held x) (new : New x)
    (HAVE_SYS_EVENTFD_H : Bool) :
    ends Orderly x completed (createEvent HAVE_SYS_EVENTFD_H event)
      (Creates event held x.world) := by
  rw [createEvent]
  split
  · apply amwp_bind
    apply ends_ask
    rintro (nee | fd) w' answer meets
    · obtain rfl : w' = x.world := answer
      rw [show x.log ++ deeds x.world ⟨.eventfd, .error nee⟩ = x.log from List.append_nil _]
      exact amwp_raise ⟨kept, rfl, subsingleton_of_early kept meets.early rfl⟩
    · obtain ⟨fresh, same⟩ := answer
      obtain rfl : w' = x.world.obtain fd fd := same
      refine amwp_pure (ends_set (ends_copy ?_))
      rw [store_self]
      exact ⟨fd, fd, created_eventfd kept new fresh⟩
  · apply amwp_bind
    apply ends_ask
    rintro (nee | ⟨read_fd, write_fd⟩) w' answer meets
    · obtain rfl : w' = x.world := answer
      rw [show x.log ++ deeds x.world ⟨.pipe, .error nee⟩ = x.log from List.append_nil _]
      exact amwp_raise ⟨kept, rfl, subsingleton_of_early kept meets.early rfl⟩
    · obtain ⟨read, write, apart, same⟩ := answer
      obtain rfl : w' = (x.world.obtain read_fd read_fd).obtain write_fd read_fd := same
      refine amwp_pure (ends_set (ends_set (ends_get ?_)))
      have created := created_pipe kept new read write apart event
      rw [show (World.store _ _ _).fields _ = read_fd from created.readField]
      refine amwp_bind (nonblocking_ends created apart (.inl rfl) fun created => ends_get ?_)
      rw [show World.fields _ _ = write_fd from created.writeField]
      exact nonblocking_ends created apart (.inr rfl) fun created => ⟨read_fd, write_fd, created⟩

end Events

section Construction
variable {x : State} {completed : Bool} {port : ℤ}

/-- How the creation of both events leaves the books, next to the port. -/
def CreatesBoth (port : ℤ) (w : World) (x : State) (_ : Bool) : Except Errno Unit → Prop
  | .ok () => ∃ a b c d x₁, Created .read {port} w a b x₁ ∧
      Created .write (insert b (insert a {port})) x₁.world c d x
  | .error _ => Kept {port} x ∧ x.world = w

theorem createEvents_ends (kept : Kept {port} x) (new : New x)
    (HAVE_SYS_EVENTFD_H : Bool) :
    ends Orderly x completed (createEvents HAVE_SYS_EVENTFD_H) (CreatesBoth port x.world) := by
  apply amwp_bind
  apply amwp_mono (createEvent_ends kept new HAVE_SYS_EVENTFD_H)
  rintro x₁ completed₁ (nee | ⟨⟩) first
  · exact ⟨first.1, first.2.1⟩
  obtain ⟨a, b, first⟩ := first
  apply amwp_mono (createEvent_ends first.kept first.new HAVE_SYS_EVENTFD_H)
  rintro x₂ completed₂ (nee | ⟨⟩) second
  · have same : a = port := second.2.2 (by simp) (by simp)
    exact absurd same first.read_new
  · obtain ⟨c, d, second⟩ := second
    exact ⟨a, b, c, d, x₁, first, second⟩

/-- `w'` is `w` with the copies. -/
structure Registered (w w' : World) : Prop where
  fd : w'.fields .fd = w.fields .fd
  configurationFd : w'.fields .configurationFd = w.fields .configurationFd
  cancelEventFd : ∀ e side, w'.fields (.cancelEventFd e side) = w.fields (.cancelEventFd e side)
  cleanerFd : w'.fields .cleanerFd = w.fields .fd
  cleanerEventFd : ∀ e side, w'.fields (.cleanerEventFd e side) = w.fields (.cancelEventFd e side)
  pollPortFd : ∀ d, w'.fields (.pollPortFd d) = w.fields .fd
  pollCancelFd : ∀ d, w'.fields (.pollCancelFd d) = w.fields (.cancelEventFd d .read)
  opened : w'.opened = w.opened
  readEnd : w'.readEnd = w.readEnd
  readable : w'.readable = w.readable

theorem register_ends :
    ends Orderly x completed register (fun x' _ y => y = .ok () ∧ Registered x.world x'.world ∧
    x'.log = x.log) := by
  iterate 8 apply ends_copy_bind
  refine ends_copy ⟨rfl, ?_, rfl⟩
  constructor
  case cancelEventFd => rintro (_ | _) (_ | _) <;> simp [World.store]
  case cleanerEventFd => rintro (_ | _) (_ | _) <;> simp [World.store]
  case pollPortFd => rintro (_ | _) <;> simp [World.store]
  case pollCancelFd => rintro (_ | _) <;> simp [World.store]
  all_goals simp [World.store]

theorem attempt_ends {α : Type} {body : Native α}
    {post : State → Bool → Except JavaException (Except Errno α) → Prop}
    (holds : ends Orderly x completed body fun x' completed y => post x' completed (.ok y)) :
    ends Orderly x completed (attempt body) post :=
  awp_bind (awp_mono holds fun _ _ after => awp_pure after)

/-- All descriptors of an open socket. -/
def Numbers.all (n : Numbers) : Set ℤ := {fd | fd = n.port ∨ ∃ e side, fd = n.event e side}

/-- The ends of two events. -/
def sides (a b c d : ℤ) : Direction → Direction → ℤ
  | .read, .read => a
  | .read, .write => b
  | .write, .read => c
  | .write, .write => d

/-- The socket is open, and its descriptors are in the books. -/
structure Runs (n : Numbers) (x : State) : Prop where
  opened : x.world.Opened n
  kept : Kept n.all x

section Created
variable {a b c d : ℤ} {x₁ x₂ : State}

theorem sides_all : insert d (insert c (insert b (insert a {port}))) =
    {fd | fd = port ∨ ∃ e side, fd = sides a b c d e side} := by
  ext fd
  simp only [Set.mem_insert_iff, Set.mem_singleton_iff, Set.mem_ofPred_eq]
  constructor
  · rintro (rfl | rfl | rfl | rfl | rfl)
    · exact .inr ⟨.write, .write, rfl⟩
    · exact .inr ⟨.write, .read, rfl⟩
    · exact .inr ⟨.read, .write, rfl⟩
    · exact .inr ⟨.read, .read, rfl⟩
    · exact .inl rfl
  · rintro (rfl | ⟨_ | _, _ | _, rfl⟩) <;> simp

theorem created_opened (first : Created .read {port} x.world a b x₁)
    (second : Created .write (insert b (insert a {port})) x₁.world c d x₂) {w : World}
    (registered : Registered x₂.world w) (fd : x.world.fields .fd = port)
    (configurationFd : x.world.fields .configurationFd = port) {n : Numbers}
    (port_eq : n.port = port) (event : n.event = sides a b c d) : w.Opened n := by
  have ports : ∀ field, (∀ e side, field ≠ .cancelEventFd e side) →
    x₂.world.fields field = x.world.fields field :=
    fun field other => (second.fields field (other .write)).trans (first.fields field (other .read))
  have events : ∀ e side, x₂.world.fields (.cancelEventFd e side) = n.event e side := by
    rw [event]
    rintro (_ | _) (_ | _)
    · exact (second.fields _ (by simp)).trans first.readField
    · exact (second.fields _ (by simp)).trans first.writeField
    · exact second.readField
    · exact second.writeField
  have fd₂ : x₂.world.fields .fd = n.port := port_eq ▸ (ports .fd (by simp)).trans fd
  have opened : ∀ fd, fd = port ∨ (∃ e side, fd = sides a b c d e side) → w.opened fd = true := by
    intro fd own
    rw [registered.opened, second.kept.opened, sides_all]
    exact own
  exact {
    fd := registered.fd.trans fd₂
    configurationFd := registered.configurationFd.trans
      (port_eq ▸ (ports .configurationFd (by simp)).trans configurationFd)
    cancelEventFd := fun e side => (registered.cancelEventFd e side).trans (events e side)
    cleanerFd := registered.cleanerFd.trans fd₂
    cleanerEventFd := fun e side => (registered.cleanerEventFd e side).trans (events e side)
    pollPortFd := fun d => (registered.pollPortFd d).trans fd₂
    pollCancelFd := fun d => (registered.pollCancelFd d).trans (events d .read)
    port := opened _ (.inl port_eq)
    event := fun e side => opened _ (.inr ⟨e, side, by rw [event]⟩)
    readEnd := by
      rw [event, registered.readEnd]
      rintro (_ | _)
      · exact (second.before b (by simp)).1.trans first.readEnd
      · exact second.readEnd
    quiet := by
      rw [event, registered.readable]
      rintro (_ | _)
      · exact (second.before a (by simp)).2.trans first.quiet
      · exact second.quiet }

theorem runs_of_created (first : Created .read {port} x.world a b x₁)
    (second : Created .write (insert b (insert a {port})) x₁.world c d x₂) {x' : State}
    (registered : Registered x₂.world x'.world) (log : x'.log = x₂.log)
    (fd : x.world.fields .fd = port) (configurationFd : x.world.fields .configurationFd = port) :
    ∃ n, Runs n x' := by
  have valid := second.kept.valid
  have first_read := first.read_new
  have first_write := first.write_new
  have second_read := second.read_new
  have second_write := second.write_new
  simp only [Set.mem_insert_iff, Set.mem_singleton_iff,
    not_or] at valid first_read first_write second_read second_write
  obtain ⟨valid_d, valid_c, valid_b, valid_a, valid_port⟩ := valid
  refine ⟨⟨port, sides a b c d, Ne.symm valid_port, ?_, ?_, ?_⟩, ?_, ?_⟩
  · rintro (_ | _) (_ | _)
    · exact Ne.symm valid_a
    · exact Ne.symm valid_b
    · exact Ne.symm valid_c
    · exact Ne.symm valid_d
  · rintro (_ | _) (_ | _)
    · exact first_read
    · exact first_write
    · exact second_read.2.2
    · exact second_write.2.2
  · rintro (_ | _) (_ | _)
    · exact Ne.symm second_read.2.1
    · exact Ne.symm second_write.2.1
    · exact Ne.symm second_read.1
    · exact Ne.symm second_write.1
  · exact created_opened first second registered fd configurationFd rfl rfl
  · have held := second.kept.world registered.opened
    rw [← log, sides_all] at held
    exact held

end Created

/-- How the constructor leaves the books. -/
def Constructs (x : State) (_ : Bool) : Except JavaException Unit → Prop
  | .ok () => ∃ n, Runs n x
  | .error _ => Kept ∅ x

theorem open_ends (kept : Kept ∅ x) (new : New x) (HAVE_SYS_EVENTFD_H : Bool)
    (p : Platform) (raw : RawFlags) (portName : String) (r : Params) :
    ends Orderly x completed («open» HAVE_SYS_EVENTFD_H p raw portName r) Constructs := by
  apply amwp_bind
  apply amwp_mono (configuration_open_ends kept new p raw portName r)
  rintro x completed (e | port) configured
  · exact configured
  apply ends_set
  apply amwp_bind
  have kept : Kept {port} ⟨x.world.store .fd port, x.log⟩ := configured.kept.world rfl
  apply attempt_ends
  apply amwp_mono (createEvents_ends kept configured.new HAVE_SYS_EVENTFD_H)
  have configurationFd : (x.world.store .fd port).fields .configurationFd = port :=
    (store_other (by simp)).trans configured.field
  rintro x₁ completed (nee | ⟨⟩) created
  · obtain ⟨kept, same⟩ := created
    apply ends_get
    rw [same, store_self]
    have closed := kept.close (Set.mem_singleton port)
    rw [Set.sdiff_self] at closed
    refine ends_release (fun _ _ => Orderly.releases) ((kept.opened port).mpr rfl) fun result => ?_
    cases result with
    | ok => exact ends_set (ends_copy_bind (amwp_raise (closed.world rfl)))
    | error nee => exact amwp_raise closed
  · obtain ⟨a, b, c, d, x₂, first, second⟩ := created
    apply amwp_mono register_ends
    rintro x' _ y ⟨rfl, registered, log⟩
    exact runs_of_created first second registered log store_self configurationFd

end Construction
end Spsw.Jnhw.PosixSerialPortSocket

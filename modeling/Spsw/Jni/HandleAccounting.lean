import Spsw.Interaction.Interleaved
import Spsw.Jni.HandleLaws

/-!
# The handles are accounted for

A socket is opened, any number of reads and writes run at once, one call may close the
socket while they do, and in the end the cleaner runs. Whatever the order of their steps,
each handle is closed once.
-/
namespace Spsw.Jni.WinApiIO
open Interaction
open Interaction.Program (Returns)
open Interaction.Method (mwp Passes amwp amwp_mono amwp_bind amwp_request
  amwp_request_bind amwp_pure arest)
open Jnhw (Errno INVALID_HANDLE_VALUE)
open TermiosIO (Env)
open Resources (Inventory)

section Sharing
variable {ι : Type} [DecidableEq ι]

/-- A call, with its `errno` and the memory that it reads into. -/
inductive NativeCall where
  | readBuffer (len : ℕ) (errno : Errno) (memory : List UInt8)
  | writeBuffer (buff : List UInt8) (errno : Errno)

def NativeCall.program (errnoText : Errno → String) : NativeCall → Program winApi (Except ℤ ℤ × Env)
  | .readBuffer len errno memory => WinApiIO.readBuffer errnoText len ⟨[], errno, memory⟩
  | .writeBuffer buff errno => WinApiIO.writeBuffer errnoText buff ⟨[], errno, []⟩

/-- Nothing has been thrown yet. -/
def calling : Env := ⟨[], .EAGAIN, []⟩

/-- What the closer and the calls end with. -/
def Outcome : Option ι → Type
  | none => Except ℤ Unit × Env
  | some _ => Except ℤ ℤ × Env

/-- `implCloseChannel` and the calls, on the handles `σ`. -/
def sharing (errnoText : Errno → String) (σ : Handles) (calls : ι → NativeCall) :
    Interleaved.System (Option ι) (fun _ => winApi) Outcome Handles where
  initial := σ
  program
    | none => implCloseChannel calling
    | some i => (calls i).program errnoText
  answers σ _ := σ.answers

/-- No call closes its event in vain; whether the port gets closed is left open. -/
def Closing (s : Interleaved (Option ι) (fun _ => winApi) Outcome Handles) :
    Option (Interleaved.Label fun _ : Option ι => winApi) → Prop
  | some ⟨some _, ev⟩ => s.shared.Closes ev
  | _ => True

/-- The port has not been closed. -/
def Unclosed (h : History winApi) : Prop :=
  ∀ hFile, (⟨.CloseHandle hFile, .ok ()⟩ : Event winApi) ∉ h

/-- The invariant: what is open is the port, or an event that a call holds, and
each is held once. -/
structure Shared (port : ℤ) (σ : Handles) (grip : ι → Grip ℤ) (h : History winApi) : Prop where
  kept : σ.Kept
  held : ∀ i e, grip i = .holds e → e ≠ NULL → σ.opened e = true
  apart : ∀ i j e, e ≠ NULL → grip i = .holds e → grip j = .holds e → i = j
  opened : Unclosed h → σ.opened port = true ∧ ∀ i, grip i ≠ .holds port
  owned : ∀ handle, σ.opened handle = true → handle = port ∧ Unclosed h ∨
    ∃ i, grip i = .holds handle
  read : ∀ fd, (⟨.getFd, fd⟩ : Event winApi) ∈ h → fd = port
  field : (∀ value r, (⟨.setFd value, r⟩ : Event winApi) ∉ h) → σ.fd = port
  uncleared : (∀ value, (⟨.setCleanerFd value, ()⟩ : Event winApi) ∉ h) → σ.cleanerFd = port
  cleared : (⟨.setCleanerFd INVALID_HANDLE_VALUE, ()⟩ : Event winApi) ∈ h →
    σ.cleanerFd = INVALID_HANDLE_VALUE

section Steps
variable {port : ℤ} {σ σ' : Handles} {grip : ι → Grip ℤ} {h : History winApi} {i : ι}

theorem updated_holds {grip' : Grip ℤ} {j : ι} {e : ℤ}
    (held : Function.update grip i grip' j = .holds e) :
    j = i ∧ grip' = .holds e ∨ j ≠ i ∧ grip j = .holds e := by
  by_cases same : j = i
  · subst same
    rw [Function.update_self] at held
    exact .inl ⟨rfl, held⟩
  · rw [Function.update_of_ne same] at held
    exact .inr ⟨same, held⟩

/-- An event is created. -/
theorem Shared.take (shared : Shared port σ grip h) {e : ℤ}
    (empty : grip i = .empty) (fresh : σ.Fresh e) :
    Shared port (σ.obtain e) (Function.update grip i (.holds e)) h := by
  have kept_open : ∀ handle, σ.opened handle = true → (σ.obtain e).opened handle = true :=
    fun handle opened => (Inventory.obtain_opened e handle).mpr (.inr opened)
  have new : ∀ j, grip j ≠ .holds e := by
    intro j holds
    have opened := shared.held j e holds (fun null => fresh.2 (.inr null))
    rw [fresh.1] at opened
    cases opened
  refine ⟨shared.kept.obtain fresh, ?_, ?_, fun unclosed => ?_, fun handle opened => ?_,
    shared.read, shared.field, shared.uncleared, shared.cleared⟩
  · intro j e' holds valid
    rcases updated_holds holds with ⟨rfl, ⟨⟩⟩ | ⟨-, holds⟩
    · exact Function.update_self _ _ _
    · exact kept_open _ (shared.held j e' holds valid)
  · intro j k e' valid holds holds'
    rcases updated_holds holds with ⟨first, ⟨⟩⟩ | ⟨-, holds⟩
    · rcases updated_holds holds' with ⟨second, -⟩ | ⟨-, holds'⟩
      · exact first.trans second.symm
      · exact absurd holds' (new k)
    · rcases updated_holds holds' with ⟨-, ⟨⟩⟩ | ⟨-, holds'⟩
      · exact absurd holds (new j)
      · exact shared.apart j k e' valid holds holds'
  · obtain ⟨opened, free⟩ := shared.opened unclosed
    refine ⟨kept_open _ opened, fun j holds => ?_⟩
    rcases updated_holds holds with ⟨-, ⟨⟩⟩ | ⟨-, holds⟩
    · rw [fresh.1] at opened
      cases opened
    · exact free j holds
  · by_cases same : handle = e
    · subst same
      exact .inr ⟨i, Function.update_self _ _ _⟩
    · have before : σ.opened handle = true := (Function.update_of_ne same _ _).symm.trans opened
      rcases shared.owned handle before with own_port | ⟨j, holds⟩
      · exact .inl own_port
      · refine .inr ⟨j, ?_⟩
        rw [Function.update_of_ne]
        · exact holds
        · rintro rfl
          rw [empty] at holds
          cases holds

omit [DecidableEq ι] in
/-- What a call holds is its own to close. -/
theorem Shared.mine (shared : Shared port σ grip h) {e : ℤ} (holds : grip i = .holds e) :
    σ.Mine e := by
  by_cases null : e = NULL
  · exact .inl (.inr null)
  · exact .inr (shared.held i e holds null)

/-- An event is closed, or `NULL` in its place. -/
theorem Shared.give (shared : Shared port σ grip h) {e : ℤ} (holds : grip i = .holds e) :
    Shared port (σ.close e) (Function.update grip i .empty) h := by
  have kept := shared.kept
  refine ⟨kept.close (shared.mine holds), ?_, ?_, fun unclosed => ?_, fun handle opened => ?_,
    shared.read, ?_, ?_, ?_⟩
  · intro j e' held valid
    rcases updated_holds held with ⟨-, ⟨⟩⟩ | ⟨other, held⟩
    refine (Inventory.opened_close kept e').mpr ⟨shared.held j e' held valid, ?_⟩
    rintro rfl
    exact other (shared.apart j i e' valid held holds)
  · intro j k e' valid held held'
    rcases updated_holds held with ⟨-, ⟨⟩⟩ | ⟨-, held⟩
    rcases updated_holds held' with ⟨-, ⟨⟩⟩ | ⟨-, held'⟩
    exact shared.apart j k e' valid held held'
  · obtain ⟨opened, free⟩ := shared.opened unclosed
    refine ⟨(Inventory.opened_close kept port).mpr ⟨opened, ?_⟩, fun j held => ?_⟩
    · rintro rfl
      exact free i holds
    · rcases updated_holds held with ⟨-, ⟨⟩⟩ | ⟨-, held⟩
      exact free j held
  · obtain ⟨before, other⟩ := (Inventory.opened_close kept handle).mp opened
    rcases shared.owned handle before with own_port | ⟨j, held⟩
    · exact .inl own_port
    · refine .inr ⟨j, ?_⟩
      rw [Function.update_of_ne]
      · exact held
      · rintro rfl
        rw [holds] at held
        cases held
        exact other rfl
  · exact fun unset => Handles.close_fd.trans (shared.field unset)
  · exact fun unset => Handles.close_cleanerFd.trans (shared.uncleared unset)
  · exact fun set => Handles.close_cleanerFd.trans (shared.cleared set)

theorem answers_quiet {ev : Event winApi} (own : quiet ev.1 = true) (answer : σ.answers ev σ') :
    σ' = σ := by
  obtain ⟨e, r⟩ := ev
  cases e with
  | getFd => exact answer.2
  | getCleanerFd => exact answer.2
  | ReadFile hFile hEvent len => exact answer.2
  | WriteFile hFile hEvent buff => exact answer.2
  | setFd value => cases own
  | setCleanerFd value => cases own
  | CreateFile name => cases own
  | CreateEventA => cases own
  | CancelIo hFile => cases own
  | CloseHandle handle => cases own
  | _ => exact answer

/-- A step of a call. -/
theorem Shared.call (shared : Shared port σ grip h) {t : History winApi}
    (own : grip i = gripOf handling t) {ev : Event winApi} (firm : Firm handling (t ++ [ev]))
    (closes : σ.Closes ev) (answer : σ.answers ev σ') :
    Shared port σ' (Function.update grip i (gripOf handling (t ++ [ev]))) h := by
  obtain ⟨e, r⟩ := ev
  have unchanged : quiet e = true → handling ⟨e, r⟩ = .nothing →
      Shared port σ' (Function.update grip i (gripOf handling (t ++ [⟨e, r⟩]))) h := by
    intro quietly nothing
    obtain rfl := answers_quiet quietly answer
    rw [gripOf_nothing nothing, ← own, Function.update_eq_self]
    exact shared
  cases e with
  | CreateEventA =>
      obtain ⟨empty, holds⟩ := firm.takes (t := r) rfl
      rw [holds]
      rcases answer with ⟨rfl, same⟩ | ⟨fresh, same⟩
      · obtain rfl : σ' = σ := same
        refine { shared with held := ?_, apart := ?_, opened := ?_, owned := ?_ }
        · intro j e held valid
          rcases updated_holds held with ⟨-, ⟨⟩⟩ | ⟨-, held⟩
          · exact absurd rfl valid
          · exact shared.held j e held valid
        · intro j k e valid held held'
          rcases updated_holds held with ⟨-, ⟨⟩⟩ | ⟨-, held⟩
          · exact absurd rfl valid
          rcases updated_holds held' with ⟨-, ⟨⟩⟩ | ⟨-, held'⟩
          · exact absurd rfl valid
          · exact shared.apart j k e valid held held'
        · intro unclosed
          obtain ⟨opened, free⟩ := shared.opened unclosed
          refine ⟨opened, fun j held => ?_⟩
          rcases updated_holds held with ⟨-, ⟨⟩⟩ | ⟨-, held⟩
          · rw [shared.kept.nobody _ (.inr rfl)] at opened
            cases opened
          · exact free j held
        · intro handle opened
          rcases shared.owned handle opened with own_port | ⟨j, held⟩
          · exact .inl own_port
          · refine .inr ⟨j, ?_⟩
            rw [Function.update_of_ne]
            · exact held
            · rintro rfl
              rw [own, empty] at held
              cases held
      · obtain rfl : σ' = σ.obtain r := same
        exact shared.take (own.trans empty) fresh
  | CloseHandle handle =>
      obtain ⟨holds, empty⟩ := firm.gives (t := handle) rfl
      rw [empty, Handles.closed_of_closes (shared.mine (own.trans holds)) answer closes]
      exact shared.give (own.trans holds)
  | setFd value => exact absurd rfl firm.allowed
  | setCleanerFd value => exact absurd rfl firm.allowed
  | CreateFile name => exact absurd rfl firm.allowed
  | CancelIo hFile => exact absurd rfl firm.allowed
  | _ => exact unchanged rfl rfl

theorem unclosed_snoc {ev : Event winApi} (unclosed : Unclosed h)
    (other : ∀ hFile, ev ≠ ⟨.CloseHandle hFile, .ok ()⟩) :
    Unclosed (h ++ [ev]) := by
  intro hFile member
  rcases List.mem_append.mp member with old | new
  · exact unclosed hFile old
  · exact other hFile (List.mem_singleton.mp new).symm

omit [DecidableEq ι] in
/-- A step of the closer that neither closes nor sets anything. -/
theorem Shared.told (shared : Shared port σ grip h) {ev : Event winApi}
    (read : ∀ fd, ev = ⟨.getFd, fd⟩ → fd = port)
    (closes : ∀ hFile, ev ≠ ⟨.CloseHandle hFile, .ok ()⟩)
    (clears : ∀ value r, ev ≠ ⟨.setCleanerFd value, r⟩) : Shared port σ grip (h ++ [ev]) := by
  have same : Unclosed (h ++ [ev]) → Unclosed h := fun unclosed hFile member =>
    unclosed hFile (List.mem_append_left _ member)
  refine ⟨shared.kept, shared.held, shared.apart, fun unclosed => shared.opened (same unclosed), ?_,
    ?_, ?_, ?_, ?_⟩
  · intro handle opened
    exact (shared.owned handle opened).imp_left fun own => ⟨own.1, unclosed_snoc own.2 closes⟩
  · intro fd member
    rcases List.mem_append.mp member with old | new
    · exact shared.read fd old
    · exact read fd (List.mem_singleton.mp new).symm
  · exact fun unset => shared.field fun value r member =>
      unset value r (List.mem_append_left _ member)
  · exact fun unset => shared.uncleared fun value member =>
      unset value (List.mem_append_left _ member)
  · intro member
    rcases List.mem_append.mp member with old | new
    · exact shared.cleared old
    · exact absurd (List.mem_singleton.mp new).symm (clears _ _)

omit [DecidableEq ι] in
/-- The closer names the port, which is still open. -/
theorem Shared.touch (shared : Shared port σ grip h) (unclosed : Unclosed h) :
    Shared port (σ.touch port) grip h := by
  refine ⟨shared.kept.touch (.inr (shared.opened unclosed).1), ?_, shared.apart, ?_, ?_,
    shared.read, ?_, ?_, ?_⟩
  · simpa using shared.held
  · simpa using shared.opened
  · simpa using shared.owned
  · simpa using shared.field
  · simpa using shared.uncleared
  · simpa using shared.cleared

omit [DecidableEq ι] in
/-- The closer closes the port. -/
theorem Shared.shut (shared : Shared port σ grip h) (unclosed : Unclosed h) :
    Shared port (σ.close port) grip (h ++ [⟨.CloseHandle port, .ok ()⟩]) := by
  have kept := shared.kept
  obtain ⟨opened, free⟩ := shared.opened unclosed
  refine ⟨kept.close (.inr opened), ?_, shared.apart, ?_, ?_, ?_, ?_, ?_, ?_⟩
  · intro i e holds valid
    refine (Inventory.opened_close kept e).mpr ⟨shared.held i e holds valid, ?_⟩
    rintro rfl
    exact free i holds
  · exact fun still => absurd (by simp) (still port)
  · intro handle still
    obtain ⟨before, other⟩ := (Inventory.opened_close kept handle).mp still
    exact .inr ((shared.owned handle before).resolve_left fun own => other own.1)
  · exact fun fd member => shared.read fd (by simpa using member)
  · rw [Handles.close_fd]
    exact fun unset => shared.field fun value r member =>
      unset value r (List.mem_append_left _ member)
  · rw [Handles.close_cleanerFd]
    exact fun unset => shared.uncleared fun value member =>
      unset value (List.mem_append_left _ member)
  · rw [Handles.close_cleanerFd]
    exact fun member => shared.cleared (by simpa using member)

omit [DecidableEq ι] in
/-- A step of the closer. -/
theorem Shared.closer (shared : Shared port σ grip h) {ev : Event winApi}
    (law : CloserLaw (h ++ [ev])) (answer : σ.answers ev σ') : Shared port σ' grip (h ++ [ev]) := by
  have next : Next h ev := law h ev rfl
  obtain ⟨e, r⟩ := ev
  cases e with
  | getFd =>
      obtain ⟨rfl, same⟩ := answer
      obtain rfl : σ' = σ := same
      obtain rfl : h = [] := next
      refine shared.told ?_ (by simp) (by simp)
      rintro fd ⟨⟩
      exact shared.field (by simp)
  | CancelIo hFile =>
      obtain ⟨read, first⟩ := next
      obtain rfl : hFile = port := shared.read hFile read
      obtain rfl : σ' = σ.touch hFile := answer
      exact (shared.touch fun hFile => first hFile _).told (by simp) (by simp) (by simp)
  | setFd value =>
      obtain rfl : σ' = { σ with fd := value } := answer
      have same : Unclosed (h ++ [⟨.setFd value, r⟩]) → Unclosed h := fun unclosed hFile member =>
        unclosed hFile (List.mem_append_left _ member)
      refine ⟨shared.kept, shared.held, shared.apart,
        fun unclosed => shared.opened (same unclosed), ?_, ?_,
        fun unset => absurd (by simp) (unset value r), ?_, ?_⟩
      · intro handle opened
        exact (shared.owned handle opened).imp_left fun own =>
          ⟨own.1, unclosed_snoc own.2 (by simp)⟩
      · exact fun fd member => shared.read fd (by simpa using member)
      · exact fun unset => shared.uncleared fun value member =>
          unset value (List.mem_append_left _ member)
      · exact fun member => shared.cleared (by simpa using member)
  | CloseHandle handle =>
      obtain ⟨read, first⟩ := next
      obtain rfl : handle = port := shared.read handle read
      cases r with
      | ok =>
          obtain rfl : σ' = σ.close handle := answer
          exact shared.shut fun hFile => first hFile _
      | error errno =>
          obtain rfl : σ' = σ.touch handle := answer
          exact (shared.touch fun hFile => first hFile _).told (by simp) (by simp) (by simp)
  | setCleanerFd value =>
      obtain rfl : value = INVALID_HANDLE_VALUE := next
      obtain rfl : σ' = { σ with cleanerFd := INVALID_HANDLE_VALUE } := answer
      have same : Unclosed (h ++ [⟨.setCleanerFd INVALID_HANDLE_VALUE, r⟩]) → Unclosed h :=
          fun unclosed hFile member =>
        unclosed hFile (List.mem_append_left _ member)
      refine ⟨shared.kept, shared.held, shared.apart,
        fun unclosed => shared.opened (same unclosed), ?_, ?_, ?_,
        fun unset => absurd (by simp) (unset INVALID_HANDLE_VALUE), fun _ => rfl⟩
      · intro handle opened
        exact (shared.owned handle opened).imp_left fun own =>
          ⟨own.1, unclosed_snoc own.2 (by simp)⟩
      · exact fun fd member => shared.read fd (by simpa using member)
      · exact fun unset => shared.field fun value r member =>
          unset value r (List.mem_append_left _ member)
  | _ => exact absurd next id

end Steps

section Runs
variable {port : ℤ} {σ : Handles} {errnoText : Errno → String} {calls : ι → NativeCall}
  {t : Interleaved (Option ι) (fun _ => winApi) Outcome Handles}

def lawOf : Option ι → History winApi → Prop
  | none => CloserLaw
  | some _ => Firm handling

def endOf : (i : Option ι) → History winApi → Outcome i → Prop
  | none => fun h y => CloserEnd h y.2
  | some _ => fun h _ => gripOf handling h = .empty

omit [DecidableEq ι] in
theorem laws (errnoText : Errno → String) (σ : Handles) (calls : ι → NativeCall) (i : Option ι) :
    wp (lawOf i) [] ((sharing errnoText σ calls).program i) (endOf i) := by
  cases i with
  | none => exact implCloseChannel_law rfl
  | some i =>
      have ends : ∀ {m : Native ℤ} {env : Env}, Passes handling .empty .empty m →
          wp (Firm handling) [] (m env) (endOf (some i)) := fun {m env} passes =>
        wp_mono (passes [] env rfl) fun h y after => after.trans (by cases y.1 <;> rfl)
      change wp (Firm handling) [] ((calls i).program errnoText) _
      cases calls i with
      | readBuffer len errno memory => exact ends (readBuffer_passes errnoText len)
      | writeBuffer buff errno => exact ends (writeBuffer_passes errnoText buff)

/-- What the calls hold, by what they were told. -/
def grips (record : Option ι → History winApi) (i : ι) : Grip ℤ := gripOf handling (record (some i))

theorem reached_shared (start : Shared port σ (fun _ : ι => .empty) [])
    (reached : Interleaved.Reached (sharing errnoText σ calls) Closing t) :
    Shared port t.shared (grips t.record) (t.record none) := by
  refine reached.invariant (laws errnoText σ calls) (fun σ record =>
    Shared port σ (grips record) (record none)) start ?_
  intro t i ev shared _ before closes law answer
  cases i with
  | none =>
      have same : grips (Function.update t.record none (t.record none ++ [ev])) =
          grips t.record := by
        funext j
        rw [grips, Function.update_of_ne (Option.some_ne_none j)]
        rfl
      rw [same, Function.update_self]
      exact before.closer law answer
  | some i =>
      have moved : grips (Function.update t.record (some i) (t.record (some i) ++ [ev])) =
          Function.update (grips t.record) i (gripOf handling (t.record (some i) ++ [ev])) := by
        funext j
        by_cases same : j = i
        · subst same
          rw [grips, Function.update_self, Function.update_self]
        · rw [grips, Function.update_of_ne fun eq => same (Option.some.inj eq),
            Function.update_of_ne same]
          rfl
      rw [moved, Function.update_of_ne (Option.some_ne_none i).symm]
      exact before.call rfl law closes answer

end Runs
end Sharing
end Spsw.Jni.WinApiIO

import Spsw.Interaction.Interleaved
import Spsw.Interaction.Requests
import Spsw.Jnhw.OverlappedHandles

/-!
# The lives of a Windows socket

The constructor, which may throw at any of its calls; then reads and writes, and the one who
closes while they run; then the cleaner, if it was registered. Whatever fails on the way, each
handle is closed once, and nobody names it afterwards.
-/
namespace Spsw.Jnhw.OverlappedIO
open Interaction
open Interaction.Program (Returns)
open Interaction.Method (Only Within amwp amwp_mono amwp_bind amwp_request
  amwp_request_bind amwp_pure amwp_raise amwp_tryCatch)
open Handles (Known Owned Mirrored)
open Jni.WinApiIO (ERROR_IO_PENDING ERROR_NOT_FOUND WAIT_OBJECT_0)
open Resources (Inventory)

/-- An answer that closes no open handle in vain. -/
def steps (σ : Handles) (ev : Event overlapped) (σ' : Handles) : Prop :=
  σ.answers ev σ' ∧ σ.Closes ev

/-- What holds at the end of a part, where its requests are answered by `ans`. -/
abbrev ends {α : Type} (ans : Handles → Event overlapped → Handles → Prop)
    (σ : Handles) (m : Action Unit α) (post : Handles → Except JavaException α → Prop) : Prop :=
  amwp ans (fun _ => True) σ () m fun σ' _ x => post σ' x

/-- Answers of the system. -/
def Sound (ans : Handles → Event overlapped → Handles → Prop) : Prop :=
  ∀ σ ev σ', ans σ ev σ' → σ.answers ev σ'

theorem sound_answers : Sound Handles.answers := fun _ _ _ answer => answer

theorem sound_steps : Sound steps := fun _ _ _ step => step.1

section Rules
variable {α : Type} {ans : Handles → Event overlapped → Handles → Prop} {σ σ' : Handles}
  {handle : ℤ} {e : Request} {post : Handles → Except JavaException α → Prop}

theorem ends_get (sound : Sound ans) {f : Field} {k : ℤ → Action Unit α}
    (next : ends ans σ (k (σ.field f)) post) :
    ends ans σ (ask (.get f) >>= k) post := by
  apply amwp_request_bind
  intro r σ' answer
  obtain ⟨rfl, same⟩ := sound _ _ _ answer
  obtain rfl : σ' = σ := same
  exact ⟨trivial, next⟩

theorem ends_set (sound : Sound ans) {f : Field} {k : Unit → Action Unit α}
    (next : ends ans (σ.set f handle) (k ()) post) :
    ends ans σ (ask (.set f handle) >>= k) post := by
  apply amwp_request_bind
  intro r σ' answer
  obtain rfl : σ' = σ.set f handle := sound _ _ _ answer
  exact ⟨trivial, next⟩

theorem ends_pure {β : Type} {b : β} {k : β → Action Unit α} (next : ends ans σ (k b) post) :
    ends ans σ (pure b >>= k) post :=
  amwp_bind (amwp_pure next)

theorem ends_bind {β : Type} {m : Action Unit β} {k : β → Action Unit α}
    {mid : Handles → Except JavaException β → Prop} (first : ends ans σ m mid)
    (thrown : ∀ σ' e, mid σ' (.error e) → post σ' (.error e))
    (next : ∀ σ' b, mid σ' (.ok b) → ends ans σ' (k b) post) : ends ans σ (m >>= k) post := by
  apply amwp_bind
  apply amwp_mono first
  intro σ' u x after
  cases x with
  | ok b => exact next σ' b after
  | error e => exact thrown σ' e after

theorem ends_seq {m : Action Unit Unit} {k : Unit → Action Unit α} {mid : Handles → Prop}
    (first : ends ans σ m fun σ' x => x = .ok () ∧ mid σ')
    (next : ∀ σ', mid σ' → ends ans σ' (k ()) post) :
    ends ans σ (m >>= k) post := by
  apply ends_bind first
  · rintro σ' e ⟨⟨⟩, -⟩
  · exact fun σ' _ after => next σ' after.2

theorem ends_tryCatch {m : Action Unit α} {handler : JavaException → Action Unit α}
    {mid : Handles → Except JavaException α → Prop} (body : ends ans σ m mid)
    (kept : ∀ σ' a, mid σ' (.ok a) → post σ' (.ok a))
    (handled : ∀ σ' e, mid σ' (.error e) → ends ans σ' (handler e) post) :
    ends ans σ (Method.tryCatch m handler) post := by
  apply amwp_tryCatch
  apply amwp_mono body
  intro σ' u x after
  cases x with
  | ok a => exact kept σ' a after
  | error e => exact handled σ' e after

theorem ends_setEvent (sound : Sound ans) {event hEvent : Field} {k : Unit → Action Unit α}
    (next : ends ans ((σ.set event handle).set hEvent handle) (k ()) post) :
    ends ans σ (setEvent event hEvent handle >>= k) post := by
  apply amwp_bind
  apply amwp_request_bind
  intro r σ₁ answer
  obtain rfl : σ₁ = σ.set event handle := sound _ _ _ answer
  refine ⟨trivial, amwp_request fun r σ₂ answer => ?_⟩
  obtain rfl : σ₂ = (σ.set event handle).set hEvent handle := sound _ _ _ answer
  exact ⟨trivial, next⟩

/-- The handle that a request names, and does nothing to. -/
def touches : Request → Option ℤ
  | .CancelIo handle | .GetCommState handle | .SetCommState handle _ | .GetCommTimeouts handle
  | .SetCommTimeouts handle _ => some handle
  | _ => none

theorem answers_touch {r : Answer e} (own : touches e = some handle)
    (answer : σ.answers ⟨e, r⟩ σ') :
    σ' = σ.touch handle := by
  cases e with
  | CancelIo handle' =>
      obtain rfl := Option.some.inj own
      exact answer
  | GetCommState handle' =>
      obtain rfl := Option.some.inj own
      exact answer
  | SetCommState handle' dcb =>
      obtain rfl := Option.some.inj own
      exact answer
  | GetCommTimeouts handle' =>
      obtain rfl := Option.some.inj own
      exact answer
  | SetCommTimeouts handle' timeouts =>
      obtain rfl := Option.some.inj own
      exact answer
  | _ => cases own

theorem ends_touch (sound : Sound ans) (own : touches e = some handle)
    {k : Answer e → Action Unit α} (next : ∀ r, ends ans (σ.touch handle) (k r) post) :
    ends ans σ (ask e >>= k) post := by
  apply amwp_request_bind
  intro r σ' answer
  rw [answers_touch own (sound _ _ _ answer)]
  exact ⟨trivial, next r⟩

/-- A `CloseHandle` that closes what is open, whatever it answers for `INVALID_HANDLE_VALUE`. -/
theorem ends_close (mine : σ.Mine handle) {k : Except ℕ Unit → Action Unit α}
    (next : ∀ r, ends steps (σ.close handle) (k r) post) :
    ends steps σ (ask (.CloseHandle handle) >>= k) post := by
  apply amwp_request_bind
  rintro r σ' ⟨answer, closes⟩
  have closed : σ' = σ.close handle := by
    cases r with
    | ok => exact answer
    | error errno =>
        obtain rfl : σ' = σ.touch handle := answer
        rcases mine with nobody | opened
        · rw [Handles.touch, Handles.close, Inventory.touch_nobody nobody,
            Inventory.close_nobody nobody]
        · cases closes opened
  rw [closed]
  exact ⟨trivial, next r⟩

end Rules

section Cleaner
variable {σ : Handles} {parts : Set Part} {part : Part}

theorem clean_ends (known : Known parts σ) (member : part ∈ parts) (cancel : Bool) :
    ends steps σ (clean part cancel) fun σ' x => x = .ok () ∧ Known (parts \ {part}) σ' := by
  have closed := known.closed member
  have mine := known.mine member
  apply ends_get sound_steps
  split
  · cases cancel with
    | true =>
        refine ends_touch sound_steps rfl fun _ => ends_close ?_ fun _ => amwp_pure ⟨rfl, ?_⟩
        · exact mine.imp_right fun opened => by simpa using opened
        · have touched := (known.touch mine).closed member
          rw [Handles.touch_field] at touched
          exact touched
    | false => exact ends_close mine fun _ => amwp_pure ⟨rfl, closed⟩
  · next none =>
    rw [not_not] at none
    have nobody : Handles.Nobody (σ.field (.cleaner part)) := none
    rw [Handles.close, Inventory.close_nobody nobody] at closed
    exact amwp_pure ⟨rfl, closed⟩

/-- The cleaner closes what its fields name, and that is all there is. -/
theorem runCleaner_ends (owned : Owned σ) : ends steps σ runCleaner fun σ' _ => σ'.Gone := by
  apply ends_seq (clean_ends owned (Set.mem_univ _) false)
  intro σ₁ read
  apply ends_seq (clean_ends read ⟨Set.mem_univ _, by simp⟩ false)
  intro σ₂ written
  apply amwp_mono (clean_ends written ⟨⟨Set.mem_univ _, by simp⟩, by simp⟩ true)
  rintro σ₃ u x ⟨-, known⟩
  refine ⟨known.kept, fun handle => Bool.eq_false_iff.mpr fun opened => ?_⟩
  obtain ⟨part, ⟨⟨⟨-, unread⟩, unwritten⟩, other⟩, -⟩ := known.named handle opened
  cases part with
  | hFile => exact other rfl
  | readEvent => exact unread rfl
  | writeEvent => exact unwritten rfl

end Cleaner

section Closer
variable {ans : Handles → Event overlapped → Handles → Prop} {σ : Handles}
  {part : Part} {hEvent : Field}

/-- An event field of an `OVERLAPPED`. -/
def IsOverlapped (f : Field) : Prop := f = .readOverlapped ∨ f = .writeOverlapped

theorem IsOverlapped.not_socket (overlapped : IsOverlapped hEvent) (part : Part) :
    hEvent ≠ .socket part := by
  rcases overlapped with rfl | rfl <;> exact Field.noConfusion

theorem IsOverlapped.not_cleaner (overlapped : IsOverlapped hEvent) (part : Part) :
    hEvent ≠ .cleaner part := by
  rcases overlapped with rfl | rfl <;> exact Field.noConfusion

/-- How `closeEvent` leaves the handles. -/
structure EventClosed (part : Part) (hEvent : Field) (σ σ' : Handles) : Prop where
  owned : Owned σ'
  registered : σ'.registered = σ.registered
  event : σ'.field (.socket part) = INVALID_HANDLE_VALUE
  overlapped : σ'.field hEvent = INVALID_HANDLE_VALUE
  others : ∀ f, f ≠ .socket part → f ≠ hEvent → f ≠ .cleaner part → σ'.field f = σ.field f

theorem closeEvent_ends (owned : Owned σ) (same : σ.field (.socket part) = σ.field (.cleaner part))
    (overlapped : IsOverlapped hEvent) :
    ends Handles.answers σ (closeEvent part hEvent) fun σ' x => x = .ok () ∧
      EventClosed part hEvent σ σ' := by
  have apart := overlapped.not_socket part
  have foreign := overlapped.not_cleaner
  apply ends_get sound_answers
  rw [same]
  apply ends_setEvent sound_answers
  have known :
    Owned ((σ.set (.socket part) INVALID_HANDLE_VALUE).set hEvent INVALID_HANDLE_VALUE) :=
    (owned.set (by simp)).set foreign
  have named : ((σ.set (.socket part) INVALID_HANDLE_VALUE).set hEvent INVALID_HANDLE_VALUE).field
    (.cleaner part) =
      σ.field (.cleaner part) :=
    (Handles.set_other (foreign part).symm).trans (Handles.set_other (by simp))
  have invalid :
      ((σ.set (.socket part) INVALID_HANDLE_VALUE).set hEvent INVALID_HANDLE_VALUE).field
        (.socket part) =
      INVALID_HANDLE_VALUE := (Handles.set_other apart.symm).trans Handles.set_self
  have others : ∀ f, f ≠ .socket part → f ≠ hEvent →
      ((σ.set (.socket part) INVALID_HANDLE_VALUE).set hEvent INVALID_HANDLE_VALUE).field f =
        σ.field f :=
    fun f first second => (Handles.set_other second).trans (Handles.set_other first)
  apply amwp_request_bind
  rintro (errno | ⟨⟩) σ₂ answer
  · obtain rfl : σ₂ = _ := answer
    have mine := known.mine (Set.mem_univ part)
    rw [named] at mine
    refine ⟨trivial, amwp_pure ⟨rfl, known.touch mine, by simp, ?_, ?_, ?_⟩⟩
    · rw [Handles.touch_field, invalid]
    · rw [Handles.touch_field, Handles.set_self]
    · intro f first second third
      rw [Handles.touch_field, others f first second]
  · obtain rfl : σ₂ = _ := answer
    have closed := known.closed (Set.mem_univ part)
    rw [named] at closed
    refine ⟨trivial, amwp_request ?_⟩
    rintro r σ₃ rfl
    refine ⟨trivial, rfl, closed.forget, by simp, ?_, ?_, ?_⟩
    · rw [Handles.set_other (by simp), Handles.close_field, invalid]
    · rw [Handles.set_other (foreign part), Handles.close_field, Handles.set_self]
    · intro f first second third
      rw [Handles.set_other third, Handles.close_field, others f first second]

/-- How the one who closes leaves the handles: where nothing is thrown, the socket names none. -/
structure Closed (σ σ' : Handles) (x : Except JavaException Unit) : Prop where
  owned : Owned σ'
  registered : σ'.registered = σ.registered
  cleared : x = .ok () → ∀ f, (∀ part, f ≠ .cleaner part) → σ'.field f = INVALID_HANDLE_VALUE

theorem closePort_ends {handle : ℤ} (owned : Owned σ) (named : handle = σ.field (.cleaner .hFile))
    (cleared : σ.field hFile = INVALID_HANDLE_VALUE)
    (same : ∀ part, part ≠ .hFile → σ.field (.socket part) = σ.field (.cleaner part)) :
    ends Handles.answers σ (closePort handle) (Closed σ) := by
  subst named
  have mine := owned.mine (Set.mem_univ .hFile)
  apply amwp_request_bind
  rintro (errno | ⟨⟩) σ₁ answer
  · obtain rfl : σ₁ = _ := answer
    exact ⟨trivial, amwp_raise ⟨owned.touch mine, by simp, fun thrown => by cases thrown⟩⟩
  obtain rfl : σ₁ = _ := answer
  refine ⟨trivial, ends_set sound_answers ?_⟩
  have known : Owned ((σ.close (σ.field (.cleaner .hFile))).set
    (.cleaner .hFile) INVALID_HANDLE_VALUE) :=
    (owned.closed (Set.mem_univ _)).forget
  have others : ∀ f, f ≠ .cleaner .hFile →
      ((σ.close (σ.field (.cleaner .hFile))).set (.cleaner .hFile) INVALID_HANDLE_VALUE).field f =
        σ.field f := by
    intro f other
    rw [Handles.set_other other, Handles.close_field]
  have sameRead := same .readEvent (by simp)
  rw [← others (.socket .readEvent) (by simp), ← others (.cleaner .readEvent) (by simp)] at sameRead
  apply ends_seq (closeEvent_ends known sameRead (.inl rfl))
  intro σ₂ read
  have readOthers : ∀ f, f ≠ .cleaner .hFile → f ≠ .socket .readEvent → f ≠ .readOverlapped →
    f ≠ .cleaner .readEvent →
      σ₂.field f = σ.field f :=
    fun f first second third fourth => (read.others f second third fourth).trans (others f first)
  have sameWrite := same .writeEvent (by simp)
  rw [← readOthers (.socket .writeEvent) (by simp) (by simp) (by simp) (by simp),
    ← readOthers (.cleaner .writeEvent) (by simp) (by simp) (by simp) (by simp)] at sameWrite
  apply amwp_mono (closeEvent_ends read.owned sameWrite (.inr rfl))
  rintro σ₃ u x ⟨rfl, write⟩
  refine ⟨write.owned, by rw [write.registered, read.registered]; simp, fun _ f foreign => ?_⟩
  by_cases event : f = .socket .writeEvent
  · rw [event, write.event]
  by_cases overlapped : f = .writeOverlapped
  · rw [overlapped, write.overlapped]
  rw [write.others f event overlapped (foreign _)]
  cases f with
  | cleaner part => exact absurd rfl (foreign part)
  | readOverlapped => exact read.overlapped
  | writeOverlapped => exact absurd rfl overlapped
  | socket part =>
      cases part with
      | readEvent => exact read.event
      | writeEvent => exact absurd rfl event
      | hFile => exact (readOthers _ (by simp) (by simp) (by simp) (by simp)).trans cleared

theorem implCloseChannel_ends (mirrored : Mirrored σ) :
    ends Handles.answers σ implCloseChannel (Closed σ) := by
  apply ends_get sound_answers
  rw [show σ.field hFile = σ.field (.cleaner .hFile) from mirrored.same .hFile]
  apply ends_set sound_answers
  have owned : Owned (σ.set hFile INVALID_HANDLE_VALUE) := mirrored.owned.set (by simp [hFile])
  have named : (σ.set hFile INVALID_HANDLE_VALUE).field (.cleaner .hFile) =
    σ.field (.cleaner .hFile) :=
    Handles.set_other (by simp [hFile])
  have mine : (σ.set hFile INVALID_HANDLE_VALUE).Mine (σ.field (.cleaner .hFile)) :=
    mirrored.owned.mine (Set.mem_univ _)
  refine ends_touch sound_answers rfl fun cancelled => ?_
  have touched := owned.touch mine
  have close : ends Handles.answers
      ((σ.set hFile INVALID_HANDLE_VALUE).touch (σ.field (.cleaner .hFile)))
      (closePort (σ.field (.cleaner .hFile))) (Closed σ) := by
    apply amwp_mono (closePort_ends touched ?_ ?_ ?_)
    · rintro σ' u x ⟨owned, registered, cleared⟩
      exact ⟨owned, registered.trans (by simp), cleared⟩
    · rw [Handles.touch_field, named]
    · rw [Handles.touch_field, Handles.set_self]
    · intro part other
      rw [Handles.touch_field,
        Handles.set_other (by simp [hFile, other]), Handles.set_other (by simp [hFile])]
      exact mirrored.same part
  cases cancelled with
  | ok => exact close
  | error errno =>
      dsimp only
      split
      · refine ends_set sound_answers
          (amwp_raise ⟨touched.set (by simp [hFile]), by simp, fun thrown => ?_⟩)
        cases thrown
      · exact close

end Closer

section Constructor
variable {σ : Handles} {handle : ℤ} {portName : String}

/-- The port alone is open, and only the socket has its handle. -/
structure HasPort (handle : ℤ) (σ : Handles) : Prop where
  only : σ.toInventory.Only Handles.Nobody handle
  named : σ.field hFile = handle
  others : ∀ f, f ≠ hFile → σ.field f = INVALID_HANDLE_VALUE
  unregistered : σ.registered = false

/-- Nothing is open, and there is no cleaner. -/
structure Dropped (σ : Handles) : Prop where
  gone : σ.Gone
  unregistered : σ.registered = false

/-- How a part of `open` ends before the cleaner is registered. -/
def Sets (handle : ℤ) (σ : Handles) : Except JavaException Unit → Prop
  | .ok _ => HasPort handle σ
  | .error _ => Dropped σ

theorem HasPort.touch (port : HasPort handle σ) : HasPort handle (σ.touch handle) :=
  ⟨port.only.touch, port.named, port.others, port.unregistered⟩

theorem giveUp_ends {α : Type} {e : JavaException} (port : HasPort handle σ) :
    ends steps σ (giveUp e : Action Unit α) fun σ' x => x = .error e ∧ Dropped σ' := by
  apply ends_get sound_steps
  rw [port.named]
  exact ends_close port.only.mine fun _ =>
    ends_set sound_steps (amwp_raise ⟨rfl, port.only.close, port.unregistered⟩)

theorem giveUp_sets {e : JavaException} (port : HasPort handle σ) :
    ends steps σ (giveUp e) (Sets handle) := by
  apply amwp_mono (giveUp_ends port)
  rintro σ' u x ⟨rfl, dropped⟩
  exact dropped

theorem closedOrNative_ends {α : Type} {errno : ℕ} {text : String} (port : HasPort handle σ) :
    ends steps σ (closedOrNative portName errno text : Action Unit α)
      fun σ' _ => HasPort handle σ' :=
  ends_get sound_steps (amwp_raise port)

theorem refused_ends {errno : ℕ} (port : HasPort handle σ) :
    ends steps σ (refused portName errno : Action Unit Unit) fun σ' _ => HasPort handle σ' := by
  rw [refused]
  split
  · exact amwp_raise port
  · exact closedOrNative_ends port

theorem setParams_ends (port : HasPort handle σ) (dcb : DCB) (r : Params) :
    ends steps σ (setParams portName dcb r) fun σ' _ => HasPort handle σ' := by
  rw [setParams]
  cases dcb.alter r with
  | error e => exact amwp_bind (amwp_raise port)
  | ok dcb =>
      refine ends_pure (ends_get sound_steps ?_)
      rw [port.named]
      refine ends_touch sound_steps rfl fun stored => ?_
      cases stored with
      | error errno => exact refused_ends port.touch
      | ok =>
          apply ends_get sound_steps
          rw [port.touch.named]
          refine ends_touch sound_steps rfl fun readed => ?_
          cases readed with
          | error errno => exact closedOrNative_ends port.touch.touch
          | ok readed =>
              dsimp only
              cases dcb.verify r with
              | error e => exact amwp_raise port.touch.touch
              | ok => exact amwp_pure port.touch.touch

theorem openTimeouts_ends (port : HasPort handle σ) : ends steps σ openTimeouts (Sets handle) := by
  apply ends_get sound_steps
  rw [port.named]
  refine ends_touch sound_steps rfl fun found => ?_
  cases found with
  | error errno => exact giveUp_sets port.touch
  | ok timeouts =>
      apply ends_get sound_steps
      rw [port.touch.named]
      refine ends_touch sound_steps rfl fun stored => ?_
      cases stored with
      | error errno => exact giveUp_sets port.touch.touch
      | ok => exact amwp_pure port.touch.touch

/-- The cleaner is registered, and knows as much as the socket. -/
structure Ready (σ : Handles) : Prop where
  mirrored : Mirrored σ
  registered : σ.registered = true

/-- How a part of `open` ends after that; `rest` is what is yet to come. -/
def Readies (rest : Part → Prop) (σ : Handles) : Except JavaException Unit → Prop
  | .ok _ => Ready σ ∧ ∀ part, rest part → σ.field (.cleaner part) = INVALID_HANDLE_VALUE
  | .error _ => Owned σ ∧ σ.registered = true

theorem openEvent_ends {part : Part} {hEvent : Field} {name : String}
    {rest : Part → Prop} (ready : Ready σ)
    (unknown : ∀ other, rest other ∨ other = part → σ.field (.cleaner other) = INVALID_HANDLE_VALUE)
    (overlapped : IsOverlapped hEvent) :
    ends steps σ (openEvent part hEvent name) (Readies fun other => rest other ∧ other ≠ part) := by
  apply amwp_request_bind
  rintro (errno | handle) σ₁ ⟨answer, -⟩
  · obtain rfl : σ₁ = σ := answer
    exact ⟨trivial, amwp_raise ⟨ready.mirrored.owned, ready.registered⟩⟩
  obtain ⟨fresh, same⟩ := answer
  obtain rfl : σ₁ = σ.obtain handle := same
  refine ⟨trivial, ends_setEvent sound_steps (ends_get sound_steps (amwp_request ?_))⟩
  rintro r σ₂ ⟨rfl, -⟩
  have apart := overlapped.not_socket
  have foreign := overlapped.not_cleaner
  have event : (((σ.obtain handle).set (.socket part) handle).set hEvent handle).field
    (.socket part) = handle :=
    (Handles.set_other (apart part).symm).trans Handles.set_self
  have named : ∀ other, other ≠ part →
      ((((σ.obtain handle).set (.socket part) handle).set hEvent handle).set
      (.cleaner part) handle).field (.cleaner other) = σ.field (.cleaner other) := by
    intro other ne
    rw [Handles.set_other
      (by simp [ne]), Handles.set_other (foreign other).symm, Handles.set_other (by simp)]
    rfl
  have learnt := ready.mirrored.owned.learn (unknown part (.inr rfl)) (Set.mem_univ _) fresh
  rw [event]
  refine ⟨trivial, ⟨⟨learnt.same learnt.kept (fun other => ?_) rfl, fun other => ?_⟩,
    ready.registered⟩, ?_⟩
  · by_cases own : other = part
    · subst own
      rw [Handles.set_self, Handles.set_self]
    · rw [named other own, Handles.set_other (by simp [own])]
      rfl
  · by_cases own : other = part
    · subst own
      rw [Handles.set_self, Handles.set_other (by simp), event]
    · rw [named other own, Handles.set_other (by simp), Handles.set_other (apart other).symm,
        Handles.set_other (by simp [own])]
      exact ready.mirrored.same other
  · rintro other ⟨later, own⟩
    rw [named other own]
    exact unknown other (.inl later)

/-- The cleaner gets the port. -/
theorem HasPort.ready (port : HasPort handle σ) :
    Ready ({ σ with registered := true }.set (.cleaner .hFile) handle) := by
  have fields : ∀ part, part ≠ .hFile →
      ({ σ with registered := true }.set (.cleaner .hFile) handle).field (.cleaner part) =
      INVALID_HANDLE_VALUE := by
    intro part other
    rw [Handles.set_other (by simp [other])]
    exact port.others _ (by simp [hFile])
  refine ⟨⟨⟨port.only.kept, ?_, ?_, ?_⟩, ?_⟩, rfl⟩
  · intro part _
    by_cases own : part = .hFile
    · subst own
      rw [Handles.set_self]
      exact port.only.mine
    · exact .inl (fields part own)
  · intro h opened
    exact ⟨.hFile, Set.mem_univ _, Handles.set_self.trans ((port.only.opened h).mp opened).symm⟩
  · intro part _ other _ valid same
    by_cases own : part = .hFile
    · by_contra ne
      have invalid := fields other fun eq => ne (own.trans eq.symm)
      exact valid (same.trans invalid)
    · exact absurd (fields part own) valid
  · intro part
    rw [Handles.set_other (by simp)]
    by_cases own : part = .hFile
    · subst own
      rw [Handles.set_self]
      exact port.named
    · rw [fields part own]
      exact port.others _ (by simp [hFile, own])

/-- How the constructor ends. -/
def Opens (σ : Handles) : Except JavaException Unit → Prop
  | .ok _ => Ready σ
  | .error _ => Dropped σ ∨ Owned σ ∧ σ.registered = true

/-- The end of `open`, with the cleaner. -/
theorem openEvents_ends (ready : Ready σ)
    (unknown : ∀ part, part ≠ .hFile → σ.field (.cleaner part) = INVALID_HANDLE_VALUE) :
    ends steps σ (do openReadEvent; openWriteEvent) Opens := by
  have opensRead : ends steps σ openReadEvent (Readies fun other => other = .writeEvent ∧
    other ≠ .readEvent) :=
    openEvent_ends ready (fun other event =>
      unknown other (by rcases event with rfl | rfl <;> simp)) (.inl rfl)
  apply ends_bind opensRead
  · exact fun _ _ owned => .inr owned
  rintro σ₁ _ ⟨ready, unknown⟩
  have opensWrite : ends steps σ₁ openWriteEvent (Readies fun other => False ∧
    other ≠ .writeEvent) :=
    openEvent_ends ready (fun other event =>
      unknown other (by rcases event with ⟨⟨⟩⟩ | rfl; simp)) (.inr rfl)
  apply amwp_mono opensWrite
  intro σ₂ u x written
  cases x with
  | error e => exact .inr written
  | ok => exact written.1

/-- A part that throws has given the port back. -/
theorem giveUp_opens {e : JavaException} (port : HasPort handle σ) :
    ends steps σ (giveUp e) Opens := by
  apply amwp_mono (giveUp_ends port)
  rintro σ' u x ⟨rfl, dropped⟩
  exact .inl dropped

theorem configure_ends (port : HasPort handle σ) (r : Params) :
    ends steps σ (configure portName r) Opens := by
  apply ends_get sound_steps
  rw [port.named]
  refine ends_touch sound_steps rfl fun found => ?_
  cases found with
  | error errno => exact giveUp_opens port.touch
  | ok dcb =>
      have set : ends steps (σ.touch handle) (Method.tryCatch (setParams portName dcb r) giveUp)
        (Sets handle) :=
        ends_tryCatch (setParams_ends port.touch dcb r) (fun _ _ port => port)
          fun _ _ port => giveUp_sets port
      apply ends_bind set
      · exact fun _ _ dropped => .inl dropped
      intro σ₁ _ port
      apply ends_bind (openTimeouts_ends port)
      · exact fun _ _ dropped => .inl dropped
      intro σ₂ _ port
      have port : HasPort handle σ₂ := port
      apply amwp_request_bind
      rintro v σ₃ ⟨rfl, -⟩
      refine ⟨trivial, ends_get sound_steps ?_⟩
      rw [show ({ σ₂ with registered := true } : Handles).field hFile = handle from port.named]
      refine ends_set sound_steps (openEvents_ends port.ready fun part other => ?_)
      rw [Handles.set_other (by simp [other])]
      exact port.others _ (by simp [hFile])

theorem open_ends (portName : String) (r : Params) :
    ends steps .initial («open» portName r) Opens := by
  apply ends_get sound_steps
  have unopened : ¬Handles.initial.field hFile ≠ INVALID_HANDLE_VALUE := not_not_intro rfl
  rw [if_neg unopened]
  apply amwp_request_bind
  rintro (errno | handle) σ ⟨answer, -⟩
  · obtain rfl : σ = .initial := answer
    have dropped : Dropped .initial := ⟨Inventory.gone_empty, rfl⟩
    refine ⟨trivial, ?_⟩
    dsimp only
    split
    · exact amwp_raise (.inl dropped)
    · split
      · exact amwp_raise (.inl dropped)
      · exact amwp_raise (.inl dropped)
  · obtain ⟨fresh, same⟩ := answer
    obtain rfl : σ = Handles.initial.obtain handle := same
    have port : HasPort handle ((Handles.initial.obtain handle).set hFile handle) :=
      ⟨Inventory.gone_empty.obtain fresh, Handles.set_self,
        fun f other => Handles.set_other other, rfl⟩
    exact ⟨trivial, ends_set sound_steps (configure_ends port r)⟩

end Constructor

section Sharing
variable {ι : Type} [DecidableEq ι]

inductive Transfer where
  | read (dst : ByteBuffer)
  | write (src : ByteBuffer)

def Transfer.program : Transfer → Program overlapped (Except JavaException ℤ × ByteBuffer)
  | .read dst => OverlappedIO.read dst
  | .write src => OverlappedIO.write src

/-- What the one who closes and the transfers end with. -/
def Outcome : Option ι → Type
  | none => Except JavaException Unit × Unit
  | some _ => Except JavaException ℤ × ByteBuffer

/-- `implCloseChannel` and the transfers, on the handles `σ`. -/
def sharing (σ : Handles) (transfers : ι → Transfer) :
    Interleaved.System (Option ι) (fun _ => overlapped) Outcome Handles where
  initial := σ
  program
    | none => implCloseChannel ()
    | some i => (transfers i).program
  answers σ _ := σ.answers

/-- What a transfer asks for. -/
def transferring : Request → Bool
  | .get _ | .ResetEvent _ | .ReadFile _ _ _ | .WriteFile _ _ _ | .WaitForSingleObject
      _ | .overlappedRead _ _ _
  | .overlappedWrite _ _ _ | .begin | .end _ => true
  | _ => false

abbrev Transferring {τ α : Type} (m : Action τ α) : Prop := Only (fun e => transferring e = true) m

section Transfers
variable {τ : Type}

theorem asked {e : Request} (own : transferring e = true) :
    Transferring (ask e : Action τ (Answer e)) := .request own

theorem failing_transfers {α : Type} (e : JavaException) : Transferring (failing e : Action τ α) :=
  .bind (asked rfl) fun _ => .ite (.raise _) (.raise _)

theorem ended_transfers : Transferring (ended : Action τ Unit) := by
  refine .bind (asked rfl) fun thrown => ?_
  cases thrown with
  | none => exact .pure _
  | some e => exact .raise _

theorem waiting_transfers (event : ℤ) (name : String) :
    Transferring (waiting event name : Action τ Unit) := by
  refine .bind (asked rfl) fun waited => ?_
  cases waited with
  | ok result => exact .ite (failing_transfers _) (.pure _)
  | error errno => exact .raise _

theorem awaitRead_transfers (room : ℕ) : Transferring (awaitRead room) := by
  refine .bind (asked rfl) fun _ => .bind (asked rfl) fun event =>
    .bind (waiting_transfers _ _) fun _ => ?_
  refine .bind (asked rfl) fun handle => .bind (asked rfl) fun hEvent =>
    .bind (asked rfl) fun result => ?_
  cases result with
  | ok bytes => exact .bind (.assign _) fun _ => .ite (.pure _) (failing_transfers _)
  | error errno => exact failing_transfers _

theorem read_transfers : Transferring read := by
  refine .bind .locals fun dst =>
    .ite (.pure _) (.bind (asked rfl) fun event => .bind (asked rfl) fun reset => ?_)
  cases reset with
  | error errno => exact .raise _
  | ok =>
      refine .bind (asked rfl) fun handle => .bind (asked rfl) fun hEvent =>
        .bind (asked rfl) fun started => ?_
      have awaits : Transferring (Method.tryFinally (awaitRead dst.remaining) ended) :=
        .tryFinally (awaitRead_transfers _) ended_transfers
      cases started with
      | ok => exact awaits
      | error errno => exact .ite (failing_transfers _) awaits

theorem awaitWrite_transfers (len : ℕ) : Transferring (awaitWrite len) := by
  refine .bind (asked rfl) fun _ => .bind (asked rfl) fun event =>
    .bind (waiting_transfers _ _) fun _ => ?_
  refine .bind (asked rfl) fun handle => .bind (asked rfl) fun hEvent =>
    .bind (asked rfl) fun result => ?_
  cases result with
  | ok written =>
      exact .bind (.assign _) fun _ => .bind .locals fun src => .ite (failing_transfers _) (.pure _)
  | error errno => exact failing_transfers _

theorem write_transfers : Transferring write := by
  refine .bind .locals fun src =>
    .ite (.pure _) (.bind (asked rfl) fun event => .bind (asked rfl) fun reset => ?_)
  cases reset with
  | error errno => exact .raise _
  | ok =>
      refine .bind (asked rfl) fun handle => .bind (asked rfl) fun hEvent =>
        .bind (asked rfl) fun started => ?_
      have awaits : Transferring (Method.tryFinally (awaitWrite src.remaining) ended) :=
        .tryFinally (awaitWrite_transfers _) ended_transfers
      cases started with
      | ok => exact awaits
      | error errno => exact .ite (failing_transfers _) awaits

end Transfers

section Runs
variable {σ σ' : Handles} {transfers : ι → Transfer}
  {t : Interleaved (Option ι) (fun _ => overlapped) Outcome Handles}

/-- A transfer leaves the handles alone. -/
theorem answers_transferring {ev : Event overlapped} (own : transferring ev.1 = true)
    (answer : σ.answers ev σ') :
    σ' = σ := by
  obtain ⟨e, r⟩ := ev
  cases e with
  | get f => exact answer.2
  | ReadFile handle hEvent room => exact answer.2
  | WriteFile handle hEvent bytes => exact answer.2
  | ResetEvent hEvent => exact answer
  | WaitForSingleObject hEvent => exact answer
  | overlappedRead handle hEvent room => exact answer
  | overlappedWrite handle hEvent len => exact answer
  | begin => exact answer
  | «end» completed => exact answer
  | _ => cases own

def lawOf : Option ι → History overlapped → Prop
  | none => fun _ => True
  | some _ => Within fun e => transferring e = true

omit [DecidableEq ι] in
theorem laws (σ : Handles) (transfers : ι → Transfer) (i : Option ι) :
    wp (lawOf i) [] ((sharing σ transfers).program i) (fun _ _ => True) := by
  cases i with
  | none => exact fun _ _ _ => ⟨fun _ => trivial, fun _ _ => trivial⟩
  | some i =>
      change wp (Within fun e => transferring e = true) [] (transfers i).program fun _ _ => True
      cases transfers i with
      | read dst => exact wp_mono (read_transfers [] dst Method.within_nil) fun _ _ _ => trivial
      | write src => exact wp_mono (write_transfers [] src Method.within_nil) fun _ _ _ => trivial

/-- Only the one who closes changes the handles. -/
theorem reached_answered {ok : Interleaved (Option ι) (fun _ => overlapped) Outcome Handles →
      Option (Interleaved.Label fun _ : Option ι => overlapped) → Prop}
    (reached : Interleaved.Reached (sharing σ transfers) ok t) :
    Answered Handles.answers σ (t.record none) t.shared := by
  apply reached.answered_lawful (laws σ transfers) none
  · exact fun _ _ _ _ answer => answer
  · intro s j ev shared other law answer
    cases j with
    | none => exact absurd rfl other
    | some j =>
        have within : Within (fun e => transferring e = true) (s.record (some j) ++ [ev]) := law
        exact answers_transferring within.last answer

end Runs

/-- What becomes of the handles of a socket that nobody has any more. -/
def Cleaned (σ σ' : Handles) : Prop :=
  if σ.registered = true then ∃ h y, Returns (runCleaner ()) h y ∧ Answered steps σ h σ' else σ' = σ

/-- The life of a socket: a constructor that throws; or one that returns, any transfers, and
the one who closes, if he has begun. -/
inductive Lives (portName : String) (r : Params) (transfers : ι → Transfer) : Handles → Prop
  | refused {σ σ' : Handles} {h : History overlapped} {e : JavaException}
      (thrown : Returns («open» portName r ()) h (.error e, ()))
        (answered : Answered steps .initial h σ) (cleaned : Cleaned σ σ') :
        Lives portName r transfers σ'
  | closed {σ σ' : Handles} {h : History overlapped} {t : Interleaved (Option ι) (fun _ =>
      overlapped) Outcome Handles} (constructed : Returns («open» portName r ()) h (.ok (), ()))
      (answered : Answered steps .initial h σ)
      (reached : Interleaved.Reached (sharing σ transfers) (fun _ _ => True) t)
      (closer : t.record none = [] ∨ ∃ y, t.thread none = .pure y) (cleaned : Cleaned t.shared σ') :
      Lives portName r transfers σ'

theorem cleaned_gone {σ σ' : Handles} (left : Dropped σ ∨ Owned σ ∧ σ.registered = true)
    (cleaned : Cleaned σ σ') :
    σ'.Gone := by
  rcases left with dropped | ⟨owned, registered⟩
  · have same : σ' = σ := by simpa [Cleaned, dropped.unregistered] using cleaned
    rw [same]
    exact dropped.gone
  · obtain ⟨h, y, returns, answered⟩ : ∃ h y, Returns (runCleaner ()) h y ∧
        Answered steps σ h σ' := by
      simpa [Cleaned, registered] using cleaned
    exact Method.amwp_returns (runCleaner_ends owned) returns answered

/-- In every life of a socket, each handle is closed once and not named afterwards, however
the transfers and the close overlap and whichever call fails, those of the one who closes to
`CloseHandle` among them. -/
theorem handles_closed_once {portName : String} {r : Params}
    {transfers : ι → Transfer} {σ : Handles} (lives : Lives portName r transfers σ) :
    Resources.Accounted (Resources.stamp σ.log) := by
  have opens := open_ends portName r
  cases lives with
  | refused thrown answered cleaned =>
      exact (cleaned_gone (Method.amwp_returns opens thrown answered) cleaned).accounted
  | @closed σ₁ _ h t constructed answered reached closer cleaned =>
      obtain ⟨mirrored, registered⟩ : Ready σ₁ := Method.amwp_returns opens constructed answered
      have record := reached_answered reached
      have left : Owned t.shared ∧ t.shared.registered = true := by
        rcases closer with none_yet | ⟨y, done⟩
        · rw [none_yet] at record
          cases record
          exact ⟨mirrored.owned, registered⟩
        · have returns : Returns (implCloseChannel ()) (t.record none) y := by
            have run := reached.run none
            rw [done] at run
            exact run
          obtain ⟨owned, same, -⟩ :=
            Method.amwp_returns (implCloseChannel_ends mirrored) returns record
          exact ⟨owned, same.trans registered⟩
      exact (cleaned_gone (.inr left) cleaned).accounted

end Sharing

section Examples

/-- `COM3`, as it is found. -/
def found : DCB := ⟨9600, 8, ONESTOPBIT, PARITY .NONE, RTS_CONTROL_DISABLE, false, false, false⟩

/-- A system that gives out 3 for a port, then 4 and 5 for the events. -/
def com3 (σ : Handles) : (e : Request) → Option (Answer e × Handles)
  | .get f => some (σ.field f, σ)
  | .set f handle => some ((), σ.set f handle)
  | .CreateFileW _ => if σ.opened 3 = false then some (.ok 3, σ.obtain 3) else none
  | .CreateEventW => if σ.opened 4 = false then some (.ok 4, σ.obtain 4)
      else if σ.opened 5 = false then some (.ok 5, σ.obtain 5) else none
  | .GetCommState handle => some (.ok found, σ.touch handle)
  | .SetCommState handle _ => some (.ok (), σ.touch handle)
  | .GetCommTimeouts handle => some (.ok ⟨0, 0, 0, 0, 0⟩, σ.touch handle)
  | .SetCommTimeouts handle _ => some (.ok (), σ.touch handle)
  | .CloseHandle handle => some (.ok (), σ.close handle)
  | .CancelIo handle => some (.error ERROR_NOT_FOUND, σ.touch handle)
  | .register => some ((), { σ with registered := true })
  | _ => none

theorem com3_lawful (σ : Handles) (e : Request) (y : Answer e × Handles)
    (answer : com3 σ e = some y) :
    steps σ ⟨e, y.1⟩ y.2 := by
  cases e with
  | CreateFileW name =>
      rw [com3] at answer
      split at answer
      · next free =>
        cases answer
        exact ⟨⟨⟨free, by decide⟩, rfl⟩, trivial⟩
      · cases answer
  | CreateEventW =>
      rw [com3] at answer
      split at answer
      · next free =>
        cases answer
        exact ⟨⟨⟨free, by decide⟩, rfl⟩, trivial⟩
      · split at answer
        · next free =>
          cases answer
          exact ⟨⟨⟨free, by decide⟩, rfl⟩, trivial⟩
        · cases answer
  | get f =>
      cases answer
      exact ⟨⟨rfl, rfl⟩, trivial⟩
  | CloseHandle handle =>
      cases answer
      exact ⟨rfl, fun _ => rfl⟩
  | set f handle =>
      cases answer
      exact ⟨rfl, trivial⟩
  | GetCommState handle =>
      cases answer
      exact ⟨rfl, trivial⟩
  | SetCommState handle dcb =>
      cases answer
      exact ⟨rfl, trivial⟩
  | GetCommTimeouts handle =>
      cases answer
      exact ⟨rfl, trivial⟩
  | SetCommTimeouts handle timeouts =>
      cases answer
      exact ⟨rfl, trivial⟩
  | CancelIo handle =>
      cases answer
      exact ⟨rfl, trivial⟩
  | register =>
      cases answer
      exact ⟨rfl, trivial⟩
  | _ => cases answer

/-- `COM3`, opened as it is found. -/
def com3Opened : Handles :=
  ((execute com3 40 .initial («open» "COM3" {} ())).map fun ended => ended.2.2).getD .initial

theorem com3Opened_returns : ∃ h, Returns («open» "COM3" {} ()) h (.ok (), ()) ∧
    Answered steps .initial h com3Opened := by
  have executed : execute com3 40 .initial («open» "COM3" {} ()) =
    some (_, (.ok (), ()), com3Opened) := rfl
  exact ⟨_, execute_sound com3_lawful 40 executed⟩

/-- A read waits while the port is closed; the event that could not be closed is left to the
cleaner. -/
theorem handles_closed_once_left :
    ∃ σ, Lives "COM3" {} (fun _ : Unit => .read (.allocateDirect 8)) σ ∧
    Resources.Accounted (Resources.stamp σ.log) := by
  have fresh : Interleaved.Reached (sharing com3Opened fun _ : Unit => .read (.allocateDirect 8))
    (fun _ _ => True) _ :=
    .start
  have reset := (fresh.ask (i := some ()) rfl (4 : ℤ) ⟨rfl, rfl⟩ trivial).ask
    (i := some ()) rfl (.ok ()) rfl trivial
  have named := (reset.ask (i := some ()) rfl (3 : ℤ) ⟨rfl, rfl⟩ trivial).ask (i := some ()) rfl
    (4 : ℤ) ⟨rfl, rfl⟩ trivial
  have reads := named.ask (i := some ()) rfl (.error ERROR_IO_PENDING)
    ⟨fun shut => absurd (show true = false from shut) (by decide), rfl⟩ trivial
  have begun :=
    (reads.ask (i := some ()) rfl () rfl trivial).ask (i := some ()) rfl (4 : ℤ) ⟨rfl, rfl⟩ trivial
  have marked :=
    (begun.ask (i := none) rfl (3 : ℤ) ⟨rfl, rfl⟩ trivial).ask (i := none) rfl () rfl trivial
  have closed :=
    (marked.ask (i := none) rfl (.ok ()) rfl trivial).ask (i := none) rfl (.ok ()) rfl trivial
  have read :=
    (closed.ask (i := none) rfl () rfl trivial).ask (i := none) rfl (4 : ℤ) ⟨rfl, rfl⟩ trivial
  have cleared := (read.ask (i := none) rfl () rfl trivial).ask (i := none) rfl () rfl trivial
  have fails := (cleared.ask (i := none) rfl (.error 6) rfl trivial).ask (i := none) rfl
    (5 : ℤ) ⟨rfl, rfl⟩ trivial
  have written := (fails.ask (i := none) rfl () rfl trivial).ask (i := none) rfl () rfl trivial
  have done := (written.ask (i := none) rfl (.ok ()) rfl trivial).ask (i := none) rfl () rfl trivial
  have wakes := (done.ask (i := some ()) rfl (.ok WAIT_OBJECT_0) rfl trivial).ask
    (i := some ()) rfl INVALID_HANDLE_VALUE ⟨rfl, rfl⟩ trivial
  have ends := (wakes.ask (i := some ()) rfl INVALID_HANDLE_VALUE ⟨rfl, rfl⟩ trivial).ask
    (i := some ()) rfl (.error 6) rfl trivial
  have finished := (ends.ask (i := some ()) rfl INVALID_HANDLE_VALUE ⟨rfl, rfl⟩ trivial).ask
    (i := some ()) rfl none rfl trivial
  obtain ⟨h, constructed, answered⟩ := com3Opened_returns
  have lives := Lives.closed constructed answered finished (.inr ⟨_, rfl⟩)
    ((if_pos rfl).mpr ⟨_, _, execute_sound com3_lawful 20 rfl⟩)
  exact ⟨_, lives, handles_closed_once lives⟩

end Examples
end Spsw.Jnhw.OverlappedIO

import Spsw.Jnhw.ReadObserved

/-!
# What `read()` owes

The call returns the one byte it has taken, and without a disturbance it throws
only when it has none.
-/
namespace Spsw.Jnhw
open Interaction
open Interaction.Method (mwp mwp_mono)

section Single
variable {h : History posix} {f : Frame} {s : Socket} {α : Type}

theorem pollReadFailed_quiet (nee : Errno) (message : String) :
    Quiet (pollReadFailed nee message : Call α) Throwing :=
  .bind .complete (fun _ => .raise ⟨_, rfl⟩)

theorem readFailed_quiet (nee : Errno) (message : String) :
    Quiet (readFailed nee message : Call α) Throwing := by
  refine .bind fdIsInvalid_quiet (fun _ =>
    .ite (fun _ => ?_) (fun _ => .ite (fun _ => ?_) (fun _ => ?_)))
  · exact .bind .complete (fun _ => closedOrCancelled_quiet)
  · exact .bind .complete (fun _ => .raise ⟨_, rfl⟩)
  · exact .bind .complete (fun _ => .raise ⟨_, rfl⟩)

theorem readRefused_quiet (nee : Errno) : Quiet (readRefused nee : Call α) Throwing :=
  .ite (fun _ => .raise ⟨_, rfl⟩) (fun _ => .raise ⟨_, rfl⟩)

theorem checkReadable_quiet (port : BitVec 16) : Quiet (checkReadable port) (fun _ => True) := by
  refine .ite (fun _ => .pure trivial) (fun _ =>
    .ite (fun _ => ?_) (fun _ => .ite (fun _ => ?_) (fun _ => ?_)))
  · exact .bind .complete (fun _ => .raise trivial)
  · exact .bind .complete (fun _ => closedOrCancelled_quiet.weaken (fun _ _ => trivial))
  · exact .bind .complete (fun _ => .bind (.ask rfl) (fun _ => .raise trivial))

/-- Only a read answered with `EAGAIN` after some bytes counts as starved. -/
theorem observe_still (o : Observed) {ev : Event posix} (quiet : still ev.1 = true) :
    (observe o ev).starved = o.starved := by
  obtain ⟨e, r⟩ := ev
  cases e with
  | read room => cases quiet
  | write bytes => cases quiet
  | poll d timeout => rcases r with nee | port | _ <;> rfl
  | clockGettime => rcases r with nee | now <;> rfl
  | _ => rfl

theorem Idle.observed {h' : History posix} {f' : Frame} (idle : Idle h f h' f') :
    (observed h').bytes = (observed h).bytes ∧ (observed h').starved = (observed h).starved := by
  refine ⟨by rw [observed_bytes, observed_bytes, idle.received], ?_⟩
  obtain ⟨t, rfl, quiet⟩ := idle.events
  clear idle
  induction t using List.reverseRecOn with
  | nil => rw [List.append_nil]
  | append_singleton t ev ih =>
      rw [← List.append_assoc, observed_append (h ++ t) [ev], List.foldl_cons, List.foldl_nil,
        observe_still _ (quiet ev (by simp)), ih (fun ev member => quiet ev (by simp [member]))]

/-- What `read()` owes: the byte it has taken, as a value of 0..255; and
undisturbed it throws only without one. -/
structure ReadSingle (o : Observed) (x : Except JavaException ℤ) : Prop where
  fed : o.starved = false
  returned : ∀ n, x = .ok n → ∃ b : UInt8, o.bytes = [b] ∧ n = b.toNat
  thrown : ∀ e, x = .error e → o.undisturbed = true → o.bytes = []

theorem ReadSingle.none {o : Observed} {e : JavaException} (fed : o.starved = false)
    (none : o.bytes = []) : ReadSingle o (.error e) :=
  ⟨fed, by rintro n ⟨⟩, fun _ _ _ => none⟩

/-- What its blocking part owes before `end`. -/
structure TriedSingle (o : Observed) (f : Frame) (x : Except JavaException ℤ) : Prop
    extends ReadSingle o x where
  completed : ∀ n, x = .ok n → f.completed = true
  unread : ∀ e, x = .error e → o.bytes = []

theorem TriedSingle.none {o : Observed} {e : JavaException} (fed : o.starved = false)
    (none : o.bytes = []) : TriedSingle o f (.error e) :=
  ⟨.none fed none, by rintro n ⟨⟩, fun _ _ => none⟩

/-- A call of `read()` that has no byte yet and throws. -/
theorem throws_single {m : Call α} (quiet : Quiet m Throwing)
    {post : History posix → Frame → Except JavaException α → Prop}
    (fed : (observed h).starved = false) (none : (observed h).bytes = []) (stop : ∀ h' f' e,
    (observed h').starved = false → (observed h').bytes = [] → post h' f' (.error e)) :
    mwp (fun _ => True) h f m post := by
  apply mwp_mono (quiet _ always_transfers h f trivial)
  rintro h' f' x ⟨idle, e, rfl⟩
  exact stop h' f' e (idle.observed.2.trans fed) (idle.observed.1.trans none)

/-- The blocking part of `read()`. -/
theorem retryReadByte_single (fed : (observed h).starved = false) (none : (observed h).bytes = []) :
    mwp (fun _ => True) h f (retryReadByte s) (fun h' f' x => TriedSingle (observed h') f' x) := by
  have stop : ∀ (h' : History posix) (f' : Frame) (e : JavaException),
    (observed h').starved = false →
      (observed h').bytes = [] → TriedSingle (observed h') f' (.error e) :=
    fun _ _ _ => TriedSingle.none
  simp only [retryReadByte, poll, Method.mwp_bind]
  refine mwp_ask.mpr (fun polled => ⟨trivial, ?_⟩)
  have waited : Idle h f (h ++ [⟨.poll .read s.pollReadTimeout, polled⟩]) f :=
    ⟨⟨_, rfl, by simp [still]⟩, rfl⟩
  have fed := waited.observed.2.trans fed
  have none := waited.observed.1.trans none
  rcases polled with nee | _ | ⟨port, cancel⟩
  · exact throws_single (pollReadFailed_quiet nee _) fed none stop
  · simp only [Method.rest_ok, Method.mwp_bind, mwp_complete, Method.mwp_raise]
    exact .none fed none
  · simp only [Method.rest_ok]
    split
    · simp only [Method.mwp_bind, mwp_complete, Method.rest_ok]
      exact throws_single closedOrCancelled_quiet fed none stop
    · simp only [Method.mwp_bind]
      apply mwp_mono (checkReadable_quiet port _ always_transfers _ f trivial)
      rintro h' f' x ⟨idle, -⟩
      have fed := idle.observed.2.trans fed
      have none := idle.observed.1.trans none
      cases x with
      | error e => exact stop _ _ _ fed none
      | ok u =>
          simp only [Method.rest_ok, Method.mwp_bind, mwp_fetch, true_and]
          constructor
          · rintro ⟨bytes, room⟩
            simp only [Method.rest_ok, mwp_complete]
            rcases bytes with _ | ⟨b, bytes⟩
            · refine Method.mwp_raise.mpr (stop _ _ _ ?_ ?_)
              · simpa [observe] using fed
              · simpa [observe] using none
            · have single : bytes = [] := by
                simp only [List.length_cons] at room
                exact List.eq_nil_of_length_eq_zero (by omega)
              subst single
              refine Method.mwp_pure.mpr ⟨⟨?_, ?_, by rintro e ⟨⟩⟩, fun _ _ => rfl, by rintro e ⟨⟩⟩
              · simpa [observe] using fed
              · rintro n ⟨⟩
                exact ⟨b, by simp [observe, none], rfl⟩
          · intro nee
            refine throws_single (readFailed_quiet nee _) ?_ ?_ stop
            · simp [observe, fed, none]
            · simpa [observe] using none

theorem endBlocking_single {x : Except JavaException ℤ} (tried : TriedSingle (observed h) f x) :
    mwp (fun _ => True) h f endBlocking
      (Method.settle (fun h' _ x => ReadSingle (observed h') x) x) := by
  cases x with
  | ok n =>
      simp only [endBlocking, isInterrupted, Method.mwp_bind, Method.mwp_locals, Method.rest_ok]
      refine mwp_ask.mpr (fun r => ⟨trivial, ?_⟩)
      have later : Idle h f (h ++ [⟨.interrupted, r⟩]) f := ⟨⟨_, rfl, by simp [still]⟩, rfl⟩
      have fed := later.observed.2.trans tried.fed
      cases r with
      | true =>
          simp only [Method.rest_ok, if_true, Method.mwp_raise, Method.settle_error]
          exact ⟨fed, by rintro n ⟨⟩, by simp [observe]⟩
      | false =>
          simp only [Method.rest_ok, Bool.false_eq_true, if_false, tried.completed n rfl, if_true,
            Method.mwp_pure, Method.settle_ok]
          exact ⟨fed, by rw [later.observed.1]; exact tried.returned, by rintro e ⟨⟩⟩
  | error e =>
      apply mwp_mono (endBlocking_quiet _ always_transfers h f trivial)
      rintro h' f' y ⟨idle, -⟩
      have fed := idle.observed.2.trans tried.fed
      have none := idle.observed.1.trans (tried.unread e rfl)
      cases y with
      | ok u => exact ReadSingle.none fed none
      | error e' => exact ReadSingle.none fed none

theorem readByte_single :
    mwp (fun _ => True) [] f (readByte s) (fun h _ x => ReadSingle (observed h) x) := by
  have retry : ∀ {h : History posix}, (observed h).starved = false → (observed h).bytes = [] →
      mwp (fun _ => True) h f (blocking (retryReadByte s)) (fun h _ x =>
        ReadSingle (observed h) x) := by
    intro h fed none
    refine mwp_blocking trivial (mwp_mono (retryReadByte_single ?_ ?_) ?_)
    · simpa [observe] using fed
    · simpa [observe] using none
    · exact fun h f x tried => endBlocking_single tried
  simp only [readByte, Method.mwp_bind, mwp_fetch, true_and, List.nil_append]
  constructor
  · rintro ⟨bytes, room⟩
    simp only [Method.rest_ok]
    rcases bytes with _ | ⟨b, bytes⟩
    · exact retry rfl rfl
    · have single : bytes = [] := by
        simp only [List.length_cons] at room
        exact List.eq_nil_of_length_eq_zero (by omega)
      subst single
      refine Method.mwp_pure.mpr ⟨rfl, ?_, by rintro e ⟨⟩⟩
      rintro n ⟨⟩
      exact ⟨b, rfl, rfl⟩
  · intro nee
    simp only [Method.rest_ok, fdIsInvalid, Method.mwp_bind]
    refine mwp_ask.mpr (fun r => ⟨trivial, ?_⟩)
    simp only [Method.rest_ok]
    have fed : (observed ([⟨.read 1, .error nee⟩] ++ [⟨.fdIsInvalid, r⟩])).starved = false := by
      simp [observed, observe]
    have none : (observed ([⟨.read 1, .error nee⟩] ++ [⟨.fdIsInvalid, r⟩])).bytes = [] := rfl
    split
    · exact Method.mwp_raise.mpr (.none fed none)
    · split
      · exact retry fed none
      · exact throws_single (readRefused_quiet nee) fed none (fun _ _ _ => ReadSingle.none)

end Single
end Spsw.Jnhw

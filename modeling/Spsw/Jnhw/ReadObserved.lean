import Mathlib.Data.List.Induction
import Spsw.Jnhw.Read

/-!
# What a reading call observes

The outcome of a read depends on few facts of its history: the bytes, how far the
call has come, and whether it was cancelled, closed, interrupted or starved. They
are folded over the events, so that a new event changes them by `observe`.
-/
namespace Spsw.Jnhw
open Interaction

/-- What a reading call has met so far, as far as its outcome can depend on it. -/
structure Observed where
  /-- the bytes taken from the descriptor -/
  bytes : List UInt8
  /-- `begin` has been passed -/
  begun : Bool
  /-- the first byte, or the wait for it, is over -/
  waited : Bool
  /-- the clock could not be read for the overall timeout -/
  deadlineFailed : Bool
  /-- a poll after the first wait has reported the cancel event -/
  cancelled : Bool
  /-- the last look at `fd`, after some bytes, found it invalid -/
  closed : Bool
  /-- `end` has found the thread interrupted -/
  interrupted : Bool
  /-- a read after some bytes has been answered with `EAGAIN` -/
  starved : Bool
  /-- no close, cancel, hang-up or device error so far -/
  undisturbed : Bool
  deriving DecidableEq, Repr

/-- No close, cancel, hang-up or device error; a `poll` or a reading of the clock that fails is
an error of the device here, as is a `read` that fails otherwise than by `EAGAIN`. -/
@[simp] def undisturbed : Event posix → Bool
  | ⟨.read _, .error nee⟩ => decide (nee = .EAGAIN)
  | ⟨.poll _ _, .ok (.ready port cancel)⟩ => decide (port = POLLIN) && decide (cancel = 0)
  | ⟨.poll _ _, .error _⟩ => false
  | ⟨.clockGettime, .error _⟩ => false
  | ⟨.fdIsInvalid, r⟩ => !r
  | ⟨.interrupted, r⟩ => !r
  | ⟨.channelClosed, r⟩ => !r
  | _ => true

@[simp] def notice (o : Observed) : Event posix → Observed
  | ⟨.read _, .ok bytes⟩ =>
      { o with bytes := o.bytes ++ bytes.val, waited := o.waited || !bytes.val.isEmpty }
  | ⟨.read _, .error nee⟩ =>
      { o with starved := o.starved || (decide (nee = .EAGAIN) && !o.bytes.isEmpty) }
  | ⟨.poll _ _, .ok (.ready _ cancel)⟩ =>
      { o with cancelled := o.cancelled || (o.waited && decide (cancel = POLLIN)), waited := true }
  | ⟨.clockGettime, .error _⟩ => { o with deadlineFailed := o.deadlineFailed || !o.begun }
  | ⟨.fdIsInvalid, r⟩ => { o with closed := r && !o.bytes.isEmpty }
  | ⟨.begin, _⟩ => { o with begun := true }
  | ⟨.interrupted, r⟩ => { o with interrupted := r }
  | _ => o

def observe (o : Observed) (ev : Event posix) : Observed :=
  { notice o ev with undisturbed := o.undisturbed && undisturbed ev }

def observed (h : History posix) : Observed :=
  h.foldl observe ⟨[], false, false, false, false, false, false, false, true⟩

@[simp] theorem observed_append (h t : History posix) :
    observed (h ++ t) = t.foldl observe (observed h) :=
  List.foldl_append

theorem observed_snoc (h : History posix) (ev : Event posix) :
    observed (h ++ [ev]) = observe (observed h) ev :=
  observed_append h [ev]

theorem observe_bytes (o : Observed) (ev : Event posix) :
    (observe o ev).bytes = o.bytes ++ obtained ev := by
  rcases ev with ⟨e, r⟩
  cases e with
  | read room =>
      cases r with
      | ok bytes => rfl
      | error nee => exact (List.append_nil _).symm
  | poll d timeout =>
      rcases r with nee | port | _
      · exact (List.append_nil _).symm
      · exact (List.append_nil _).symm
      · exact (List.append_nil _).symm
  | write bytes => exact (List.append_nil _).symm
  | clockGettime =>
      cases r with
      | ok now => exact (List.append_nil _).symm
      | error nee => exact (List.append_nil _).symm
  | fdIsInvalid => exact (List.append_nil _).symm
  | isFdValid => exact (List.append_nil _).symm
  | pollFdsToString d => exact (List.append_nil _).symm
  | begin => exact (List.append_nil _).symm
  | interrupted => exact (List.append_nil _).symm
  | channelClosed => exact (List.append_nil _).symm

/-- The bytes observed are the bytes the descriptor has handed out. -/
theorem observed_bytes (h : History posix) : (observed h).bytes = received h := by
  induction h using List.reverseRecOn with
  | nil => rfl
  | append_singleton h ev ih => simp [observe_bytes, ih]

theorem observe_starved {o : Observed} {ev : Event posix}
    (starved : (observe o ev).starved = true) :
    o.starved = true ∨ o.bytes ≠ [] := by
  obtain ⟨e, r⟩ := ev
  cases e with
  | read room =>
      rcases r with nee | bytes
      · simp only [observe, notice, Bool.or_eq_true, Bool.and_eq_true, Bool.not_eq_true',
          List.isEmpty_eq_false_iff] at starved
        exact starved.imp_right And.right
      · exact .inl starved
  | poll d timeout => rcases r with nee | port | _ <;> exact .inl starved
  | clockGettime => rcases r with nee | now <;> exact .inl starved
  | _ => exact .inl starved

/-- Only a call that has taken some bytes can be starved. -/
theorem starved_bytes {h : History posix} (starved : (observed h).starved = true) :
    (observed h).bytes ≠ [] := by
  induction h using List.reverseRecOn with
  | nil => cases starved
  | append_singleton h ev ih =>
      rw [observed_append, List.foldl_cons, List.foldl_nil] at starved ⊢
      have some : (observed h).bytes ≠ [] := (observe_starved starved).elim ih id
      rw [observe_bytes]
      exact fun none => some (List.append_eq_nil_iff.mp none).1

end Spsw.Jnhw

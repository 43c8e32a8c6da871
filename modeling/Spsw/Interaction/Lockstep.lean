import Mathlib.Data.List.Forall2
import Spsw.Interaction.Stateful

/-!
# Two systems in lockstep

A system answers calls on its state; some of its exceptions mean that a call is
refused. Systems that refine one specification, each through its own
representation, give the same answers to the same calls for as long as they run.
-/
namespace Stateful
variable {ε σ τ α Call : Type}

/-- Both systems accept or refuse each of the calls together, a refused call changes
neither of them, and at every point they agree. -/
def Lockstep (refusal : ε → Prop) (agree : σ → τ → Prop) (f : Call → EStateM ε σ Unit)
    (g : Call → EStateM ε τ Unit) : List Call → σ → τ → Prop
  | [], s, t => agree s t
  | call :: calls, s, t => agree s t ∧
      ((∃ s' t', f call s = .ok () s' ∧ g call t = .ok () t' ∧
          Lockstep refusal agree f g calls s' t') ∨
        ∃ e e', refusal e ∧ refusal e' ∧ f call s = .error e s ∧ g call t = .error e' t ∧
          Lockstep refusal agree f g calls s t)

/-- What `apply` makes of a call, `none` for a refusal, the system does to the state that
represents it. -/
structure Refines (refusal : ε → Prop) (allowed : Call → Prop) (represents : σ → α → Prop)
    (f : Call → EStateM ε σ Unit) (apply : Call → α → Option α) : Prop where
  accepts : ∀ call a a' s, allowed call → represents s a → apply call a = some a' →
    ∃ s', f call s = .ok () s' ∧ represents s' a'
  refuses : ∀ call a s, allowed call → represents s a → apply call a = none →
    ∃ e, refusal e ∧ f call s = .error e s

/-- The system makes of each of the calls what `apply` does, and throws a refusal, unchanged,
where that is `none`. -/
def Follows (refusal : ε → Prop) (represents : σ → α → Prop) (f : Call → EStateM ε σ Unit)
    (apply : Call → α → Option α) : List Call → σ → α → Prop
  | [], s, a => represents s a
  | call :: calls, s, a => represents s a ∧
      ((∃ s' a', apply call a = some a' ∧ f call s = .ok () s' ∧
        Follows refusal represents f apply calls s' a') ∨
        apply call a = none ∧ ∃ e, refusal e ∧ f call s = .error e s ∧
          Follows refusal represents f apply calls s a)

theorem Refines.follows {refusal : ε → Prop} {represents : σ → α → Prop}
    {f : Call → EStateM ε σ Unit} {apply : Call → α → Option α}
    (refines : Refines refusal (fun _ => True) represents f apply) (calls : List Call) {s : σ}
    {a : α} (start : represents s a) : Follows refusal represents f apply calls s a := by
  induction calls generalizing s a with
  | nil => exact start
  | cons call calls ih =>
      refine ⟨start, ?_⟩
      cases applied : apply call a with
      | some a' =>
          obtain ⟨s', returned, represents'⟩ := refines.accepts call a a' s trivial start applied
          exact .inl ⟨s', a', rfl, returned, ih represents'⟩
      | none =>
          obtain ⟨e, refused, thrown⟩ := refines.refuses call a s trivial start applied
          exact .inr ⟨rfl, e, refused, thrown, ih start⟩

theorem Refines.lockstep {refusal : ε → Prop} {allowed : Call → Prop} {agree : σ → τ → Prop}
    {represents : σ → α → Prop} {represents' : τ → α → Prop} {f : Call → EStateM ε σ Unit}
    {g : Call → EStateM ε τ Unit} {apply : Call → α → Option α}
    (first : Refines refusal allowed represents f apply)
    (second : Refines refusal allowed represents' g apply)
    (agrees : ∀ a s t, represents s a → represents' t a → agree s t) (calls : List Call)
    (every : ∀ call ∈ calls, allowed call) {a : α} {s : σ} {t : τ} (left : represents s a)
    (right : represents' t a) : Lockstep refusal agree f g calls s t := by
  induction calls generalizing a s t with
  | nil => exact agrees a s t left right
  | cons call calls ih =>
      have now := every call List.mem_cons_self
      have later := fun call member => every call (List.mem_cons_of_mem _ member)
      refine ⟨agrees a s t left right, ?_⟩
      cases applied : apply call a with
      | some a' =>
          obtain ⟨s', returned, left'⟩ := first.accepts call a a' s now left applied
          obtain ⟨t', returned', right'⟩ := second.accepts call a a' t now right applied
          exact .inl ⟨s', t', returned, returned', ih later left' right'⟩
      | none =>
          obtain ⟨e, refused, thrown⟩ := first.refuses call a s now left applied
          obtain ⟨e', refused', thrown'⟩ := second.refuses call a t now right applied
          exact .inr ⟨e, e', refused, refused', thrown, thrown', ih later left right⟩

/-- What is answered to the calls, each made whatever became of those before it, and the state
they leave. -/
def answers (f : Call → EStateM ε σ Unit) : List Call → σ → List (Except ε Unit) × σ
  | [], s => ([], s)
  | call :: calls, s =>
      match f call s with
      | .ok () s' => (.ok () :: (answers f calls s').1, (answers f calls s').2)
      | .error e s' => (.error e :: (answers f calls s').1, (answers f calls s').2)

/-- Two outcomes of one state: both returned, or what was thrown is in relation. -/
inductive SameOutcome (like : ε → ε → Prop) : EStateM.Result ε σ α → EStateM.Result ε σ α → Prop
  | ok (a : α) (s : σ) : SameOutcome like (.ok a s) (.ok a s)
  | error {e e' : ε} (thrown : like e e') (s : σ) : SameOutcome like (.error e s) (.error e' s)

/-- Two answers to a call. -/
inductive SameAnswer (like : ε → ε → Prop) : Except ε Unit → Except ε Unit → Prop
  | ok : SameAnswer like (.ok ()) (.ok ())
  | error {e e' : ε} (thrown : like e e') : SameAnswer like (.error e) (.error e')

/-- The state that an outcome leaves. -/
def outcomeState : EStateM.Result ε σ α → σ
  | .ok _ s => s
  | .error _ s => s

/-- What cannot be told apart by one call from a state that is kept, cannot be told apart at all. -/
theorem answers_alike {like : ε → ε → Prop} {kept : σ → Prop} {f g : Call → EStateM ε σ Unit}
    (step : ∀ call s, kept s → SameOutcome like (f call s) (g call s) ∧
    kept (outcomeState (g call s))) (calls : List Call) (s : σ) (start : kept s) :
    List.Forall₂ (SameAnswer like) (answers f calls s).1 (answers g calls s).1 ∧
      (answers f calls s).2 = (answers g calls s).2 ∧ kept (answers g calls s).2 := by
  induction calls generalizing s with
  | nil => exact ⟨.nil, rfl, start⟩
  | cons call calls ih =>
      obtain ⟨same, next⟩ := step call s start
      unfold answers
      cases left : f call s with
      | ok a s' =>
          cases right : g call s with
          | ok b t' =>
              rw [left, right] at same
              rw [right] at next
              cases same
              obtain ⟨all, states, keeps⟩ := ih s' next
              exact ⟨.cons .ok all, states, keeps⟩
          | error e t' =>
              rw [left, right] at same
              cases same
      | error e s' =>
          cases right : g call s with
          | ok b t' =>
              rw [left, right] at same
              cases same
          | error e' t' =>
              rw [left, right] at same
              rw [right] at next
              cases same with
              | error thrown =>
                  obtain ⟨all, states, keeps⟩ := ih s' next
                  exact ⟨.cons (.error thrown) all, states, keeps⟩

end Stateful

/-!
# Computations on a state that may throw

Rules for `EStateM` computations whose state survives a throw: how a sequence
returns or throws, and which computations leave the state alone.
-/
namespace Stateful
variable {ε σ α β : Type} {m : EStateM ε σ α} {f : α → EStateM ε σ β} {s s' : σ}

/-- The computation only reads the state. -/
def Keeps (m : EStateM ε σ α) : Prop :=
  ∀ s, (∃ a, m s = .ok a s) ∨ ∃ e, m s = .error e s

/-- The computation throws nothing but what `P` says. -/
def Throws (P : ε → Prop) (m : EStateM ε σ α) : Prop :=
  ∀ s e s', m s = .error e s' → P e

/-- The state before and the state after are in relation, however the computation ends. -/
structure Stays (R : σ → σ → Prop) (m : EStateM ε σ α) : Prop where
  returned : ∀ {s a s'}, m s = .ok a s' → R s s'
  thrown : ∀ {s e s'}, m s = .error e s' → R s s'

/-- What the computation returns, if it does. -/
def reading (m : EStateM ε σ α) (s : σ) : Option α :=
  match m s with
  | .ok a _ => some a
  | .error _ _ => none

theorem bind_of_ok {a : α} (first : m s = .ok a s') : (m >>= f) s = f a s' := by
  change EStateM.bind m f s = _
  rw [EStateM.bind, first]

theorem bind_of_error {e : ε} (first : m s = .error e s') : (m >>= f) s = .error e s' := by
  change EStateM.bind m f s = _
  rw [EStateM.bind, first]

theorem get_bind {f : σ → EStateM ε σ β} : ((get : EStateM ε σ σ) >>= f) s = f s s := rfl

theorem tryCatch_of_ok {a : α} {h : ε → EStateM ε σ α} (returned : m s = .ok a s') :
    tryCatch m h s = .ok a s' := by
  change EStateM.tryCatch m h s = _
  delta EStateM.tryCatch
  rw [returned]

/-- What was done before the throw is not undone. -/
theorem tryCatch_of_error {e : ε} {h : ε → EStateM ε σ α} (thrown : m s = .error e s') :
    tryCatch m h s = h e s' := by
  change EStateM.tryCatch m h s = _
  delta EStateM.tryCatch
  rw [thrown]
  rfl

theorem bind_ok {b : β} (returned : (m >>= f) s = .ok b s') :
    ∃ a s₁, m s = .ok a s₁ ∧ f a s₁ = .ok b s' := by
  cases first : m s with
  | ok a s₁ => exact ⟨a, s₁, rfl, (bind_of_ok first).symm.trans returned⟩
  | error e s₁ =>
      rw [bind_of_error first] at returned
      cases returned

theorem Keeps.of_ok {a : α} (keeps : Keeps m) (returned : m s = .ok a s') : s' = s := by
  rcases keeps s with ⟨b, ok⟩ | ⟨e, error⟩
  · rw [returned] at ok
    cases ok
    rfl
  · rw [returned] at error
    cases error

theorem keeps_pure (a : α) : Keeps (pure a : EStateM ε σ α) := fun _ => .inl ⟨a, rfl⟩

theorem keeps_throw (e : ε) : Keeps (throw e : EStateM ε σ α) := fun _ => .inr ⟨e, rfl⟩

theorem keeps_get : Keeps (get : EStateM ε σ σ) := fun s => .inl ⟨s, rfl⟩

theorem keeps_bind (first : Keeps m) (rest : ∀ a, Keeps (f a)) : Keeps (m >>= f) := by
  intro s
  rcases first s with ⟨a, ok⟩ | ⟨e, error⟩
  · rw [bind_of_ok ok]
    exact rest a s
  · exact .inr ⟨e, bind_of_error error⟩

section Throws
variable {P : ε → Prop}

theorem throws_pure (a : α) : Throws P (pure a : EStateM ε σ α) := by
  rintro s e s' ⟨⟩

theorem throws_throw {e : ε} (holds : P e) : Throws P (throw e : EStateM ε σ α) := by
  rintro s e' s' ⟨⟩
  exact holds

theorem throws_get : Throws P (get : EStateM ε σ σ) := by
  rintro s e s' ⟨⟩

theorem throws_bind (first : Throws P m) (rest : ∀ a, Throws P (f a)) : Throws P (m >>= f) := by
  intro s e s' thrown
  cases result : m s with
  | ok a s₁ => exact rest a s₁ e s' ((bind_of_ok result).symm.trans thrown)
  | error e' s₁ =>
      rw [bind_of_error result] at thrown
      cases thrown
      exact first s e s' result

end Throws

section Stays
variable {R : σ → σ → Prop}

theorem stays_of_keeps (reflexive : ∀ s, R s s) (keeps : Keeps m) : Stays R m := by
  constructor
  · intro s a s' returned
    rw [keeps.of_ok returned]
    exact reflexive s
  · intro s e s' thrown
    rcases keeps s with ⟨a, ok⟩ | ⟨e', error⟩
    · cases thrown.symm.trans ok
    · cases thrown.symm.trans error
      exact reflexive s

theorem stays_bind (transitive : ∀ {s s' s''}, R s s' → R s' s'' → R s s'') (first : Stays R m)
    (rest : ∀ a, Stays R (f a)) : Stays R (m >>= f) := by
  constructor
  · intro s b s' returned
    obtain ⟨a, s₁, ok, after⟩ := bind_ok returned
    exact transitive (first.returned ok) ((rest a).returned after)
  · intro s e s' thrown
    cases result : m s with
    | ok a s₁ =>
        rw [bind_of_ok result] at thrown
        exact transitive (first.returned result) ((rest a).thrown thrown)
    | error e' s₁ =>
        cases (bind_of_error result).symm.trans thrown
        exact first.thrown result

end Stays

/-- From every state of `P` the computation returns, and leaves what `Q` says. -/
def Ends (P : σ → Prop) (m : EStateM ε σ α) (Q : α → σ → Prop) : Prop :=
  ∀ s, P s → ∃ a s', m s = .ok a s' ∧ Q a s'

section Ends
variable {P : σ → Prop} {Q : α → σ → Prop}

theorem ends_pure {a : α} (here : ∀ s, P s → Q a s) : Ends P (pure a : EStateM ε σ α) Q :=
  fun s start => ⟨a, s, rfl, here s start⟩

theorem ends_get {Q : σ → σ → Prop} (here : ∀ s, P s → Q s s) : Ends P (get : EStateM ε σ σ) Q :=
  fun s start => ⟨s, s, rfl, here s start⟩

theorem ends_modify {g : σ → σ} {Q : Unit → σ → Prop} (here : ∀ s, P s → Q () (g s)) :
    Ends P (modify g : EStateM ε σ Unit) Q :=
  fun s start => ⟨(), g s, rfl, here s start⟩

theorem ends_bind {R : β → σ → Prop} (first : Ends P m Q) (rest : ∀ a, Ends (Q a) (f a) R) :
    Ends P (m >>= f) R := by
  intro s start
  obtain ⟨a, s₁, ok, between⟩ := first s start
  obtain ⟨b, s₂, ok', after⟩ := rest a s₁ between
  exact ⟨b, s₂, (bind_of_ok ok).trans ok', after⟩

theorem ends_ite {c : Prop} [Decidable c] {m' : EStateM ε σ α} (yes : c → Ends P m Q)
    (no : ¬c → Ends P m' Q) :
    Ends P (if c then m else m') Q := by
  split
  · next holds => exact yes holds
  · next fails => exact no fails

theorem Ends.weaken {Q' : α → σ → Prop} (ends : Ends P m Q) (weaker : ∀ a s, Q a s → Q' a s) :
    Ends P m Q' := by
  intro s start
  obtain ⟨a, s', ok, after⟩ := ends s start
  exact ⟨a, s', ok, weaker a s' after⟩

end Ends

end Stateful

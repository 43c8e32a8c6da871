import Mathlib.Data.List.Basic

/-!
# Programs that ask their environment

A program is a tree of requests to an environment that answers each of them
with any value of the request's answer type. Loops are a constructor, so that a
loop needs no fuel and an unbounded run is simply one that has not returned.
Runs are small-step, hence a program may be stopped between any two answers and
interleaved with others.
-/
namespace Interaction

/-- The requests a program can make, each with the type of its answers. -/
structure Signature where
  Request : Type
  Answer : Request → Type

/-- One request together with the answer the environment gave to it. -/
abbrev Event (S : Signature) := (e : S.Request) × S.Answer e

abbrev History (S : Signature) := List (Event S)

inductive Program (S : Signature) : Type → Type 1
  | pure {α : Type} (a : α) : Program S α
  | ask {α : Type} (e : S.Request) (k : S.Answer e → Program S α) : Program S α
  | loop {α β σ : Type} (body : σ → Program S (σ ⊕ β)) (s : σ) (k : β → Program S α) : Program S α

namespace Program
variable {S : Signature} {α β γ : Type}

def bind : Program S α → (α → Program S β) → Program S β
  | .pure a, f => f a
  | .ask e k, f => .ask e (fun r => bind (k r) f)
  | .loop body s k, f => .loop body s (fun b => bind (k b) f)

/-- A single request whose answer is the program's result. -/
def request (e : S.Request) : Program S (S.Answer e) := .ask e .pure

/-- Repeats `body` from `s` until it returns on the right. -/
def iterate {σ : Type} (body : σ → Program S (σ ⊕ β)) (s : σ) : Program S β := .loop body s .pure

instance : Monad (Program S) where
  pure := Program.pure
  bind := Program.bind

/-- One more round of a loop: run the body, then go on or leave. -/
def unroll {σ : Type} (body : σ → Program S (σ ⊕ β)) (s : σ) (k : β → Program S α) : Program S α :=
  bind (body s) (Sum.elim (fun s' => .loop body s' k) k)

theorem bind_assoc (p : Program S α) (f : α → Program S β) (g : β → Program S γ) :
    bind (bind p f) g = bind p (fun a => bind (f a) g) := by
  induction p with
  | pure a => rfl
  | ask e k ih => simp only [bind, ih]
  | loop body s k _ ih => simp only [bind, ih]

theorem unroll_bind {σ : Type} (body : σ → Program S (σ ⊕ β)) (s : σ) (k : β → Program S α)
    (f : α → Program S γ) : bind (unroll body s k) f = unroll body s (fun b => bind (k b) f) := by
  simp only [unroll, bind_assoc]
  congr 1
  funext x
  cases x with
  | inl s' => rfl
  | inr b => rfl

/-- A step answers the pending request or silently unrolls a loop once. -/
inductive Step : Program S α → Option (Event S) → Program S α → Prop
  | ask (e : S.Request) (k : S.Answer e → Program S α) (r : S.Answer e) :
      Step (.ask e k) (some ⟨e, r⟩) (k r)
  | loop {β σ : Type} (body : σ → Program S (σ ⊕ β)) (s : σ) (k : β → Program S α) :
      Step (.loop body s k) none (unroll body s k)

/-- `Run p h q`: after the events `h`, in this order, `p` has become `q`. -/
inductive Run : Program S α → History S → Program S α → Prop
  | refl (p : Program S α) : Run p [] p
  | silent {p q r : Program S α} {h} : Step p none q → Run q h r → Run p h r
  | event {p q r : Program S α} {ev h} : Step p (some ev) q → Run q h r → Run p (ev :: h) r

/-- `p` returns `a` after the events `h`. -/
def Returns (p : Program S α) (h : History S) (a : α) : Prop := Run p h (.pure a)

theorem Run.trans {p q r : Program S α} {h h' : History S} (first : Run p h q)
    (rest : Run q h' r) : Run p (h ++ h') r := by
  induction first with
  | refl p => exact rest
  | silent step _ ih => exact .silent step (ih rest)
  | event step _ ih => exact .event step (ih rest)

theorem run_pure {a : α} {h : History S} {q : Program S α} (run : Run (.pure a) h q) :
    h = [] ∧ q = .pure a := by
  cases run with
  | refl => exact ⟨rfl, rfl⟩
  | silent step _ => cases step
  | event step _ => cases step

theorem run_ask {e : S.Request} {k : S.Answer e → Program S α} {h : History S}
    {q : Program S α} (run : Run (.ask e k) h q) :
    h = [] ∧ q = .ask e k ∨ ∃ r h', h = ⟨e, r⟩ :: h' ∧ Run (k r) h' q := by
  cases run with
  | refl => exact .inl ⟨rfl, rfl⟩
  | silent step _ => cases step
  | event step rest =>
      cases step with
      | ask _ _ r => exact .inr ⟨r, _, rfl, rest⟩

/-- A step of a sequence is a step of its first part until that has returned. -/
theorem step_bind {p : Program S α} {f : α → Program S β} {l : Option (Event S)}
    {q : Program S β} (step : Step (bind p f) l q) :
    (∃ a, p = .pure a ∧ Step (f a) l q) ∨ ∃ p', Step p l p' ∧ q = bind p' f := by
  cases p with
  | pure a => exact .inl ⟨a, rfl, step⟩
  | ask e k =>
      right
      cases step with
      | ask _ _ r => exact ⟨k r, .ask e k r, rfl⟩
  | loop body s k =>
      right
      cases step with
      | loop => exact ⟨unroll body s k, .loop body s k, (unroll_bind body s k f).symm⟩

theorem run_bind {p : Program S α} {f : α → Program S β} {h : History S} {q : Program S β}
    (run : Run (bind p f) h q) :
    (∃ p', Run p h p' ∧ q = bind p' f) ∨
      ∃ h₁ a h₂, h = h₁ ++ h₂ ∧ Returns p h₁ a ∧ Run (f a) h₂ q := by
  generalize same : bind p f = whole at run
  induction run generalizing p with
  | refl => exact .inl ⟨p, .refl p, same.symm⟩
  | silent step rest ih =>
      rw [← same] at step
      rcases step_bind step with ⟨a, rfl, step'⟩ | ⟨p', step', rfl⟩
      · exact .inr ⟨[], a, _, rfl, .refl _, .silent step' rest⟩
      · rcases ih rfl with ⟨p'', run', eq⟩ | ⟨h₁, a, h₂, eq, done, after⟩
        · exact .inl ⟨p'', .silent step' run', eq⟩
        · exact .inr ⟨h₁, a, h₂, eq, .silent step' done, after⟩
  | event step rest ih =>
      rw [← same] at step
      rcases step_bind step with ⟨a, rfl, step'⟩ | ⟨p', step', rfl⟩
      · exact .inr ⟨[], a, _, rfl, .refl _, .event step' rest⟩
      · rcases ih rfl with ⟨p'', run', eq⟩ | ⟨h₁, a, h₂, eq, done, after⟩
        · exact .inl ⟨p'', .event step' run', eq⟩
        · exact .inr ⟨_ :: h₁, a, h₂, by rw [eq, List.cons_append], .event step' done, after⟩

theorem Run.bind {p q : Program S α} {h : History S} (run : Run p h q) (f : α → Program S β) :
    Run (Program.bind p f) h (Program.bind q f) := by
  induction run with
  | refl p => exact .refl _
  | silent step _ ih =>
      cases step with
      | loop body s k =>
          rw [unroll_bind] at ih
          exact .silent (.loop body s _) ih
  | event step _ ih =>
      cases step with
      | ask e k r => exact .event (.ask e _ r) ih

section Replay
variable [DecidableEq S.Request]

/-- Replays a recorded history within `fuel` steps. The result is `none` when a
request differs from the recorded one, when the history has the wrong length, or
when the fuel is used up; it is never an invented value. -/
def replay : ℕ → Program S α → History S → Option α
  | 0, _, _ => none
  | _ + 1, .pure a, [] => some a
  | _ + 1, .pure _, _ :: _ => none
  | _ + 1, .ask _ _, [] => none
  | fuel + 1, .ask e k, ⟨e', r⟩ :: h =>
      if same : e' = e then replay fuel (k (same ▸ r)) h else none
  | fuel + 1, .loop body s k, h => replay fuel (unroll body s k) h

theorem replay_sound (fuel : ℕ) {p : Program S α} {h : History S} {a : α}
    (played : replay fuel p h = some a) : Returns p h a := by
  induction fuel generalizing p h with
  | zero => cases played
  | succ fuel ih =>
      cases p with
      | pure b =>
          cases h with
          | nil => cases played; exact .refl _
          | cons => cases played
      | ask e k =>
          cases h with
          | nil => cases played
          | cons ev h =>
              obtain ⟨e', r⟩ := ev
              simp only [replay] at played
              split at played
              · next same =>
                  subst same
                  exact .event (.ask e' k r) (ih played)
              · cases played
      | loop body s k => exact .silent (.loop body s k) (ih played)

end Replay
end Program
end Interaction

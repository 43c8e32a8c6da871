import Spsw.Interaction.Answered

/-!
# Programs in a larger signature

Where each request of one signature is also one of another, a program over the first is a
program over the second. What is proved of it with its own requests holds there too, with the
answers of the larger environment read as answers to the smaller one.
-/
namespace Interaction
open Program

/-- How the requests of `S` are made in `T`, and what their answers mean. -/
structure Embedding (S T : Signature) where
  request : S.Request → T.Request
  answer : (e : S.Request) → T.Answer (request e) → S.Answer e

variable {S T : Signature} {σ α β : Type}

def Program.embed (m : Embedding S T) {α : Type} : Program S α → Program T α
  | .pure a => .pure a
  | .ask e k => .ask (m.request e) fun r => (k (m.answer e r)).embed m
  | .loop body s k => .loop (fun s => (body s).embed m) s fun b => (k b).embed m

/-- The events of an embedded program, and those that it stands for. -/
inductive Mirrors (m : Embedding S T) : History T → History S → Prop
  | nil : Mirrors m [] []
  | cons {e : S.Request} (r : T.Answer (m.request e)) {h : History T} {h' : History S}
      (rest : Mirrors m h h') :
      Mirrors m (⟨m.request e, r⟩ :: h) (⟨e, m.answer e r⟩ :: h')

/-- The answers of the larger environment, as the smaller signature has them. -/
def Embedding.pullback (m : Embedding S T) (answers : σ → Event T → σ → Prop) (w : σ)
    (ev : Event S) (w' : σ) : Prop :=
  ∃ r, ev.2 = m.answer ev.1 r ∧ answers w ⟨m.request ev.1, r⟩ w'

section Runs
variable {m : Embedding S T}

theorem embed_bind (p : Program S α) (f : α → Program S β) :
    (Program.bind p f).embed m = Program.bind (p.embed m) fun a => (f a).embed m := by
  induction p with
  | pure a => rfl
  | ask e k ih => simp only [Program.bind, Program.embed, ih]
  | loop body s k _ ih => simp only [Program.bind, Program.embed, ih]

theorem embed_unroll {τ : Type} (body : τ → Program S (τ ⊕ β)) (s : τ) (k : β → Program S α) :
    (unroll body s k).embed m = unroll (fun s => (body s).embed m) s fun b => (k b).embed m := by
  rw [unroll, unroll, embed_bind]
  congr 1
  funext x
  cases x <;> rfl

theorem embed_eq_pure {p : Program S α} {a : α} (same : p.embed m = .pure a) : p = .pure a := by
  cases p with
  | pure b =>
      cases same
      rfl
  | ask e k => cases same
  | loop body s k => cases same

/-- An embedded program takes the steps that it stands for. -/
theorem run_embed {p : Program S α} {h : History T} {q : Program T α} (run : Run (p.embed m) h q) :
    ∃ h' q', Run p h' q' ∧ q = q'.embed m ∧ Mirrors m h h' := by
  generalize same : p.embed m = whole at run
  induction run generalizing p with
  | refl => exact ⟨[], p, .refl p, same.symm, .nil⟩
  | silent step _ ih =>
      cases p with
      | pure a =>
          subst same
          cases step
      | ask e k =>
          subst same
          cases step
      | loop body s k =>
          subst same
          cases step
          obtain ⟨h', q', rest, eq, mirrors⟩ := ih (embed_unroll body s k)
          exact ⟨h', q', .silent (.loop body s k) rest, eq, mirrors⟩
  | event step _ ih =>
      cases p with
      | pure a =>
          subst same
          cases step
      | loop body s k =>
          subst same
          cases step
      | ask e k =>
          subst same
          cases step with
          | ask _ _ r =>
              obtain ⟨h', q', rest, eq, mirrors⟩ := ih rfl
              exact ⟨_, q', .event (.ask e k (m.answer e r)) rest, eq, .cons r mirrors⟩

theorem Mirrors.answered {answers : σ → Event T → σ → Prop} {h : History T} {h' : History S}
    (mirrors : Mirrors m h h') {w w' : σ} (answered : Answered answers w h w') :
    Answered (m.pullback answers) w h' w' := by
  induction mirrors generalizing w with
  | nil =>
      cases answered
      exact .nil _
  | cons r _ ih =>
      cases answered with
      | cons answer rest => exact .cons ⟨r, rfl, answer⟩ (ih rest)

theorem Mirrors.ne_nil {h : History T} {h' : History S} (mirrors : Mirrors m h h')
    (longer : h ≠ []) : h' ≠ [] := by
  cases mirrors with
  | nil => exact absurd rfl longer
  | cons r rest => exact List.cons_ne_nil _ _

/-- What a program does to the state, it does as part of a larger one. -/
theorem awp_embed {answers : σ → Event T → σ → Prop} {Inv : σ → Prop} {w : σ}
    {p : Program S α} {post : σ → α → Prop} (alone : awp (m.pullback answers) Inv w p post) :
    awp answers Inv w (p.embed m) post := by
  intro t q run
  obtain ⟨t', q', own, rfl, mirrors⟩ := run_embed run
  constructor
  · intro longer w' answered
    exact (alone t' q' own).1 (mirrors.ne_nil longer) w' (mirrors.answered answered)
  · intro a done w' answered
    exact (alone t' q' own).2 a (embed_eq_pure done) w' (mirrors.answered answered)

end Runs

namespace Method
variable {τ ε : Type}

def embed (m : Embedding S T) (method : Method S τ ε α) : Method T τ ε α :=
  fun s => (method s).embed m

theorem amwp_embed {m : Embedding S T} {answers : σ → Event T → σ → Prop}
    {Inv : σ → Prop} {w : σ} {s : τ} {method : Method S τ ε α} {post : σ → τ → Except ε α → Prop}
    (alone : amwp (m.pullback answers) Inv w s method post) :
    amwp answers Inv w s (method.embed m) post :=
  awp_embed alone

end Method
end Interaction

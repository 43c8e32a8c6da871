import Spsw.Interaction.Method

/-!
# Programs that end

`Ends ok post h p` says of a program `p` that has already seen the history `h`: as long
as the environment gives answers that are `ok`, the program ends, and then `post` holds of
history and result. There is one rule for each constructor of a program, so an endless
loop has no derivation; a loop needs a measure that every further round lowers.
-/
namespace Interaction
open Program

variable {S : Signature} {α β σ : Type}

inductive Ends (ok : Event S → Prop) (post : History S → α → Prop) : History S → Program S α → Prop
  | pure {h : History S} {a : α} (done : post h a) : Ends ok post h (.pure a)
  | ask {h : History S} {e : S.Request} {k : S.Answer e → Program S α}
      (next : ∀ r, ok ⟨e, r⟩ → Ends ok post (h ++ [⟨e, r⟩]) (k r)) : Ends ok post h (.ask e k)
  | loop {h : History S} {β σ : Type} {body : σ → Program S (σ ⊕ β)} {s : σ} {k : β → Program S α}
      (round : Ends ok post h (unroll body s k)) : Ends ok post h (.loop body s k)

section Rules
variable {ok : Event S → Prop} {h : History S}

theorem ends_mono {p : Program S α} {post post' : History S → α → Prop} (ends : Ends ok post h p)
    (weaker : ∀ h a, post h a → post' h a) : Ends ok post' h p := by
  induction ends with
  | pure done => exact .pure (weaker _ _ done)
  | ask _ ih => exact .ask ih
  | loop _ ih => exact .loop ih

/-- What two derivations promise holds together. -/
theorem ends_and {p : Program S α} {post post' : History S → α → Prop} (ends : Ends ok post h p)
    (ends' : Ends ok post' h p) : Ends ok (fun h a => post h a ∧ post' h a) h p := by
  induction ends with
  | pure done =>
      cases ends' with
      | pure done' => exact .pure ⟨done, done'⟩
  | ask _ ih =>
      cases ends' with
      | ask next' => exact .ask fun r allowed => ih r allowed (next' r allowed)
  | loop _ ih =>
      cases ends' with
      | loop round' => exact .loop (ih round')

@[simp] theorem ends_pure {a : α} {post : History S → α → Prop} :
    Ends ok post h (.pure a) ↔ post h a := by
  constructor
  · rintro (done | _ | _)
    exact done
  · exact .pure

@[simp] theorem ends_ask {e : S.Request} {k : S.Answer e → Program S α}
    {post : History S → α → Prop} :
    Ends ok post h (.ask e k) ↔ ∀ r, ok ⟨e, r⟩ → Ends ok post (h ++ [⟨e, r⟩]) (k r) := by
  constructor
  · rintro (_ | next | _)
    exact next
  · exact .ask

@[simp] theorem ends_bind {p : Program S α} {f : α → Program S β} {post : History S → β → Prop} :
    Ends ok post h (Program.bind p f) ↔ Ends ok (fun h' a => Ends ok post h' (f a)) h p := by
  constructor
  · intro ends
    generalize same : Program.bind p f = whole at ends
    induction ends generalizing p with
    | pure done =>
        obtain ⟨a, rfl, eq⟩ := bind_eq_pure same
        exact .pure (eq ▸ .pure done)
    | ask next ih =>
        cases p with
        | pure a => exact .pure ((show f a = _ from same) ▸ .ask next)
        | ask e k =>
            cases same
            exact .ask fun r allowed => ih r allowed rfl
        | loop body s k => cases same
    | loop round ih =>
        cases p with
        | pure a => exact .pure ((show f a = _ from same) ▸ .loop round)
        | ask e k => cases same
        | loop body s k =>
            cases same
            exact .loop (ih (unroll_bind _ _ _ f))
  · intro ends
    induction ends with
    | pure done => exact done
    | ask _ ih => exact .ask ih
    | loop _ ih =>
        rw [unroll_bind] at ih
        exact .loop ih

/-- The loop rule: every round that does not leave keeps the invariant and lowers the
measure. -/
theorem ends_loop {body : σ → Program S (σ ⊕ β)} {k : β → Program S α} {post : History S → α → Prop}
    (inv : History S → σ → Prop) (measure : σ → ℕ)
    (keep : ∀ h s, inv h s → Ends ok (fun h' x =>
      Sum.elim (fun s' => inv h' s' ∧
        measure s' < measure s) (fun b => Ends ok post h' (k b)) x) h (body s))
    {s : σ} (start : inv h s) : Ends ok post h (.loop body s k) := by
  induction size : measure s using Nat.strongRecOn generalizing h s with
  | ind n ih =>
      refine .loop (ends_bind.mpr (ends_mono (keep h s start) ?_))
      rintro h' (s' | b) after
      · exact ih _ (size ▸ after.2) after.1 rfl
      · exact after

/-- Where every request has an answer that is `ok`, some run comes to its end. -/
theorem ends_reached {p : Program S α} {post : History S → α → Prop} (ends : Ends ok post h p)
    (answers : ∀ e, ∃ r, ok ⟨e, r⟩) : ∃ h' a, post h' a := by
  induction ends with
  | pure done => exact ⟨_, _, done⟩
  | @ask _ e _ _ ih =>
      obtain ⟨r, allowed⟩ := answers e
      exact ih r allowed
  | loop _ ih => exact ih

end Rules

namespace Method
variable {ε τ : Type} {ok : Event S → Prop} {h : History S} {s : σ}

/-- The method ends, and then `post` holds of history, variables and outcome. -/
def mends (ok : Event S → Prop) (h : History S) (s : σ) (m : Method S σ ε α)
    (post : History S → σ → Except ε α → Prop) : Prop :=
  Ends ok (fun h' x => post h' x.2 x.1) h (m s)

theorem mends_mono {m : Method S σ ε α} {post post' : History S → σ → Except ε α → Prop}
    (ends : mends ok h s m post) (weaker : ∀ h s x, post h s x → post' h s x) :
    mends ok h s m post' :=
  ends_mono ends fun h x => weaker h x.2 x.1

@[simp] theorem mends_pure {a : α} {post : History S → σ → Except ε α → Prop} :
    mends ok h s (Pure.pure a : Method S σ ε α) post ↔ post h s (.ok a) :=
  ends_pure

@[simp] theorem mends_raise {e : ε} {post : History S → σ → Except ε α → Prop} :
    mends ok h s (raise e) post ↔ post h s (.error e) :=
  ends_pure

@[simp] theorem mends_locals {post : History S → σ → Except ε σ → Prop} :
    mends ok h s locals post ↔ post h s (.ok s) :=
  ends_pure

@[simp] theorem mends_assign {f : σ → σ} {post : History S → σ → Except ε Unit → Prop} :
    mends ok h s (assign f) post ↔ post h (f s) (.ok ()) :=
  ends_pure

@[simp] theorem mends_request {e : S.Request} {out : S.Answer e → α}
    {post : History S → σ → Except ε α → Prop} :
    mends ok h s (request e out) post ↔ ∀ r, ok ⟨e, r⟩ → post (h ++ [⟨e, r⟩]) s (.ok (out r)) := by
  simp only [mends, request, ends_ask, ends_pure]

/-- What is left of a sequence once its first part is over. -/
def follows (ok : Event S → Prop) (f : α → Method S σ ε β)
    (post : History S → σ → Except ε β → Prop) (h : History S) (s : σ) : Except ε α → Prop
  | .ok a => mends ok h s (f a) post
  | .error e => post h s (.error e)

@[simp] theorem follows_ok {f : α → Method S σ ε β}
    {post : History S → σ → Except ε β → Prop} {a : α} :
    follows ok f post h s (.ok a) ↔ mends ok h s (f a) post := Iff.rfl

@[simp] theorem follows_error {f : α → Method S σ ε β}
    {post : History S → σ → Except ε β → Prop} {e : ε} :
    follows ok f post h s (.error e) ↔ post h s (.error e) := Iff.rfl

@[simp] theorem mends_bind {m : Method S σ ε α} {f : α → Method S σ ε β}
    {post : History S → σ → Except ε β → Prop} :
    mends ok h s (m >>= f) post ↔ mends ok h s m (follows ok f post) := by
  change Ends ok _ h (Program.bind (m s) (andThen f)) ↔ _
  rw [ends_bind]
  constructor
  · intro ends
    apply ends_mono ends
    rintro h ⟨e | a, s⟩ after
    · exact ends_pure.mp after
    · exact after
  · intro ends
    apply ends_mono ends
    rintro h ⟨e | a, s⟩ after
    · exact ends_pure.mpr after
    · exact after

theorem mends_tryFinally {body : Method S σ ε α} {fin : Method S σ ε Unit}
    {post : History S → σ → Except ε α → Prop}
    (ends : mends ok h s body (fun h' s' x => mends ok h' s' fin (settle post x))) :
    mends ok h s (tryFinally body fin) post := by
  refine ends_bind.mpr (ends_mono ends ?_)
  rintro h ⟨x, s⟩ after
  refine ends_bind.mpr (ends_mono after ?_)
  rintro h ⟨e | u, s⟩ done
  · exact ends_pure.mpr done
  · exact ends_pure.mpr done

theorem mends_tryCatch {body : Method S σ ε α} {handler : ε → Method S σ ε α}
    {post : History S → σ → Except ε α → Prop}
    (ends : mends ok h s body (fun h' s' x => match x with
      | .ok a => post h' s' (.ok a)
      | .error e => mends ok h' s' (handler e) post)) :
    mends ok h s (tryCatch body handler) post := by
  refine ends_bind.mpr (ends_mono ends ?_)
  rintro h ⟨e | a, s⟩ after
  · exact after
  · exact ends_pure.mpr after

theorem mends_iterate {body : τ → Method S σ ε (τ ⊕ α)} {t : τ}
    {post : History S → σ → Except ε α → Prop} (inv : History S → σ → τ → Prop)
    (measure : τ → ℕ) (start : inv h s t) (keep : ∀ h s t, inv h s t →
      mends ok h s (body t) (again (fun h' s' t' => inv h' s' t' ∧ measure t' < measure t) post)) :
    mends ok h s (iterate body t) post := by
  apply ends_loop (fun h x => inv h x.2 x.1) (fun x => measure x.1) _ start
  rintro h ⟨t, s⟩ here
  refine ends_bind.mpr (ends_mono (keep h s t here) ?_)
  rintro h ⟨e | t' | a, s⟩ done
  · exact ends_pure.mpr (ends_pure.mpr done)
  · exact ends_pure.mpr done
  · exact ends_pure.mpr (ends_pure.mpr done)

end Method
end Interaction

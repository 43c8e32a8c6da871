import Spsw.Interaction.Program

/-!
# Weakest preconditions over histories

`wp I h p post` says of a program `p` that has already seen the history `h`: in
every run, `I` holds of the history after each further event, and `post` holds
of history and result when `p` returns. The rules follow the constructors of
programs; a loop needs an invariant.
-/
namespace Interaction
open Program

variable {S : Signature} {α β σ : Type}

def wp (I : History S → Prop) (h : History S) (p : Program S α) (post : History S → α → Prop) : Prop :=
  ∀ t q, Run p t q → (t ≠ [] → I (h ++ t)) ∧ ∀ a, q = .pure a → post (h ++ t) a

section Rules
variable {I : History S → Prop} {h : History S}

theorem wp_silent {p q : Program S α} {post : History S → α → Prop} (w : wp I h p post)
    (step : Step p none q) : wp I h q post :=
  fun t r run => w t r (.silent step run)

theorem wp_event {p q : Program S α} {post : History S → α → Prop} {ev : Event S}
    (w : wp I h p post) (step : Step p (some ev) q) :
    I (h ++ [ev]) ∧ wp I (h ++ [ev]) q post := by
  refine ⟨(w [ev] q (.event step (.refl q))).1 (by simp), ?_⟩
  intro t r run
  have after := w (ev :: t) r (.event step run)
  simp only [List.append_assoc, List.singleton_append]
  exact ⟨fun _ => after.1 (by simp), after.2⟩

theorem wp_mono {p : Program S α} {post post' : History S → α → Prop} (w : wp I h p post)
    (weaker : ∀ h a, post h a → post' h a) : wp I h p post' :=
  fun t q run => ⟨(w t q run).1, fun a eq => weaker _ a ((w t q run).2 a eq)⟩

theorem wp_and {p : Program S α} {post post' : History S → α → Prop} (w : wp I h p post)
    (w' : wp I h p post') :
    wp I h p (fun h a => post h a ∧ post' h a) :=
  fun t q run => ⟨(w t q run).1, fun a eq => ⟨(w t q run).2 a eq, (w' t q run).2 a eq⟩⟩

/-- What two invariants hold of holds of both. -/
theorem wp_both {J : History S → Prop} {p : Program S α}
    {post post' : History S → α → Prop} (w : wp I h p post) (w' : wp J h p post') :
    wp (fun h => I h ∧ J h) h p (fun h a => post h a ∧ post' h a) :=
  fun t q run => ⟨fun some => ⟨(w t q run).1 some, (w' t q run).1 some⟩,
    fun a eq => ⟨(w t q run).2 a eq, (w' t q run).2 a eq⟩⟩

/-- A program only adds to what it has seen. -/
theorem wp_grows {p : Program S α} {post : History S → α → Prop} (w : wp I h p post) :
    wp I h p (fun h' a => (∃ t, h' = h ++ t) ∧ post h' a) :=
  fun t q run => ⟨(w t q run).1, fun a eq => ⟨⟨t, rfl⟩, (w t q run).2 a eq⟩⟩

theorem wp_forget {p : Program S α} {post : History S → α → Prop} (w : wp I h p post) :
    wp (fun _ => True) h p post :=
  fun t q run => ⟨fun _ => trivial, (w t q run).2⟩

@[simp] theorem wp_pure {a : α} {post : History S → α → Prop} :
    wp I h (.pure a) post ↔ post h a := by
  constructor
  · intro w
    simpa only [List.append_nil] using (w [] _ (.refl _)).2 a rfl
  · intro done t q run
    obtain ⟨rfl, rfl⟩ := run_pure run
    refine ⟨fun ne => absurd rfl ne, ?_⟩
    rintro b ⟨⟩
    simpa only [List.append_nil] using done

@[simp] theorem wp_ask {e : S.Request} {k : S.Answer e → Program S α}
    {post : History S → α → Prop} :
    wp I h (.ask e k) post ↔ ∀ r, I (h ++ [⟨e, r⟩]) ∧ wp I (h ++ [⟨e, r⟩]) (k r) post := by
  constructor
  · exact fun w r => wp_event w (.ask e k r)
  · intro next t q run
    rcases run_ask run with ⟨rfl, rfl⟩ | ⟨r, t', rfl, run'⟩
    · exact ⟨fun ne => absurd rfl ne, by rintro a ⟨⟩⟩
    · have after := (next r).2 t' q run'
      simp only [List.append_assoc, List.singleton_append] at after
      refine ⟨fun _ => ?_, after.2⟩
      by_cases last : t' = []
      · subst last; exact (next r).1
      · exact after.1 last

theorem bind_eq_pure {p : Program S α} {f : α → Program S β} {b : β}
    (eq : Program.bind p f = .pure b) : ∃ a, p = .pure a ∧ f a = .pure b := by
  cases p with
  | pure a => exact ⟨a, rfl, eq⟩
  | ask e k => cases eq
  | loop body s k => cases eq

@[simp] theorem wp_bind {p : Program S α} {f : α → Program S β} {post : History S → β → Prop} :
    wp I h (Program.bind p f) post ↔ wp I h p (fun h' a => wp I h' (f a) post) := by
  constructor
  · intro w t q run
    refine ⟨(w t _ (run.bind f)).1, ?_⟩
    rintro a rfl t' r rest
    have whole := w (t ++ t') r ((run.bind f).trans rest)
    rw [← List.append_assoc] at whole
    exact ⟨fun ne => whole.1 (by simp [ne]), whole.2⟩
  · intro w t q run
    rcases run_bind run with ⟨p', run', rfl⟩ | ⟨t₁, a, t₂, rfl, done, rest⟩
    · refine ⟨(w t p' run').1, ?_⟩
      intro b eq
      obtain ⟨a, rfl, eq'⟩ := bind_eq_pure eq
      have after : wp I (h ++ t) (f a) post := (w t _ run').2 a rfl
      rw [eq'] at after
      exact wp_pure.mp after
    · have after := (w t₁ _ done).2 a rfl t₂ q rest
      rw [List.append_assoc] at after
      refine ⟨fun ne => ?_, after.2⟩
      by_cases last : t₂ = []
      · subst last
        simp only [List.append_nil] at ne ⊢
        exact (w t₁ _ done).1 ne
      · exact after.1 last

/-- The loop rule: an invariant of history and loop state that the body keeps
whenever it asks for another round, and that yields the rest when it leaves. -/
theorem wp_loop {body : σ → Program S (σ ⊕ β)} {s : σ} {k : β → Program S α}
    {post : History S → α → Prop} (inv : History S → σ → Prop) (start : inv h s)
    (keep : ∀ h s, inv h s → wp I h (body s) (fun h' x =>
      Sum.elim (inv h') (fun b => wp I h' (k b) post) x)) :
    wp I h (.loop body s k) post := by
  have rounds : ∀ {p q : Program S α} {t}, Run p t q → ∀ (p₀ : Program S (σ ⊕ β)) (h : History S),
      p = Program.bind p₀ (Sum.elim (fun s' => .loop body s' k) k) →
      wp I h p₀ (fun h' x => Sum.elim (inv h') (fun b => wp I h' (k b) post) x) →
      (t ≠ [] → I (h ++ t)) ∧ ∀ a, q = .pure a → post (h ++ t) a := by
    intro p q t run
    induction run with
    | refl p =>
        intro p₀ h eq w
        refine ⟨fun ne => absurd rfl ne, ?_⟩
        rintro a rfl
        obtain ⟨x, rfl, eq'⟩ := bind_eq_pure eq.symm
        have here := wp_pure.mp w
        cases x with
        | inl s' => cases eq'
        | inr b =>
            change k b = .pure a at eq'
            simp only [Sum.elim_inr, eq', wp_pure] at here
            simpa only [List.append_nil] using here
    | @silent p p₁ q t step rest ih =>
        rintro p₀ h rfl w
        rcases step_bind step with ⟨x, rfl, step'⟩ | ⟨p', step', rfl⟩
        · have here := wp_pure.mp w
          cases x with
          | inl s' =>
              cases step' with
              | loop => exact ih (body s') h rfl (keep h s' here)
          | inr b => exact here t q (.silent step' rest)
        · exact ih p' h rfl (wp_silent w step')
    | @event p p₁ q ev t step rest ih =>
        rintro p₀ h rfl w
        rcases step_bind step with ⟨x, rfl, step'⟩ | ⟨p', step', rfl⟩
        · have here := wp_pure.mp w
          cases x with
          | inl s' => cases step'
          | inr b => exact here (ev :: t) q (.event step' rest)
        · have now := wp_event w step'
          have after := ih p' (h ++ [ev]) rfl now.2
          simp only [List.append_assoc, List.singleton_append] at after
          refine ⟨fun _ => ?_, after.2⟩
          by_cases last : t = []
          · subst last; exact now.1
          · exact after.1 last
  intro t q run
  exact rounds run (.pure (.inl s)) h rfl (wp_pure.mpr start)

end Rules

/-- What the calculus proves of a program holds of each of its returning runs. -/
theorem wp_returns {I : History S → Prop} {p : Program S α} {post : History S → α → Prop}
    (w : wp I [] p post) {h : History S} {a : α} (run : Returns p h a) : post h a := by
  simpa only [List.nil_append] using (w h _ run).2 a rfl

end Interaction

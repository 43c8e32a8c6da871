import Spsw.Interaction.Method

/-!
# Programs that return the same

Two programs match in an environment that only gives answers that are `ok`: after any
of its histories the one returns what the other does.
-/
namespace Interaction
open Program

variable {S : Signature} {σ ε α β : Type}

def Matching (ok : Event S → Prop) (p q : Program S α) : Prop :=
  ∀ h a, (∀ ev ∈ h, ok ev) → (Returns p h a ↔ Returns q h a)

section Rules
variable {ok : Event S → Prop}

theorem returns_bind {p : Program S α} {f : α → Program S β} {h : History S} {b : β} :
    Returns (Program.bind p f) h b ↔ ∃ h₁ a h₂, h = h₁ ++ h₂ ∧ Returns p h₁ a ∧
      Returns (f a) h₂ b := by
  constructor
  · intro run
    rcases run_bind run with ⟨p', run', same⟩ | split
    · obtain ⟨a, rfl, last⟩ := bind_eq_pure same.symm
      exact ⟨h, a, [], (List.append_nil h).symm, run', last ▸ .refl _⟩
    · exact split
  · rintro ⟨h₁, a, h₂, rfl, first, rest⟩
    exact (first.bind f).trans rest

theorem Matching.refl (p : Program S α) : Matching ok p p := fun _ _ _ => Iff.rfl

theorem Matching.bind {p q : Program S α} {f g : α → Program S β} (first : Matching ok p q)
    (next : ∀ a, Matching ok (f a) (g a)) : Matching ok (Program.bind p f) (Program.bind q g) := by
  intro h b allowed
  rw [returns_bind, returns_bind]
  constructor
  · rintro ⟨h₁, a, h₂, rfl, run, rest⟩
    rw [List.forall_mem_append] at allowed
    exact ⟨h₁, a, h₂, rfl, (first h₁ a allowed.1).mp run, (next a h₂ b allowed.2).mp rest⟩
  · rintro ⟨h₁, a, h₂, rfl, run, rest⟩
    rw [List.forall_mem_append] at allowed
    exact ⟨h₁, a, h₂, rfl, (first h₁ a allowed.1).mpr run, (next a h₂ b allowed.2).mpr rest⟩

theorem returns_ask {e : S.Request} {k : S.Answer e → Program S α} {h : History S} {a : α} :
    Returns (.ask e k) h a ↔ ∃ r t, h = ⟨e, r⟩ :: t ∧ Returns (k r) t a := by
  constructor
  · intro run
    rcases run_ask run with ⟨-, same⟩ | split
    · cases same
    · exact split
  · rintro ⟨r, t, rfl, rest⟩
    exact .event (.ask e k r) rest

/-- After one request, only the answers that are `ok` count. -/
theorem Matching.ask {e : S.Request} {k l : S.Answer e → Program S α}
    (next : ∀ r, ok ⟨e, r⟩ → Matching ok (k r) (l r)) :
    Matching ok (.ask e k) (.ask e l) := by
  intro h a allowed
  rw [returns_ask, returns_ask]
  constructor
  · rintro ⟨r, t, rfl, rest⟩
    rw [List.forall_mem_cons] at allowed
    exact ⟨r, t, rfl, (next r allowed.1 t a allowed.2).mp rest⟩
  · rintro ⟨r, t, rfl, rest⟩
    rw [List.forall_mem_cons] at allowed
    exact ⟨r, t, rfl, (next r allowed.1 t a allowed.2).mpr rest⟩

end Rules

namespace Method

/-- Methods that are matching from any local variables. -/
def MatchingM (ok : Event S → Prop) (m n : Method S σ ε α) : Prop := ∀ s, Matching ok (m s) (n s)

variable {ok : Event S → Prop}

theorem MatchingM.refl (m : Method S σ ε α) : MatchingM ok m m := fun s => .refl (m s)

theorem MatchingM.bind {m n : Method S σ ε α} {f g : α → Method S σ ε β} (first : MatchingM ok m n)
    (next : ∀ a, MatchingM ok (f a) (g a)) : MatchingM ok (m >>= f) (n >>= g) := by
  refine fun s => (first s).bind fun x => ?_
  obtain ⟨result, s⟩ := x
  cases result with
  | error e => exact .refl _
  | ok a => exact next a s

theorem MatchingM.request {e : S.Request} {out : S.Answer e → α} {f g : α → Method S σ ε β}
    (next : ∀ r, ok ⟨e, r⟩ → MatchingM ok (f (out r)) (g (out r))) :
    MatchingM ok (request e out >>= f) (request e out >>= g) :=
  fun s => Matching.ask fun r allowed => next r allowed s

end Method
end Interaction

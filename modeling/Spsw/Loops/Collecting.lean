import Mathlib.Data.List.Basic

/-!
# Loops that collect

A loop that appends to what it has collected ends, unless a pass throws, with what
its passes found, one after the other.
-/
namespace Loops
variable {α β ε : Type*} {pass : List β → α → Except ε (List β)} {l : List α} {found : α → List β}

theorem foldlM_collects (passes : ∀ a ∈ l, ∀ acc, pass acc a = .ok (acc ++ found a))
    (acc : List β) :
    l.foldlM pass acc = .ok (acc ++ l.flatMap found) := by
  induction l generalizing acc with
  | nil => simp [pure, Except.pure]
  | cons a l ih =>
      rw [List.foldlM_cons, passes a List.mem_cons_self acc]
      change l.foldlM pass (acc ++ found a) = _
      rw [ih fun b member => passes b (List.mem_cons_of_mem a member)]
      simp

/-- A loop that ends has ended each pass. -/
theorem foldlM_passes {acc result : List β} (ends : l.foldlM pass acc = .ok result) :
    ∀ a ∈ l, ∃ before after, pass before a = .ok after := by
  induction l generalizing acc with
  | nil => simp
  | cons a l ih =>
      rw [List.foldlM_cons] at ends
      cases first : pass acc a with
      | error e =>
          rw [first] at ends
          cases ends
      | ok after =>
          rw [first] at ends
          intro b member
          rcases List.mem_cons.mp member with rfl | rest
          · exact ⟨acc, after, first⟩
          · exact ih ends b rest

/-- A pass that skips some elements collects from the others. -/
theorem flatMap_skipping {γ : Type*} (taken : α → Bool) (name : α → γ)
    (f : γ → List β) (l : List α) :
    (l.flatMap fun a => if taken a = true then f (name a) else []) =
    ((l.filter taken).map name).flatMap f := by
  induction l with
  | nil => rfl
  | cons a l ih =>
      rw [List.flatMap_cons, ih, List.filter_cons]
      split <;> simp

/-- A pass that takes an element or leaves it filters. -/
theorem flatMap_filters {f : α → List α} (taken : α → Bool) (l : List α)
    (each : ∀ a ∈ l, f a = if taken a = true then [a] else []) : l.flatMap f = l.filter taken := by
  induction l with
  | nil => rfl
  | cons a l ih =>
      rw [List.flatMap_cons, ih fun b member => each b (List.mem_cons_of_mem a member),
        each a List.mem_cons_self, List.filter_cons]
      split <;> rfl

/-- Collections of the same sizes agree where the elements' do. -/
theorem flatMap_eq_iff {f g : α → List β} (sizes : ∀ a, (f a).length = (g a).length) :
    l.flatMap f = l.flatMap g ↔ ∀ a ∈ l, f a = g a := by
  induction l with
  | nil => exact iff_of_true rfl (by simp)
  | cons a l ih =>
      rw [List.flatMap_cons, List.flatMap_cons, List.forall_mem_cons, ← ih]
      constructor
      · exact fun same => List.append_inj same (sizes a)
      · rintro ⟨first, others⟩
        rw [first, others]

end Loops

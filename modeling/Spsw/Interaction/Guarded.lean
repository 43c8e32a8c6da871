import Mathlib.Data.Fintype.Card
import Mathlib.Logic.Relation

/-!
# A log written under one permit

The abstract purpose of a binary semaphore: any number of activities each pass
once through a guarded stage, and whatever they append to a common log while
they are inside stays in one piece. Concrete systems refine this one through a
view of their own states.
-/
namespace Interaction.Guarded

inductive Stage where
  | before
  | inside
  | after
  deriving DecidableEq, Repr

structure State (ι β : Type) where
  permits : ℕ
  stage : ι → Stage
  log : List (ι × β)

variable {ι β : Type} [DecidableEq ι]

inductive Step : State ι β → State ι β → Prop
  | enter {s : State ι β} (i : ι) (p : ℕ) (outside : s.stage i = .before)
      (free : s.permits = p + 1) :
      Step s { s with permits := p, stage := Function.update s.stage i .inside }
  | emit {s : State ι β} (i : ι) (b : β) (inside : s.stage i = .inside) :
      Step s { s with log := s.log ++ [(i, b)] }
  | leave {s : State ι β} (i : ι) (inside : s.stage i = .inside) :
      Step s { s with permits := s.permits + 1, stage := Function.update s.stage i .after }
  | pass {s : State ι β} (i : ι) (outside : s.stage i = .before) :
      Step s { s with stage := Function.update s.stage i .after }

/-- What activity `i` has appended, in order. -/
def own (log : List (ι × β)) (i : ι) : List β :=
  (log.filter (fun e => e.1 = i)).map Prod.snd

/-- The entries of `i` form one contiguous piece of the log. -/
def Contiguous (log : List (ι × β)) (i : ι) : Prop :=
  ∃ pre post, log = pre ++ (own log i).map (Prod.mk i) ++ post ∧
    ∀ e ∈ pre ++ post, e.1 ≠ i

/-- The entries of `i` form the end of the log. -/
def Trailing (log : List (ι × β)) (i : ι) : Prop :=
  ∃ pre, log = pre ++ (own log i).map (Prod.mk i) ∧ ∀ e ∈ pre, e.1 ≠ i

@[simp] theorem own_append (l l' : List (ι × β)) (i : ι) :
    own (l ++ l') i = own l i ++ own l' i := by
  simp [own]

@[simp] theorem own_self (i : ι) (b : β) : own [(i, b)] i = [b] := by simp [own]

theorem own_other {i j : ι} (b : β) (ne : j ≠ i) : own [(j, b)] i = [] := by simp [own, ne]

theorem own_absent {log : List (ι × β)} {i : ι} (absent : ∀ e ∈ log, e.1 ≠ i) : own log i = [] := by
  simp only [own, List.map_eq_nil_iff, List.filter_eq_nil_iff, decide_eq_true_eq]
  exact absent

theorem trailing_absent {log : List (ι × β)} {i : ι} (absent : ∀ e ∈ log, e.1 ≠ i) :
    Trailing log i :=
  ⟨log, by simp [own_absent absent], absent⟩

theorem Trailing.contiguous {log : List (ι × β)} {i : ι} (h : Trailing log i) :
    Contiguous log i := by
  obtain ⟨pre, eq, absent⟩ := h
  exact ⟨pre, [], by simpa using eq, by simpa using absent⟩

theorem Trailing.snoc {log : List (ι × β)} {i : ι} (h : Trailing log i) (b : β) :
    Trailing (log ++ [(i, b)]) i := by
  obtain ⟨pre, eq, absent⟩ := h
  refine ⟨pre, ?_, absent⟩
  rw [own_append, own_self, List.map_append, ← List.append_assoc, ← eq]
  rfl

theorem Contiguous.snoc_other {log : List (ι × β)} {i j : ι} (h : Contiguous log i) (b : β)
    (ne : j ≠ i) : Contiguous (log ++ [(j, b)]) i := by
  obtain ⟨pre, post, eq, absent⟩ := h
  refine ⟨pre, post ++ [(j, b)], ?_, ?_⟩
  · rw [own_append, own_other b ne, List.append_nil, ← List.append_assoc, ← eq]
  · intro e member
    rw [← List.append_assoc] at member
    rcases List.mem_append.mp member with old | new
    · exact absent e old
    · rw [List.mem_singleton.mp new]
      exact ne

section Expand
variable {γ : Type}

/-- Every entry replaced by the entries it stands for. -/
def expand (g : β → List γ) (log : List (ι × β)) : List (ι × γ) :=
  log.flatMap (fun e => (g e.2).map (Prod.mk e.1))

omit [DecidableEq ι] in
theorem expand_append (g : β → List γ) (l l' : List (ι × β)) :
    expand g (l ++ l') = expand g l ++ expand g l' :=
  List.flatMap_append

omit [DecidableEq ι] in
theorem expand_map (g : β → List γ) (i : ι) (l : List β) :
    expand g (l.map (Prod.mk i)) = (l.flatMap g).map (Prod.mk i) := by
  simp [expand, List.flatMap_map, List.map_flatMap]

theorem own_expand (g : β → List γ) (log : List (ι × β)) (i : ι) :
    own (expand g log) i = (own log i).flatMap g := by
  induction log with
  | nil => rfl
  | cons e log ih =>
      obtain ⟨j, b⟩ := e
      have split : expand g ((j, b) :: log) = (g b).map (Prod.mk j) ++ expand g log := rfl
      rw [split, own_append, ih]
      by_cases same : j = i
      · subst same
        simp [own, List.filter_map, Function.comp_def]
      · simp [own, List.filter_map, Function.comp_def, same]

omit [DecidableEq ι] in
theorem expand_absent {g : β → List γ} {log : List (ι × β)} {i : ι}
    (absent : ∀ e ∈ log, e.1 ≠ i) : ∀ e ∈ expand g log, e.1 ≠ i := by
  intro e member
  obtain ⟨d, member', inner⟩ := List.mem_flatMap.mp member
  obtain ⟨c, _, rfl⟩ := List.mem_map.mp inner
  exact absent d member'

/-- What is in one piece stays so when the entries are expanded. -/
theorem Contiguous.expand {log : List (ι × β)} {i : ι} (h : Contiguous log i) (g : β → List γ) :
    Contiguous (expand g log) i := by
  obtain ⟨pre, post, eq, absent⟩ := h
  refine ⟨Guarded.expand g pre, Guarded.expand g post, ?_, ?_⟩
  · rw [own_expand, ← expand_map, ← expand_append, ← expand_append, ← eq]
  · intro e member
    rcases List.mem_append.mp member with old | new
    · exact expand_absent (fun e m => absent e (List.mem_append.mpr (.inl m))) e old
    · exact expand_absent (fun e m => absent e (List.mem_append.mpr (.inr m))) e new

end Expand

variable [Fintype ι]

def inside (s : State ι β) : Finset ι := Finset.univ.filter (fun i => s.stage i = .inside)

omit [DecidableEq ι] in
@[simp] theorem mem_inside (s : State ι β) (i : ι) : i ∈ inside s ↔ s.stage i = .inside := by
  simp [inside]

/-- The invariant of the guarded log. -/
structure Exclusive (s : State ι β) : Prop where
  balance : s.permits + (inside s).card = 1
  fresh : ∀ i, s.stage i = .before → ∀ e ∈ s.log, e.1 ≠ i
  last : ∀ i, s.stage i = .inside → Trailing s.log i
  contiguous : ∀ i, Contiguous s.log i

theorem Exclusive.unique {s : State ι β} (h : Exclusive s) {i j : ι} (hi : s.stage i = .inside)
    (hj : s.stage j = .inside) : i = j := by
  have bound : (inside s).card ≤ 1 := by
    have := h.balance
    omega
  exact Finset.card_le_one.mp bound i (by simpa using hi) j (by simpa using hj)

theorem exclusive_initial (stage : ι → Stage) (outside : ∀ i, stage i = .before) :
    Exclusive (⟨1, stage, []⟩ : State ι β) := by
  refine ⟨?_, by simp, ?_, ?_⟩
  · have empty : inside (⟨1, stage, []⟩ : State ι β) = ∅ := by
      ext i
      simp [outside i]
    rw [empty, Finset.card_empty]
  · intro i hi
    change stage i = .inside at hi
    rw [outside i] at hi
    cases hi
  · exact fun i => (trailing_absent (by simp)).contiguous

theorem inside_enter {s : State ι β} {i : ι} (outside : s.stage i = .before) (p : ℕ) :
    inside { s with permits := p, stage := Function.update s.stage i .inside } =
      insert i (inside s) := by
  ext j
  by_cases same : j = i
  · subst same; simp
  · simp [same]

theorem inside_leave {s : State ι β} {i : ι} (p : ℕ) :
    inside { s with permits := p, stage := Function.update s.stage i .after } =
      (inside s).erase i := by
  ext j
  by_cases same : j = i
  · subst same; simp
  · simp [same]

theorem inside_pass {s : State ι β} {i : ι} (outside : s.stage i = .before) :
    inside { s with stage := Function.update s.stage i .after } = inside s := by
  ext j
  by_cases same : j = i
  · subst same; simp [outside]
  · simp [same]

omit [Fintype ι] in
/-- A member that leaves a stage leaves what is asked of the others there. -/
theorem moved {s : State ι β} {i : ι} {stage stage' : Stage} {P : ι → Prop}
    (holds : ∀ j, s.stage j = stage → P j) (away : stage' ≠ stage) :
    ∀ j, Function.update s.stage i stage' j = stage → P j := by
  intro j there
  by_cases same : j = i
  · rw [same, Function.update_self] at there
    exact absurd there away
  · rw [Function.update_of_ne same] at there
    exact holds j there

theorem step_exclusive {s t : State ι β} (h : Exclusive s) (step : Step s t) : Exclusive t := by
  cases step with
  | enter i p outside free =>
      have absent : i ∉ inside s := by simp [outside]
      refine ⟨?_, moved h.fresh (by simp), ?_, h.contiguous⟩
      · have balance := h.balance
        rw [inside_enter outside p, Finset.card_insert_of_notMem absent]
        change p + ((inside s).card + 1) = 1
        omega
      · intro j hj
        by_cases same : j = i
        · subst same; exact trailing_absent (h.fresh j outside)
        · exact h.last j (by simpa [same] using hj)
  | emit i b inside' =>
      have trailing := (h.last i inside').snoc b
      refine ⟨h.balance, ?_, ?_, ?_⟩
      · intro j hj e member
        have ne : i ≠ j := by
          rintro rfl
          rw [show s.stage i = .before from hj] at inside'
          cases inside'
        rcases List.mem_append.mp member with old | new
        · exact h.fresh j hj e old
        · rw [List.mem_singleton.mp new]
          exact ne
      · intro j hj
        rw [h.unique hj inside']
        exact trailing
      · intro j
        by_cases same : i = j
        · subst same; exact trailing.contiguous
        · exact (h.contiguous j).snoc_other b same
  | leave i inside' =>
      refine ⟨?_, moved h.fresh (by simp), moved h.last (by simp), h.contiguous⟩
      have balance := h.balance
      have member : i ∈ inside s := by simpa using inside'
      have positive := Finset.card_pos.mpr ⟨i, member⟩
      rw [inside_leave, Finset.card_erase_of_mem member]
      change s.permits + 1 + ((inside s).card - 1) = 1
      omega
  | pass i outside =>
      refine ⟨?_, moved h.fresh (by simp), moved h.last (by simp), h.contiguous⟩
      rw [inside_pass outside]
      exact h.balance

theorem run_exclusive {s t : State ι β} (h : Exclusive s) (run : Relation.ReflTransGen Step s t) :
    Exclusive t := by
  induction run with
  | refl => exact h
  | tail _ step ih => exact step_exclusive ih step

/-- A system whose every step is a run of the guarded log under `view`, given an
invariant of its own, keeps the log in one piece in every state it reaches. -/
theorem exclusive_of_refinement {C : Type*} {step : C → C → Prop} (inv : C → Prop)
    (view : C → State ι β) (keep : ∀ c d, inv c → step c d → inv d)
    (refines : ∀ c d, inv c → step c d → Relation.ReflTransGen Step (view c) (view d)) {c d : C}
    (holds : inv c) (start : Exclusive (view c)) (run : Relation.ReflTransGen step c d) :
    inv d ∧ Exclusive (view d) := by
  induction run with
  | refl => exact ⟨holds, start⟩
  | tail _ last ih => exact ⟨keep _ _ ih.1 last, run_exclusive ih.2 (refines _ _ ih.1 last)⟩

end Interaction.Guarded

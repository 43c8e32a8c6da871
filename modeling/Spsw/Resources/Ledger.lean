import Mathlib.Data.List.Induction
import Mathlib.Data.Set.Insert

/-!
# A ledger of resources

What is done with resources is written down, one deed after the other. The ledger is in
order when every resource was obtained once, was then used only while it was held, and was
closed once. A stage for each resource decides this from left to right.
-/
namespace Resources
variable {τ : Type}

inductive Deed (τ : Type) where
  | obtain (t : τ)
  | use (t : τ)
  | close (t : τ)
  deriving DecidableEq, Repr

/-- The resource that a deed is about. -/
def Deed.subject : Deed τ → τ
  | .obtain t | .use t | .close t => t

/-- The resource was obtained, then only used, then closed, and not touched again. -/
def Released (log : List (Deed τ)) (t : τ) : Prop :=
  ∃ before during after, log = before ++ .obtain t :: (during ++ .close t :: after) ∧
    .obtain t ∉ before ∧
    (∀ deed ∈ during, deed.subject = t → deed = .use t) ∧ ∀ deed ∈ after, deed.subject ≠ t

/-- Every resource that was obtained was closed exactly once, and none was used afterwards. -/
def Accounted (log : List (Deed τ)) : Prop := ∀ t, .obtain t ∈ log → Released log t

theorem Released.close_mem {log : List (Deed τ)} {t : τ} (released : Released log t) :
    .close t ∈ log := by
  obtain ⟨before, during, after, rfl, -⟩ := released
  simp

inductive Stage where
  | unknown
  | held
  | closed
  | misused
  deriving DecidableEq, Repr

/-- What a deed makes of the stage of its subject. What was never obtained may be used: it
is none of ours. -/
def Deed.advance : Deed τ → Stage → Stage
  | .obtain _, .unknown => .held
  | .use _, .unknown => .unknown
  | .use _, .held => .held
  | .close _, .unknown => .unknown
  | .close _, .held => .closed
  | _, _ => .misused

variable [DecidableEq τ]

def Deed.next (t : τ) (stage : Stage) (deed : Deed τ) : Stage :=
  if deed.subject = t then deed.advance stage else stage

def stage (log : List (Deed τ)) (t : τ) : Stage := log.foldl (Deed.next t) .unknown

section Stages
variable {log : List (Deed τ)} {t t' : τ} {deed : Deed τ}

theorem stage_snoc (log : List (Deed τ)) (deed : Deed τ) (t : τ) :
    stage (log ++ [deed]) t = deed.next t (stage log t) := by
  simp [stage]

theorem next_self {before : Stage} :
    deed.next deed.subject before = deed.advance before := if_pos rfl

theorem next_other {before : Stage} (other : deed.subject ≠ t) : deed.next t before = before :=
  if_neg other

theorem stage_other (other : deed.subject ≠ t) : stage (log ++ [deed]) t = stage log t :=
  (stage_snoc _ _ _).trans (next_other other)

/-- The resource was obtained, and only used since. -/
def Held (log : List (Deed τ)) (t : τ) : Prop :=
  ∃ before during, log = before ++ .obtain t :: during ∧ .obtain t ∉ before ∧
    ∀ deed ∈ during, deed.subject = t → deed = .use t

/-- What the stages stand for. -/
def Meant (log : List (Deed τ)) (t : τ) : Stage → Prop
  | .unknown => .obtain t ∉ log
  | .held => Held log t
  | .closed => Released log t
  | .misused => True

omit [DecidableEq τ] in
theorem Held.snoc (held : Held log t) (only : deed.subject = t → deed = .use t) :
    Held (log ++ [deed]) t := by
  obtain ⟨before, during, rfl, first, uses⟩ := held
  refine ⟨before, during ++ [deed], by simp, first, fun deed' member => ?_⟩
  rcases List.mem_append.mp member with old | new
  · exact uses deed' old
  · rw [List.mem_singleton.mp new]
    exact only

omit [DecidableEq τ] in
theorem Held.close (held : Held log t) : Released (log ++ [.close t]) t := by
  obtain ⟨before, during, rfl, first, uses⟩ := held
  exact ⟨before, during, [], by simp, first, uses, by simp⟩

omit [DecidableEq τ] in
theorem meant_other {before : Stage} (meant : Meant log t before) (other : deed.subject ≠ t) :
    Meant (log ++ [deed]) t before := by
  cases before with
  | unknown =>
      intro member
      rcases List.mem_append.mp member with old | new
      · exact meant old
      · exact other (List.mem_singleton.mp new ▸ rfl)
  | held => exact Held.snoc meant fun same => absurd same other
  | closed =>
      obtain ⟨before, during, after, rfl, first, uses, rest⟩ := meant
      refine ⟨before, during, after ++ [deed], by simp, first, uses, fun deed' member => ?_⟩
      rcases List.mem_append.mp member with old | new
      · exact rest deed' old
      · rw [List.mem_singleton.mp new]
        exact other
  | misused => trivial

theorem meant_next {before : Stage} (meant : Meant log t before) :
    Meant (log ++ [deed]) t (deed.next t before) := by
  by_cases about : deed.subject = t
  · subst about
    rw [next_self]
    have keeps : (∀ t, deed ≠ .obtain t) → before = .unknown →
        Meant (log ++ [deed]) deed.subject .unknown := by
      rintro use rfl member
      rcases List.mem_append.mp member with old | new
      · exact meant old
      · exact use _ (List.mem_singleton.mp new).symm
    cases deed with
    | obtain t =>
        cases before with
        | unknown => exact ⟨log, [], rfl, meant, by simp⟩
        | _ => trivial
    | use t =>
        cases before with
        | unknown => exact keeps (by simp) rfl
        | held => exact Held.snoc meant fun _ => rfl
        | _ => trivial
    | close t =>
        cases before with
        | unknown => exact keeps (by simp) rfl
        | held => exact Held.close meant
        | _ => trivial
  · rw [next_other about]
    exact meant_other meant about

theorem meant_stage (log : List (Deed τ)) (t : τ) : Meant log t (stage log t) := by
  induction log using List.reverseRecOn with
  | nil => exact List.not_mem_nil
  | append_singleton log deed ih =>
      rw [stage_snoc]
      exact meant_next ih

end Stages

section Exactly
variable {log log' : List (Deed τ)} {t : τ}

theorem stage_append (log log' : List (Deed τ)) (t : τ) :
    stage (log ++ log') t = log'.foldl (Deed.next t) (stage log t) := List.foldl_append

/-- What no deed changes stays as it is. -/
theorem foldl_next {before : Stage} (steady : ∀ deed ∈ log, deed.next t before = before) :
    log.foldl (Deed.next t) before = before := by
  induction log with
  | nil => rfl
  | cons deed log ih =>
      rw [List.foldl_cons, steady deed List.mem_cons_self]
      exact ih fun deed' member => steady deed' (List.mem_cons_of_mem deed member)

theorem stage_unobtained (never : .obtain t ∉ log) : stage log t = .unknown := by
  refine foldl_next fun deed member => ?_
  by_cases about : deed.subject = t
  · subst about
    rw [next_self]
    cases deed with
    | obtain t => exact absurd member never
    | use t => rfl
    | close t => rfl
  · exact next_other about

theorem Released.stage (released : Released log t) : stage log t = .closed := by
  obtain ⟨before, during, after, rfl, first, uses, rest⟩ := released
  have held : Resources.stage (before ++ [.obtain t]) t = .held := by
    rw [stage_snoc, stage_unobtained first]
    exact if_pos rfl
  have used : during.foldl (Deed.next t) .held = .held := by
    refine foldl_next fun deed member => ?_
    by_cases about : deed.subject = t
    · rw [uses deed member about]
      exact if_pos rfl
    · exact next_other about
  have closed : after.foldl (Deed.next t) .closed = .closed :=
    foldl_next fun deed member => next_other (rest deed member)
  rw [List.append_cons, stage_append, held, List.foldl_append, used, List.foldl_cons]
  rw [show Deed.next t .held (.close t) = .closed from if_pos rfl, closed]

/-- The stages decide whether a ledger is in order. -/
theorem accounted_iff : Accounted log ↔ ∀ t, stage log t = .unknown ∨ stage log t = .closed := by
  constructor
  · intro accounted t
    by_cases obtained : .obtain t ∈ log
    · exact .inr (accounted t obtained).stage
    · exact .inl (stage_unobtained obtained)
  · intro each t obtained
    have meant := meant_stage log t
    rcases each t with unknown | closed
    · rw [unknown] at meant
      exact absurd obtained meant
    · rw [closed] at meant
      exact meant

/-- What was misused once is never in order again. -/
theorem misused_append (misused : stage log t = .misused) : stage (log ++ log') t = .misused := by
  rw [stage_append, misused]
  refine foldl_next fun deed _ => ?_
  by_cases about : deed.subject = t
  · subst about
    rw [next_self]
    cases deed <;> rfl
  · exact next_other about

theorem not_accounted (misused : stage log t = .misused) : ¬Accounted log := by
  intro accounted
  rcases accounted_iff.mp accounted t with unknown | closed
  · cases misused.symm.trans unknown
  · cases misused.symm.trans closed

end Exactly

theorem close_mem_of_closed {log : List (Deed τ)} {t : τ} (closed : stage log t = .closed) :
    .close t ∈ log := by
  have meant := meant_stage log t
  rw [closed] at meant
  exact meant.close_mem

/-- Exactly the resources in `held` are held, and no other was misused. -/
structure Books (held : Set τ) (log : List (Deed τ)) : Prop where
  own : ∀ t ∈ held, stage log t = .held
  other : ∀ t ∉ held, stage log t = .unknown ∨ stage log t = .closed

namespace Books
variable {held : Set τ} {log : List (Deed τ)} {t : τ}

theorem nil : Books ∅ ([] : List (Deed τ)) := ⟨by simp, fun _ _ => .inl rfl⟩

/-- With nothing held any more everything is accounted for. -/
theorem accounted (books : Books ∅ log) : Accounted log :=
  accounted_iff.mpr fun t => books.other t id

/-- A deed about `t` that takes the stage of `t` to where `held'` has it. -/
theorem snoc (books : Books held log) {held' : Set τ} {deed : Deed τ}
    (same : ∀ t, t ≠ deed.subject → (t ∈ held' ↔ t ∈ held))
    (now : (deed.subject ∈ held' → deed.advance (stage log deed.subject) = .held) ∧
      (deed.subject ∉ held' → deed.advance (stage log deed.subject) = .unknown ∨
        deed.advance (stage log deed.subject) = .closed)) : Books held' (log ++ [deed]) := by
  constructor
  · intro t member
    by_cases about : t = deed.subject
    · subst about
      rw [stage_snoc, next_self]
      exact now.1 member
    · rw [stage_other (Ne.symm about)]
      exact books.own t ((same t about).mp member)
  · intro t absent
    by_cases about : t = deed.subject
    · subst about
      rw [stage_snoc, next_self]
      exact now.2 absent
    · rw [stage_other (Ne.symm about)]
      exact books.other t (mt (same t about).mpr absent)

theorem obtain (books : Books held log) (unknown : stage log t = .unknown) :
    Books (insert t held) (log ++ [.obtain t]) := by
  refine books.snoc (fun t' other => Set.mem_insert_iff.trans (or_iff_right other))
    ⟨fun _ => ?_, fun absent => ?_⟩
  · simp [Deed.advance, Deed.subject, unknown]
  · exact absurd (Set.mem_insert t held) absent

theorem use (books : Books held log) (own : t ∈ held) : Books held (log ++ [.use t]) := by
  refine books.snoc (fun _ _ => Iff.rfl) ⟨fun _ => ?_, fun absent => absurd own absent⟩
  simp [Deed.advance, Deed.subject, books.own t own]

/-- A number that was never obtained may be used. -/
theorem use_unknown (books : Books held log) (unknown : stage log t = .unknown) :
    Books held (log ++ [.use t]) := by
  refine books.snoc (fun _ _ => Iff.rfl) ⟨fun own => ?_, fun _ => .inl ?_⟩
  · exact absurd (books.own t own) (by rw [unknown]; decide)
  · simp [Deed.advance, Deed.subject, unknown]

theorem close (books : Books held log) (own : t ∈ held) :
    Books (held \ {t}) (log ++ [.close t]) := by
  refine books.snoc (fun t' other => ?_) ⟨fun kept => absurd rfl kept.2, fun _ => .inr ?_⟩
  · exact and_iff_left other
  · simp [Deed.advance, Deed.subject, books.own t own]

end Books
end Resources

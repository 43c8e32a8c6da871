import Mathlib.Logic.Function.Basic
import Spsw.Interaction.Weakest

/-!
# Programs that share an environment

Any number of programs take turns, each with requests of its own kind. A request is
answered from a shared state, which the answer may change, and every program has its own
record of what it was told. What
the calculus proves of a program alone holds of its record in every interleaving; an
invariant of the shared state and the records needs one lemma about a single event.
-/
namespace Interaction
open Program

variable {ι : Type} [DecidableEq ι] {S : ι → Signature} {α : ι → Type} {σ : Type}

/-- The shared state, and of each program what is left of it and what it was told. -/
structure Interleaved (ι : Type) (S : ι → Signature) (α : ι → Type) (σ : Type) where
  shared : σ
  thread : (i : ι) → Program (S i) (α i)
  record : (i : ι) → History (S i)

namespace Interleaved

/-- Which programs run, and how the environment answers them. -/
structure System (ι : Type) (S : ι → Signature) (α : ι → Type) (σ : Type) where
  initial : σ
  program : (i : ι) → Program (S i) (α i)
  answers : σ → (i : ι) → Event (S i) → σ → Prop

/-- An answer that one of the programs gets. -/
abbrev Label (S : ι → Signature) := (i : ι) × Event (S i)

def start (system : System ι S α σ) : Interleaved ι S α σ :=
  ⟨system.initial, system.program, fun _ => []⟩

/-- What a step is: an unrolling of a loop, or an answer to a program. -/
inductive Step (system : System ι S α σ) :
    Interleaved ι S α σ → Option (Label S) → Interleaved ι S α σ → Prop
  | silent {s : Interleaved ι S α σ} (i : ι) {q : Program (S i) (α i)}
      (step : Program.Step (s.thread i) none q) :
      Step system s none { s with thread := Function.update s.thread i q }
  | event {s : Interleaved ι S α σ} (i : ι) {ev : Event (S i)}
      {q : Program (S i) (α i)} {shared : σ} (step : Program.Step (s.thread i) (some ev) q)
      (answer : system.answers s.shared i ev shared) :
      Step system s (some ⟨i, ev⟩)
        ⟨shared, Function.update s.thread i q, Function.update s.record i (s.record i ++ [ev])⟩

/-- A run whose steps all meet `ok`, from the start. -/
inductive Reached (system : System ι S α σ) (ok : Interleaved ι S α σ → Option (Label S) → Prop) :
    Interleaved ι S α σ → Prop
  | start : Reached system ok (start system)
  | step {s t : Interleaved ι S α σ} {l : Option (Label S)}
      (reached : Reached system ok s) (meets : ok s l) (step : Step system s l t) :
      Reached system ok t

section Runs
variable {system : System ι S α σ} {ok : Interleaved ι S α σ → Option (Label S) → Prop}
  {s t : Interleaved ι S α σ}

/-- A program that asks is answered. -/
theorem Reached.ask (reached : Reached system ok s) {i : ι} {e : (S i).Request}
    {k : (S i).Answer e → Program (S i) (α i)} (pending : s.thread i = .ask e k)
    (r : (S i).Answer e) {shared : σ} (answer : system.answers s.shared i ⟨e, r⟩ shared)
      (meets : ok s (some ⟨i, ⟨e, r⟩⟩)) : Reached system ok ⟨shared,
      Function.update s.thread i (k r), Function.update s.record i (s.record i ++ [⟨e, r⟩])⟩ :=
  reached.step meets (.event i (pending ▸ .ask e k r) answer)

theorem run_snoc {T : Signature} {β : Type} {p q r : Program T β} {h : History T}
    {l : Option (Event T)} (run : Run p h q) (step : Program.Step q l r) :
    Run p (h ++ l.toList) r := by
  apply run.trans
  cases l with
  | none => exact .silent step (.refl r)
  | some ev => exact .event step (.refl r)

/-- Each program has come to where it is by what it was told. -/
theorem Reached.run (reached : Reached system ok s) (i : ι) :
    Run (system.program i) (s.record i) (s.thread i) := by
  induction reached with
  | start => exact .refl _
  | @step s t l _ _ step ih =>
      cases step with
      | silent j step =>
          by_cases same : i = j
          · subst same
            simpa using run_snoc ih step
          · simpa [same] using ih
      | event j step answer =>
          by_cases same : i = j
          · subst same
            simpa using run_snoc ih step
          · simpa [same] using ih

section Laws
variable {I : (i : ι) → History (S i) → Prop} {post : (i : ι) → History (S i) → α i → Prop}

/-- The law of a program holds of its record, and of that with any answer it may get next. -/
theorem Reached.law (laws : ∀ i, wp (I i) [] (system.program i) (post i))
    (reached : Reached system ok s) {i : ι} {e : (S i).Request}
    {k : (S i).Answer e → Program (S i) (α i)} (pending : s.thread i = .ask e k)
    (r : (S i).Answer e) :
    I i (s.record i ++ [⟨e, r⟩]) := by
  have run := reached.run i
  rw [pending] at run
  have after := laws i _ _ (run_snoc run (.ask e k r))
  exact after.1 (by simp)

theorem Reached.returned (laws : ∀ i, wp (I i) [] (system.program i) (post i))
    (reached : Reached system ok s) {i : ι} {a : α i} (done : s.thread i = .pure a) :
    post i (s.record i) a := by
  have run := reached.run i
  rw [done] at run
  exact (laws i _ _ run).2 a rfl

/-- The invariant rule: one event of one program, which the law of the program allows,
keeps what is said of the shared state and the records. -/
theorem Reached.invariant (laws : ∀ i, wp (I i) [] (system.program i) (post i))
    (reached : Reached system ok s) (Inv : σ → ((i : ι) → History (S i)) → Prop)
    (initial : Inv system.initial (fun _ => []))
    (keep : ∀ s i ev shared, Reached system ok s → Inv s.shared s.record → ok s (some ⟨i, ev⟩) →
      I i (s.record i ++ [ev]) → system.answers s.shared i ev shared →
      Inv shared (Function.update s.record i (s.record i ++ [ev]))) :
    Inv s.shared s.record := by
  induction reached with
  | start => exact initial
  | @step s t l reached meets step ih =>
      cases step with
      | silent i step => exact ih
      | @event i ev q shared step answer =>
          refine keep s i ev shared reached ih meets ?_ answer
          have after := laws i _ _ (run_snoc (reached.run i) step)
          exact after.1 (by simp)

end Laws
end Runs
end Interleaved
end Interaction

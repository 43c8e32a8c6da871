import Mathlib.Data.List.Basic

/-!
# Codes whose introducer is not escaped

A symbol is written as itself, or as another one behind an introducer. Where the
introducer is written as itself, a text may be read in two ways, and a delimiter in it
may be taken for the end of the text or the end for a part of it.
-/
namespace Escaping

/-- `behind a` is what is written behind the introducer for `a`. -/
structure Code (α : Type*) where
  introducer : α
  behind : α → Option α
  bare : behind introducer = none
  apart : ∀ a, behind a ≠ some introducer
  injective : ∀ {a a' c}, behind a = some c → behind a' = some c → a = a'

namespace Code
variable {α : Type*} (k : Code α)

def token (a : α) : List α :=
  match k.behind a with
  | some c => [k.introducer, c]
  | none => [a]

def text (x : List α) : List α := x.flatMap k.token

/-- `c` is written for itself, and behind the introducer for another symbol. -/
def Doubtful (c : α) : Prop := k.behind c = none ∧ ∃ a, k.behind a = some c

/-- No symbol, and no introducer with a symbol behind it, is written as the other would be. -/
def Clear : List α → Prop
  | [] => True
  | a :: x => (∀ c, k.behind a = some c → ¬k.Doubtful c) ∧
      (a = k.introducer → ∀ c ∈ x.head?, ¬k.Doubtful c) ∧ Clear x

section Texts
variable {k} {a c q : α} {x y t : List α}

theorem token_some (escaped : k.behind a = some c) : k.token a = [k.introducer, c] := by
  rw [token, escaped]

theorem token_none (plain : k.behind a = none) : k.token a = [a] := by
  rw [token, plain]

theorem text_cons (a : α) (x : List α) : k.text (a :: x) = k.token a ++ k.text x :=
  List.flatMap_cons

theorem text_some (escaped : k.behind a = some c) (x : List α) :
    k.text (a :: x) = k.introducer :: c :: k.text x := by
  rw [text_cons, token_some escaped]
  rfl

theorem text_none (plain : k.behind a = none) (x : List α) : k.text (a :: x) = a :: k.text x := by
  rw [text_cons, token_none plain]
  rfl

theorem text_bare (x : List α) : k.text (k.introducer :: x) = k.introducer :: k.text x :=
  text_none k.bare x

/-- A text that begins with another symbol than the introducer begins with that
symbol for itself. -/
theorem text_other (spelt : k.text x = c :: t) (other : c ≠ k.introducer) :
    ∃ x', x = c :: x' ∧ k.behind c = none ∧ k.text x' = t := by
  cases x with
  | nil => cases spelt
  | cons a x =>
      cases escaped : k.behind a with
      | some d =>
          rw [text_some escaped] at spelt
          exact absurd (List.cons.inj spelt).1.symm other
      | none =>
          rw [text_none escaped] at spelt
          obtain ⟨rfl, rest⟩ := List.cons.inj spelt
          exact ⟨x, rfl, escaped, rest⟩

theorem text_nil (none : k.text x = []) : x = [] := by
  cases x with
  | nil => rfl
  | cons a x =>
      cases escaped : k.behind a with
      | some c =>
          rw [text_some escaped] at none
          cases none
      | none =>
          rw [text_none escaped] at none
          cases none

theorem behind_ne (escaped : k.behind a = some c) : c ≠ k.introducer := by
  rintro rfl
  exact k.apart a escaped

theorem determined_of_clear (clear : k.Clear x) (same : k.text y = k.text x) : y = x := by
  induction x generalizing y with
  | nil => exact text_nil same
  | cons a x ih =>
      obtain ⟨written, behind, rest⟩ := clear
      cases y with
      | nil => exact (text_nil same.symm).symm
      | cons d y =>
          cases escapedA : k.behind a with
          | some c =>
              cases escapedD : k.behind d with
              | some c' =>
                  rw [text_some escapedA, text_some escapedD] at same
                  obtain ⟨rfl, tails⟩ := List.cons.inj (List.cons.inj same).2
                  rw [k.injective escapedD escapedA, ih rest tails]
              | none =>
                  rw [text_some escapedA, text_none escapedD] at same
                  obtain ⟨y', -, plain, -⟩ := text_other (List.cons.inj same).2 (behind_ne escapedA)
                  exact absurd ⟨plain, a, escapedA⟩ (written c escapedA)
          | none =>
              cases escapedD : k.behind d with
              | some c' =>
                  rw [text_none escapedA, text_some escapedD] at same
                  obtain ⟨heads, tails⟩ := List.cons.inj same
                  obtain ⟨x', rfl, plain, -⟩ := text_other tails.symm (behind_ne escapedD)
                  exact absurd ⟨plain, d, escapedD⟩ (behind heads.symm c' rfl)
              | none =>
                  rw [text_none escapedA, text_none escapedD] at same
                  obtain ⟨rfl, tails⟩ := List.cons.inj same
                  rw [ih rest tails]

theorem clear_of_determined (determined : ∀ y, k.text y = k.text x → y = x) : k.Clear x := by
  induction x with
  | nil => trivial
  | cons a x ih =>
      refine ⟨?_, ?_, ih ?_⟩
      · rintro c escaped ⟨plain, -⟩
        have other := determined (k.introducer :: c :: x) (by
          rw [text_bare, text_none plain, text_some escaped])
        exact absurd (congrArg List.length other) (by simp)
      · rintro rfl c front ⟨plain, b, escaped⟩
        obtain ⟨x', rfl⟩ : ∃ x', x = c :: x' := List.head?_eq_some_iff.mp front
        have other := determined (b :: x') (by
          rw [text_bare, text_none plain, text_some escaped])
        exact absurd (congrArg List.length other) (by simp)
      · intro y same
        have whole := determined (a :: y) (by rw [text_cons, text_cons, same])
        exact (List.cons.inj whole).2

/-- A text has one reading exactly if it is clear. -/
theorem determined_iff : (∀ y, k.text y = k.text x → y = x) ↔ k.Clear x :=
  ⟨clear_of_determined, fun clear _ => determined_of_clear clear⟩

end Texts

section Scanning
variable [DecidableEq α]

/-- Where the first `q` stands that is not escaped; at the start an introducer may be `pending`. -/
def firstUnescaped (q : α) : Bool → List α → Option ℕ
  | _, [] => none
  | true, _ :: rest => (firstUnescaped q false rest).map (· + 1)
  | false, a :: rest =>
      if a = q then some 0 else (firstUnescaped q (decide (a = k.introducer)) rest).map (· + 1)

/-- No `q`, nor the end, is behind an odd number of introducers, the `pending` one included. -/
def Paired (q : α) : Bool → List α → Prop
  | pending, [] => pending = false
  | pending, a :: x =>
      (a = q → pending = false) ∧ Paired q (decide (a = k.introducer) && !pending) x

variable {k} {q : α}

theorem map_succ_iff {o : Option ℕ} {n : ℕ} : o.map (· + 1) = some (n + 1) ↔ o = some n := by
  cases o with
  | none => simp
  | some m => simp

/-- Behind a text the closing `q` is the first that is not escaped, exactly if
the text is paired. -/
theorem firstUnescaped_iff (quoted : k.behind q = some q) (pending : Bool) (x rest : List α) :
    k.firstUnescaped q pending (k.text x ++ q :: rest) = some (k.text x).length ↔
      k.Paired q pending x := by
  have other : q ≠ k.introducer := behind_ne quoted
  induction x generalizing pending with
  | nil =>
      cases pending with
      | false => simp [text, firstUnescaped, Paired]
      | true =>
          cases found : k.firstUnescaped q false rest <;> simp [text, firstUnescaped, Paired, found]
  | cons a x ih =>
      cases escaped : k.behind a with
      | none =>
          have plain : a ≠ q := by
            rintro rfl
            cases escaped.symm.trans quoted
          rw [text_none escaped, List.cons_append, List.length_cons]
          cases pending with
          | false =>
              rw [firstUnescaped, if_neg plain, map_succ_iff]
              apply (ih _).trans
              simp [Paired, plain]
          | true =>
              rw [firstUnescaped, map_succ_iff]
              apply (ih _).trans
              simp [Paired, plain]
      | some c =>
          have letter : a ≠ k.introducer := by
            rintro rfl
            cases escaped.symm.trans k.bare
          have quote : a = q ↔ c = q := by
            constructor
            · rintro rfl
              exact (Option.some.inj (escaped.symm.trans quoted))
            · rintro rfl
              exact k.injective escaped quoted
          rw [text_some escaped, List.cons_append, List.cons_append,
            List.length_cons, List.length_cons]
          cases pending with
          | false =>
              rw [firstUnescaped, if_neg other.symm, map_succ_iff, decide_eq_true rfl,
                firstUnescaped, map_succ_iff]
              apply (ih _).trans
              simp [Paired, letter]
          | true =>
              rw [firstUnescaped, map_succ_iff, firstUnescaped]
              by_cases same : c = q
              · rw [if_pos same]
                simp [Paired, quote, same]
              · rw [if_neg same, map_succ_iff, decide_eq_false (behind_ne escaped)]
                apply (ih _).trans
                simp [Paired, quote, same]

end Scanning
end Code
end Escaping

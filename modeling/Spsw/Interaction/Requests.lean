import Spsw.Interaction.Method

/-!
# The requests a method makes

A bound on what a method asks for, whatever it is answered.
-/
namespace Interaction.Method
open Program

variable {S : Signature} {σ ε α β : Type} {P : S.Request → Prop}

/-- Every request in the history is one of `P`. -/
def Within (P : S.Request → Prop) (h : History S) : Prop := ∀ ev ∈ h, P ev.1

/-- The method makes no request but those of `P`. -/
def Only (P : S.Request → Prop) (m : Method S σ ε α) : Prop :=
  ∀ h s, Within P h → mwp (Within P) h s m (fun h' _ _ => Within P h')

theorem within_nil : Within P ([] : History S) := fun _ member => absurd member List.not_mem_nil

theorem Within.snoc {h : History S} (within : Within P h) {e : S.Request}
    (own : P e) (r : S.Answer e) :
    Within P (h ++ [⟨e, r⟩]) := by
  intro ev member
  rcases List.mem_append.mp member with old | new
  · exact within ev old
  · rw [List.mem_singleton.mp new]
    exact own

theorem Within.last {h : History S} {ev : Event S} (within : Within P (h ++ [ev])) : P ev.1 :=
  within ev (List.mem_append_right h (List.mem_singleton_self ev))

namespace Only

theorem pure (a : α) : Only P (Pure.pure a : Method S σ ε α) :=
  fun _ _ within => mwp_pure.mpr within

theorem raise (e : ε) : Only P (Method.raise e : Method S σ ε α) :=
  fun _ _ within => mwp_raise.mpr within

theorem locals : Only P (Method.locals : Method S σ ε σ) := fun _ _ within => mwp_locals.mpr within

theorem assign (f : σ → σ) : Only P (Method.assign f : Method S σ ε Unit) :=
  fun _ _ within => mwp_assign.mpr within

theorem request {e : S.Request} {out : S.Answer e → α} (own : P e) :
    Only P (Method.request e out : Method S σ ε α) :=
  fun _ _ within => mwp_request.mpr fun r => ⟨within.snoc own r, within.snoc own r⟩

theorem bind {m : Method S σ ε β} {f : β → Method S σ ε α} (first : Only P m)
    (rest : ∀ b, Only P (f b)) :
    Only P (m >>= f) := by
  intro h s within
  apply mwp_seq (first h s within)
  · exact fun _ _ _ within => within
  intro h' s' b within
  exact rest b h' s' within

theorem ite {c : Prop} [Decidable c] {m m' : Method S σ ε α} (yes : Only P m) (no : Only P m') :
    Only P (if c then m else m') := by
  split
  · exact yes
  · exact no

theorem tryFinally {m : Method S σ ε α} {fin : Method S σ ε Unit}
    (body : Only P m) (last : Only P fin) :
    Only P (Method.tryFinally m fin) := by
  intro h s within
  apply mwp_tryFinally
  apply mwp_mono (body h s within)
  intro h' s' x within'
  apply mwp_mono (last h' s' within')
  intro h'' s'' y within''
  cases y with
  | ok => exact within''
  | error => exact within''

end Only
end Interaction.Method

import Spsw.Interaction.Method

/-!
# What a method does that counts

Of all requests of a method, and their answers, only some count. `Does` says of every
run of a method, whatever its variables are, what it has done that counts and how it ends.
-/
namespace Interaction.Method
open Program

variable {S : Signature} {σ ε α β δ : Type} (counts : Event S → Option δ)

def counted (h : History S) : List δ := h.filterMap counts

/-- What a run does that counts is with its outcome as `post` says. -/
def Does (m : Method S σ ε α) (post : List δ → Except ε α → Prop) : Prop :=
  ∀ h s, mwp (fun _ => True) h s m fun h' _ x =>
    ∃ done, counted counts h' = counted counts h ++ done ∧ post done x

/-- Nothing that counts. -/
def Idle (m : Method S σ ε α) : Prop := Does counts m fun done _ => done = []

section Rules
variable {counts} {m : Method S σ ε α} {post : List δ → Except ε α → Prop}

theorem counted_append (h h' : History S) :
    counted counts (h ++ h') = counted counts h ++ counted counts h' :=
  List.filterMap_append

theorem Does.mono {post' : List δ → Except ε α → Prop} (does : Does counts m post)
    (weaker : ∀ done x, post done x → post' done x) : Does counts m post' := by
  intro h s
  apply mwp_mono (does h s)
  rintro h' s' x ⟨done, same, holds⟩
  exact ⟨done, same, weaker done x holds⟩

theorem does_pure {a : α} (here : post [] (.ok a)) :
    Does counts (Pure.pure a : Method S σ ε α) post :=
  fun _ _ => mwp_pure.mpr ⟨[], (List.append_nil _).symm, here⟩

theorem does_raise {e : ε} (here : post [] (.error e)) :
    Does counts (raise e : Method S σ ε α) post :=
  fun _ _ => mwp_raise.mpr ⟨[], (List.append_nil _).symm, here⟩

theorem does_locals {post : List δ → Except ε σ → Prop} (here : ∀ s, post [] (.ok s)) :
    Does counts (locals : Method S σ ε σ) post :=
  fun _ s => mwp_locals.mpr ⟨[], (List.append_nil _).symm, here s⟩

theorem does_assign {f : σ → σ} {post : List δ → Except ε Unit → Prop} (here : post [] (.ok ())) :
    Does counts (assign f : Method S σ ε Unit) post :=
  fun _ _ => mwp_assign.mpr ⟨[], (List.append_nil _).symm, here⟩

theorem does_request {e : S.Request} {out : S.Answer e → α}
    (each : ∀ r, post (counts ⟨e, r⟩).toList (.ok (out r))) :
    Does counts (request e out : Method S σ ε α) post := by
  refine fun h s => mwp_request.mpr fun r => ⟨trivial, (counts ⟨e, r⟩).toList, ?_, each r⟩
  rw [counted_append]
  congr 1

theorem does_bind {m : Method S σ ε β} {f : β → Method S σ ε α} {mid : List δ → Except ε β → Prop}
    (first : Does counts m mid) (thrown : ∀ done e, mid done (.error e) → post done (.error e))
    (next : ∀ done b, mid done (.ok b) → Does counts (f b) fun done' x => post (done ++ done') x) :
    Does counts (m >>= f) post := by
  intro h s
  apply mwp_seq (first h s)
  · rintro h' s' e ⟨done, same, holds⟩
    exact ⟨done, same, thrown done e holds⟩
  rintro h' s' b ⟨done, same, holds⟩
  refine mwp_mono (next done b holds h' s') ?_
  rintro h'' s'' x ⟨done', same', holds'⟩
  exact ⟨done ++ done', by rw [same', same, List.append_assoc], holds'⟩

theorem does_request_bind {e : S.Request} {out : S.Answer e → β} {f : β → Method S σ ε α}
    (each : ∀ r, Does counts (f (out r)) fun done x => post ((counts ⟨e, r⟩).toList ++ done) x) :
    Does counts (request e out >>= f) post := by
  have asked : Does counts (request e out : Method S σ ε β) fun done y =>
      ∃ r, done = (counts ⟨e, r⟩).toList ∧ y = .ok (out r) := does_request fun r => ⟨r, rfl, rfl⟩
  refine does_bind asked ?_ ?_
  · rintro _ e ⟨_, _, impossible⟩
    cases impossible
  · rintro _ _ ⟨r, rfl, same⟩
    cases same
    exact each r

theorem does_tryFinally {fin : Method S σ ε Unit} (body : Does counts m post)
    (last : Idle counts fin) (replaced : ∀ done x e, post done x → post done (.error e)) :
    Does counts (tryFinally m fin) post := by
  intro h s
  apply mwp_tryFinally
  refine mwp_mono (body h s) ?_
  rintro h' s' x ⟨done, same, holds⟩
  refine mwp_mono (last h' s') ?_
  rintro h'' s'' y ⟨none, same', rfl⟩
  have unchanged : counted counts h'' = counted counts h ++ done := by
    rw [same', same, List.append_nil]
  cases y with
  | ok u => exact ⟨done, unchanged, holds⟩
  | error e => exact ⟨done, unchanged, replaced done x e holds⟩

theorem does_tryCatch {handler : ε → Method S σ ε α} {body : List δ → Except ε α → Prop}
    (does : Does counts m body) (returned : ∀ done a, body done (.ok a) → post done (.ok a))
    (handled : ∀ done e, body done (.error e) → Does counts (handler e) fun done' x =>
    post (done ++ done') x) :
    Does counts (tryCatch m handler) post := by
  intro h s
  apply mwp_tryCatch
  refine mwp_mono (does h s) ?_
  rintro h' s' x ⟨done, same, holds⟩
  cases x with
  | ok a => exact ⟨done, same, returned done a holds⟩
  | error e =>
      refine caught_error.mpr (mwp_mono (handled done e holds h' s') ?_)
      rintro h'' s'' x ⟨done', same', holds'⟩
      exact ⟨done ++ done', by rw [same', same, List.append_assoc], holds'⟩

theorem Idle.bind {m : Method S σ ε β} {f : β → Method S σ ε α} (first : Idle counts m)
    (rest : ∀ b, Idle counts (f b)) :
    Idle counts (m >>= f) := by
  refine does_bind first (fun _ _ none => none) ?_
  rintro _ b rfl
  exact rest b

/-- A method that does nothing that counts before another one. -/
theorem does_after {m : Method S σ ε β} {f : β → Method S σ ε α} (first : Idle counts m)
    (thrown : ∀ e, post [] (.error e)) (next : ∀ b, Does counts (f b) post) :
    Does counts (m >>= f) post := by
  refine does_bind first ?_ ?_
  · rintro _ e rfl
    exact thrown e
  · rintro _ b rfl
    exact next b

/-- What a run has done that counts. -/
theorem Does.returns (does : Does counts m post) {s s' : σ} {h : History S} {x : Except ε α}
    (returns : Returns (m s) h (x, s')) : post (counted counts h) x := by
  obtain ⟨done, same, holds⟩ := (does [] s h _ returns).2 _ rfl
  rw [List.nil_append] at same
  rw [same]
  exact holds

end Rules
end Interaction.Method

import Spsw.Interaction.Weakest

/-!
# Methods: local variables and exceptions over programs

A method body works on its local variables `σ` and either returns or throws.
The variables survive a throw, so a `finally` block and the caller see what the
body had done until then.
-/
namespace Interaction
open Program

def Method (S : Signature) (σ ε α : Type) : Type 1 := σ → Program S (Except ε α × σ)

namespace Method
variable {S : Signature} {σ ε α β τ : Type}

def pure (a : α) : Method S σ ε α := fun s => .pure (.ok a, s)

def raise (e : ε) : Method S σ ε α := fun s => .pure (.error e, s)

/-- Goes on with `f` after a normal return and leaves an exception alone. -/
def andThen (f : α → Method S σ ε β) : Except ε α × σ → Program S (Except ε β × σ)
  | (.ok a, s) => f a s
  | (.error e, s) => .pure (.error e, s)

def bind (m : Method S σ ε α) (f : α → Method S σ ε β) : Method S σ ε β :=
  fun s => Program.bind (m s) (andThen f)

instance : Monad (Method S σ ε) where
  pure := Method.pure
  bind := Method.bind

def locals : Method S σ ε σ := fun s => .pure (.ok s, s)

def assign (f : σ → σ) : Method S σ ε Unit := fun s => .pure (.ok (), f s)

/-- Makes a request and returns what `out` reads off the answer. -/
def request (e : S.Request) (out : S.Answer e → α) : Method S σ ε α :=
  fun s => .ask e (fun r => .pure (.ok (out r), s))

/-- `try body finally fin`: an exception of `fin` replaces the body's outcome. -/
def tryFinally (body : Method S σ ε α) (fin : Method S σ ε Unit) : Method S σ ε α :=
  fun s => Program.bind (body s) (fun x =>
    Program.bind (fin x.2) (fun y => match y with
      | (.ok _, s') => .pure (x.1, s')
      | (.error e, s') => .pure (.error e, s')))

def tryCatch (body : Method S σ ε α) (handler : ε → Method S σ ε α) : Method S σ ε α :=
  fun s => Program.bind (body s) (fun x => match x with
    | (.ok a, s') => .pure (.ok a, s')
    | (.error e, s') => handler e s')

/-- One round of a method loop, as a round of a program loop. -/
def round (body : τ → Method S σ ε (τ ⊕ α)) (x : τ × σ) :
    Program S ((τ × σ) ⊕ (Except ε α × σ)) :=
  Program.bind (body x.1 x.2) (fun y => match y with
    | (.ok (.inl t), s) => .pure (.inl (t, s))
    | (.ok (.inr a), s) => .pure (.inr (.ok a, s))
    | (.error e, s) => .pure (.inr (.error e, s)))

/-- Repeats `body` until it returns on the right or throws. -/
def iterate (body : τ → Method S σ ε (τ ⊕ α)) (t : τ) : Method S σ ε α :=
  fun s => Program.iterate (round body) (t, s)

/-- The weakest precondition of a method started with the variables `s`. -/
def mwp (I : History S → Prop) (h : History S) (s : σ) (m : Method S σ ε α)
    (post : History S → σ → Except ε α → Prop) : Prop :=
  wp I h (m s) (fun h' x => post h' x.2 x.1)

section Rules
variable {I : History S → Prop} {h : History S} {s : σ}

@[simp] theorem mwp_pure {a : α} {post : History S → σ → Except ε α → Prop} :
    mwp I h s (Pure.pure a : Method S σ ε α) post ↔ post h s (.ok a) :=
  wp_pure

@[simp] theorem mwp_raise {e : ε} {post : History S → σ → Except ε α → Prop} :
    mwp I h s (raise e) post ↔ post h s (.error e) :=
  wp_pure

@[simp] theorem mwp_locals {post : History S → σ → Except ε σ → Prop} :
    mwp I h s locals post ↔ post h s (.ok s) :=
  wp_pure

@[simp] theorem mwp_assign {f : σ → σ} {post : History S → σ → Except ε Unit → Prop} :
    mwp I h s (assign f) post ↔ post h (f s) (.ok ()) :=
  wp_pure

@[simp] theorem mwp_request {e : S.Request} {out : S.Answer e → α}
    {post : History S → σ → Except ε α → Prop} :
    mwp I h s (request e out) post ↔
      ∀ r, I (h ++ [⟨e, r⟩]) ∧ post (h ++ [⟨e, r⟩]) s (.ok (out r)) := by
  simp only [mwp, request, wp_ask, wp_pure]

theorem mwp_mono {m : Method S σ ε α} {post post' : History S → σ → Except ε α → Prop}
    (w : mwp I h s m post) (weaker : ∀ h s x, post h s x → post' h s x) : mwp I h s m post' :=
  wp_mono w (fun h x => weaker h x.2 x.1)

theorem mwp_grows {m : Method S σ ε α} {post : History S → σ → Except ε α → Prop}
    (w : mwp I h s m post) :
    mwp I h s m (fun h' s' x => (∃ t, h' = h ++ t) ∧ post h' s' x) :=
  wp_grows w

/-- What is left to show of the rest of a sequence once its first part is over. -/
def rest (I : History S → Prop) (f : α → Method S σ ε β) (post : History S → σ → Except ε β → Prop)
    (h : History S) (s : σ) : Except ε α → Prop
  | .ok a => mwp I h s (f a) post
  | .error e => post h s (.error e)

@[simp] theorem rest_ok {f : α → Method S σ ε β}
    {post : History S → σ → Except ε β → Prop} {a : α} :
    rest I f post h s (.ok a) ↔ mwp I h s (f a) post := Iff.rfl

@[simp] theorem rest_error {f : α → Method S σ ε β}
    {post : History S → σ → Except ε β → Prop} {e : ε} :
    rest I f post h s (.error e) ↔ post h s (.error e) := Iff.rfl

@[simp] theorem mwp_bind {m : Method S σ ε α} {f : α → Method S σ ε β}
    {post : History S → σ → Except ε β → Prop} :
    mwp I h s (m >>= f) post ↔ mwp I h s m (rest I f post) := by
  change wp I h (Program.bind (m s) (andThen f)) _ ↔ _
  rw [wp_bind]
  constructor
  · intro w
    apply wp_mono w
    rintro h ⟨x, s⟩ w'
    cases x with
    | ok a => exact w'
    | error e => exact wp_pure.mp w'
  · intro w
    apply wp_mono w
    rintro h ⟨x, s⟩ w'
    cases x with
    | ok a => exact w'
    | error e => exact wp_pure.mpr w'

/-- The first part of a sequence by what it leaves behind, when it throws and when it returns. -/
theorem mwp_seq {m : Method S σ ε α} {f : α → Method S σ ε β}
    {mid : History S → σ → Except ε α → Prop} {post : History S → σ → Except ε β → Prop}
    (first : mwp I h s m mid) (thrown : ∀ h s e, mid h s (.error e) → post h s (.error e))
    (next : ∀ h s a, mid h s (.ok a) → mwp I h s (f a) post) : mwp I h s (m >>= f) post := by
  apply mwp_bind.mpr
  apply mwp_mono first
  intro h s x after
  cases x with
  | ok a => exact next h s a after
  | error e => exact thrown h s e after

/-- The outcome of `finally`: the body's own, unless the block itself throws. -/
def settle (post : History S → σ → Except ε α → Prop) (x : Except ε α) (h : History S) (s : σ) :
    Except ε Unit → Prop
  | .ok _ => post h s x
  | .error e => post h s (.error e)

@[simp] theorem settle_ok {post : History S → σ → Except ε α → Prop} {x : Except ε α} {u : Unit} :
    settle post x h s (.ok u) ↔ post h s x := Iff.rfl

@[simp] theorem settle_error {post : History S → σ → Except ε α → Prop} {x : Except ε α} {e : ε} :
    settle post x h s (.error e) ↔ post h s (.error e) := Iff.rfl

theorem mwp_tryFinally {body : Method S σ ε α} {fin : Method S σ ε Unit}
    {post : History S → σ → Except ε α → Prop}
    (w : mwp I h s body (fun h' s' x => mwp I h' s' fin (settle post x))) :
    mwp I h s (tryFinally body fin) post := by
  change wp I h (Program.bind (body s) _) _
  rw [wp_bind]
  apply wp_mono w
  rintro h ⟨x, s⟩ w'
  rw [wp_bind]
  apply wp_mono w'
  rintro h ⟨y, s⟩ done
  cases y with
  | ok u => exact wp_pure.mpr done
  | error e => exact wp_pure.mpr done

/-- What a `catch` owes: nothing more after a normal return, else its handler. -/
def caught (I : History S → Prop) (handler : ε → Method S σ ε α)
    (post : History S → σ → Except ε α → Prop) (h : History S) (s : σ) : Except ε α → Prop
  | .ok a => post h s (.ok a)
  | .error e => mwp I h s (handler e) post

@[simp] theorem caught_ok {handler : ε → Method S σ ε α}
    {post : History S → σ → Except ε α → Prop} {a : α} :
    caught I handler post h s (.ok a) ↔ post h s (.ok a) := Iff.rfl

@[simp] theorem caught_error {handler : ε → Method S σ ε α}
    {post : History S → σ → Except ε α → Prop} {e : ε} :
    caught I handler post h s (.error e) ↔ mwp I h s (handler e) post := Iff.rfl

theorem mwp_tryCatch {body : Method S σ ε α} {handler : ε → Method S σ ε α}
    {post : History S → σ → Except ε α → Prop} (w : mwp I h s body (caught I handler post)) :
    mwp I h s (tryCatch body handler) post := by
  change wp I h (Program.bind (body s) _) _
  rw [wp_bind]
  apply wp_mono w
  rintro h ⟨x, s⟩ w'
  cases x with
  | ok a => exact wp_pure.mpr w'
  | error e => exact w'

/-- What a round of a loop owes: the invariant again, or the result. -/
def again (inv : History S → σ → τ → Prop) (post : History S → σ → Except ε α → Prop)
    (h : History S) (s : σ) : Except ε (τ ⊕ α) → Prop
  | .ok (.inl t) => inv h s t
  | .ok (.inr a) => post h s (.ok a)
  | .error e => post h s (.error e)

@[simp] theorem again_next {inv : History S → σ → τ → Prop}
    {post : History S → σ → Except ε α → Prop} {t : τ} :
    again inv post h s (.ok (.inl t)) ↔ inv h s t := Iff.rfl

@[simp] theorem again_done {inv : History S → σ → τ → Prop}
    {post : History S → σ → Except ε α → Prop} {a : α} :
    again inv post h s (.ok (.inr a)) ↔ post h s (.ok a) := Iff.rfl

@[simp] theorem again_error {inv : History S → σ → τ → Prop}
    {post : History S → σ → Except ε α → Prop} {e : ε} :
    again inv post h s (.error e) ↔ post h s (.error e) := Iff.rfl

theorem mwp_iterate {body : τ → Method S σ ε (τ ⊕ α)} {t : τ}
    {post : History S → σ → Except ε α → Prop} (inv : History S → σ → τ → Prop)
    (start : inv h s t)
    (keep : ∀ h s t, inv h s t → mwp I h s (body t) (again inv post)) :
    mwp I h s (iterate body t) post := by
  apply wp_loop (fun h x => inv h x.2 x.1) start
  rintro h ⟨t, s⟩ here
  simp only [round, wp_bind]
  apply wp_mono (keep h s t here)
  rintro h ⟨x, s⟩ done
  rcases x with e | t | a
  · simp only [wp_pure, Sum.elim_inr]
    exact done
  · exact wp_pure.mpr done
  · simp only [wp_pure, Sum.elim_inr]
    exact done

end Rules
end Method
end Interaction

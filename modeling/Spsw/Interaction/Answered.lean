import Spsw.Interaction.Interleaved
import Spsw.Interaction.Method

/-!
# A program and the state that answers it

An environment with a state of its own answers each request from that state. Of a
program alone with such an environment the calculus says what holds of the state, not of
the history; and where one of several programs alone changes the state they share, it says
so of every interleaving.
-/
namespace Interaction
open Program

variable {S : Signature} {σ α β : Type}

/-- All answers of a history, one after the other. -/
inductive Answered (answers : σ → Event S → σ → Prop) : σ → History S → σ → Prop
  | nil (w : σ) : Answered answers w [] w
  | cons {w w' w'' : σ} {ev : Event S} {h : History S} (answer : answers w ev w')
      (rest : Answered answers w' h w'') :
      Answered answers w (ev :: h) w''

section Histories
variable {answers : σ → Event S → σ → Prop} {w w' w'' : σ} {h h' : History S}

theorem Answered.append (first : Answered answers w h w') (rest : Answered answers w' h' w'') :
    Answered answers w (h ++ h') w'' := by
  induction first with
  | nil => exact rest
  | cons answer _ ih => exact .cons answer (ih rest)

theorem Answered.snoc {ev : Event S} (first : Answered answers w h w')
    (answer : answers w' ev w'') :
    Answered answers w (h ++ [ev]) w'' :=
  first.append (.cons answer (.nil w''))

theorem answered_append (answered : Answered answers w (h ++ h') w'') :
    ∃ w', Answered answers w h w' ∧ Answered answers w' h' w'' := by
  induction h generalizing w with
  | nil => exact ⟨w, .nil w, answered⟩
  | cons ev h ih =>
      cases answered with
      | cons answer rest =>
          obtain ⟨w', before, after⟩ := ih rest
          exact ⟨w', .cons answer before, after⟩

end Histories

/-- The weakest precondition on the state: `Inv` after each answer, `post` at the end. -/
def awp (answers : σ → Event S → σ → Prop) (Inv : σ → Prop) (w : σ) (p : Program S α)
    (post : σ → α → Prop) : Prop :=
  wp (fun h => ∀ w', Answered answers w h w' →
    Inv w') [] p (fun h a => ∀ w', Answered answers w h w' → post w' a)

section Rules
variable {answers : σ → Event S → σ → Prop} {Inv : σ → Prop} {w : σ}

theorem awp_mono {p : Program S α} {post post' : σ → α → Prop} (holds : awp answers Inv w p post)
    (weaker : ∀ w a, post w a → post' w a) : awp answers Inv w p post' :=
  wp_mono holds fun _ a after w' answered => weaker w' a (after w' answered)

theorem awp_pure {a : α} {post : σ → α → Prop} (here : post w a) :
    awp answers Inv w (.pure a) post := by
  refine wp_pure.mpr fun w' answered => ?_
  cases answered
  exact here

/-- What the rest needs in each state that its history may have left. -/
theorem wp_of_awp {p : Program S α} {post : σ → α → Prop} {h : History S}
    (each : ∀ w', Answered answers w h w' → awp answers Inv w' p post) :
    wp (fun h => ∀ w', Answered answers w h w' → Inv w') h p
      (fun h a => ∀ w', Answered answers w h w' → post w' a) := by
  intro t q run
  constructor
  · intro longer w'' answered
    obtain ⟨w', before, after⟩ := answered_append answered
    exact (each w' before t q run).1 longer w'' after
  · intro a done w'' answered
    obtain ⟨w', before, after⟩ := answered_append answered
    exact (each w' before t q run).2 a done w'' after

theorem awp_ask {e : S.Request} {k : S.Answer e → Program S α} {post : σ → α → Prop}
    (next : ∀ r w', answers w ⟨e, r⟩ w' → Inv w' ∧ awp answers Inv w' (k r) post) :
    awp answers Inv w (.ask e k) post := by
  refine wp_ask.mpr fun r => ⟨?_, wp_of_awp ?_⟩
  · rintro w' (_ | ⟨answer, ⟨⟩⟩)
    exact (next r _ answer).1
  · rintro w' (_ | ⟨answer, ⟨⟩⟩)
    exact (next r _ answer).2

theorem awp_bind {p : Program S α} {f : α → Program S β} {post : σ → β → Prop}
    (first : awp answers Inv w p fun w' a => awp answers Inv w' (f a) post) :
    awp answers Inv w (Program.bind p f) post :=
  wp_bind.mpr (wp_mono first fun _ _ after => wp_of_awp after)

end Rules

section Executed

/-- A run, where the state determines the answers; `none` when it has no answer, or when the
fuel is used up. -/
def execute (answer : σ → (e : S.Request) → Option (S.Answer e × σ)) :
    ℕ → σ → Program S α → Option (History S × α × σ)
  | 0, _, _ => none
  | _ + 1, w, .pure a => some ([], a, w)
  | fuel + 1, w, .ask e k => (answer w e).bind fun y =>
      (execute answer fuel y.2 (k y.1)).map fun x => (⟨e, y.1⟩ :: x.1, x.2)
  | fuel + 1, w, .loop body s k => execute answer fuel w (unroll body s k)

theorem execute_sound {answers : σ → Event S → σ → Prop}
    {answer : σ → (e : S.Request) → Option (S.Answer e × σ)}
    (lawful : ∀ w e y, answer w e = some y → answers w ⟨e, y.1⟩ y.2) (fuel : ℕ)
    {w w' : σ} {p : Program S α} {h : History S} {a : α}
    (executed : execute answer fuel w p = some (h, a, w')) :
    Returns p h a ∧ Answered answers w h w' := by
  induction fuel generalizing w p h with
  | zero => cases executed
  | succ fuel ih =>
      cases p with
      | pure b =>
          cases executed
          exact ⟨.refl _, .nil _⟩
      | ask e k =>
          obtain ⟨y, answered, executed⟩ := Option.bind_eq_some_iff.mp executed
          obtain ⟨⟨h', b, w''⟩, rest, same⟩ := Option.map_eq_some_iff.mp executed
          cases same
          obtain ⟨returns, rest⟩ := ih rest
          exact ⟨.event (.ask e k _) returns, .cons (lawful w e y answered) rest⟩
      | loop body s k => exact ⟨.silent (.loop body s k) (ih executed).1, (ih executed).2⟩

end Executed

namespace Method
variable {τ ε : Type}

/-- The weakest precondition on the state of a method started with the variables `s`. -/
def amwp (answers : σ → Event S → σ → Prop) (Inv : σ → Prop) (w : σ) (s : τ) (m : Method S τ ε α)
    (post : σ → τ → Except ε α → Prop) : Prop :=
  awp answers Inv w (m s) fun w' x => post w' x.2 x.1

section Rules
variable {answers : σ → Event S → σ → Prop} {Inv : σ → Prop} {w : σ} {s : τ}

theorem amwp_mono {m : Method S τ ε α} {post post' : σ → τ → Except ε α → Prop}
    (holds : amwp answers Inv w s m post) (weaker : ∀ w s x, post w s x → post' w s x) :
    amwp answers Inv w s m post' :=
  awp_mono holds fun w x => weaker w x.2 x.1

theorem amwp_pure {a : α} {post : σ → τ → Except ε α → Prop} (here : post w s (.ok a)) :
    amwp answers Inv w s (Pure.pure a : Method S τ ε α) post :=
  awp_pure here

theorem amwp_raise {e : ε} {post : σ → τ → Except ε α → Prop} (here : post w s (.error e)) :
    amwp answers Inv w s (raise e) post :=
  awp_pure here

theorem amwp_request {e : S.Request} {out : S.Answer e → α} {post : σ → τ → Except ε α → Prop}
    (next : ∀ r w', answers w ⟨e, r⟩ w' → Inv w' ∧ post w' s (.ok (out r))) :
    amwp answers Inv w s (request e out) post :=
  awp_ask fun r w' answer => ⟨(next r w' answer).1, awp_pure (next r w' answer).2⟩

/-- What is left of a sequence once its first part is over. -/
def arest (answers : σ → Event S → σ → Prop) (Inv : σ → Prop) (f : α → Method S τ ε β)
    (post : σ → τ → Except ε β → Prop) (w : σ) (s : τ) : Except ε α → Prop
  | .ok a => amwp answers Inv w s (f a) post
  | .error e => post w s (.error e)

theorem amwp_bind {m : Method S τ ε α} {f : α → Method S τ ε β} {post : σ → τ → Except ε β → Prop}
    (first : amwp answers Inv w s m (arest answers Inv f post)) :
    amwp answers Inv w s (m >>= f) post := by
  refine awp_bind (awp_mono first ?_)
  rintro w ⟨x, s⟩ after
  cases x with
  | ok a => exact after
  | error e => exact awp_pure after

/-- A request, and what follows it. -/
theorem amwp_request_bind {e : S.Request} {out : S.Answer e → α} {f : α → Method S τ ε β}
    {post : σ → τ → Except ε β → Prop}
    (next : ∀ r w', answers w ⟨e, r⟩ w' → Inv w' ∧ amwp answers Inv w' s (f (out r)) post) :
    amwp answers Inv w s (request e out >>= f) post :=
  amwp_bind (amwp_request next)

/-- What a `catch` owes: nothing more after a normal return, else its handler. -/
def acaught (answers : σ → Event S → σ → Prop) (Inv : σ → Prop) (handler : ε → Method S τ ε α)
    (post : σ → τ → Except ε α → Prop) (w : σ) (s : τ) : Except ε α → Prop
  | .ok a => post w s (.ok a)
  | .error e => amwp answers Inv w s (handler e) post

theorem amwp_tryCatch {m : Method S τ ε α} {handler : ε → Method S τ ε α}
    {post : σ → τ → Except ε α → Prop}
    (body : amwp answers Inv w s m (acaught answers Inv handler post)) :
    amwp answers Inv w s (tryCatch m handler) post := by
  refine awp_bind (awp_mono body ?_)
  rintro w ⟨x, s⟩ after
  cases x with
  | ok a => exact awp_pure after
  | error e => exact after

theorem amwp_returns {w' : σ} {m : Method S τ ε α}
    {post : σ → τ → Except ε α → Prop} {h : History S} {y : Except ε α × τ}
    (holds : amwp answers Inv w s m post) (returns : Returns (m s) h y)
    (answered : Answered answers w h w') : post w' y.2 y.1 :=
  (holds h _ returns).2 y rfl w' answered

/-- A method that preserves `I`, however it ends. -/
def Keeps (answers : σ → Event S → σ → Prop) (I : σ → Prop) (m : Method S τ ε α) : Prop :=
  ∀ w s, I w → amwp answers (fun _ => True) w s m fun w' _ _ => I w'

namespace Keeps
variable {I : σ → Prop}

theorem pure (a : α) : Keeps answers I (Pure.pure a : Method S τ ε α) :=
  fun _ _ here => amwp_pure here

theorem raise (e : ε) : Keeps answers I (Method.raise e : Method S τ ε α) :=
  fun _ _ here => amwp_raise here

theorem locals : Keeps answers I (Method.locals : Method S τ ε τ) := fun _ _ here => awp_pure here

theorem assign (f : τ → τ) : Keeps answers I (Method.assign f : Method S τ ε Unit) :=
  fun _ _ here => awp_pure here

theorem request {e : S.Request} {out : S.Answer e → α}
    (step : ∀ w r w', I w → answers w ⟨e, r⟩ w' → I w') :
    Keeps answers I (Method.request e out : Method S τ ε α) :=
  fun w _ here => amwp_request fun r w' answer => ⟨trivial, step w r w' here answer⟩

theorem bind {m : Method S τ ε α} {f : α → Method S τ ε β} (first : Keeps answers I m)
    (rest : ∀ a, Keeps answers I (f a)) : Keeps answers I (m >>= f) := by
  intro w s here
  apply amwp_bind
  apply amwp_mono (first w s here)
  rintro w s (e | a) after
  · exact after
  · exact rest a w s after

theorem tryFinally {m : Method S τ ε α} {fin : Method S τ ε Unit} (body : Keeps answers I m)
    (last : Keeps answers I fin) : Keeps answers I (Method.tryFinally m fin) := by
  intro w s here
  apply awp_bind
  refine awp_mono (body w s here) fun w x after => awp_bind (awp_mono (last w x.2 after) ?_)
  rintro w ⟨e | a, s⟩ after <;> exact awp_pure after

end Keeps
end Rules
end Method

namespace Interleaved
variable {ι : Type} [DecidableEq ι] {S : ι → Signature} {α : ι → Type} {system : System ι S α σ}
  {ok : Interleaved ι S α σ → Option (Label S) → Prop} {s : Interleaved ι S α σ}

/-- Where one program alone changes the shared state, that is where its own record has
brought it. -/
theorem Reached.answered (reached : Reached system ok s) (i : ι)
    (answers : σ → Event (S i) → σ → Prop) (own : ∀ s ev shared, ok s (some ⟨i, ev⟩) →
    system.answers s.shared i ev shared → answers s.shared ev shared) (others : ∀ s j ev shared,
    j ≠ i → ok s (some ⟨j, ev⟩) → system.answers s.shared j ev shared → shared = s.shared) :
    Answered answers system.initial (s.record i) s.shared := by
  induction reached with
  | start => exact .nil _
  | @step s t l _ meets step ih =>
      cases step with
      | silent j step => exact ih
      | @event j ev q shared step answer =>
          by_cases same : j = i
          · subst same
            simpa using ih.snoc (own s ev shared meets answer)
          · simpa [Ne.symm same, others s j ev shared same meets answer] using ih

/-- The same, where what the others ask for is known by their laws. -/
theorem Reached.answered_lawful {I : (i : ι) → History (S i) → Prop}
    {post : (i : ι) → History (S i) → α i → Prop}
    (laws : ∀ i, wp (I i) [] (system.program i) (post i)) (reached : Reached system ok s) (i : ι)
    (answers : σ → Event (S i) → σ → Prop)
    (own : ∀ s ev shared, ok s (some ⟨i, ev⟩) → system.answers s.shared i ev shared →
      answers s.shared ev shared)
    (others : ∀ (s : Interleaved ι S α σ) j ev shared, j ≠ i → I j (s.record j ++ [ev]) →
      system.answers s.shared j ev shared → shared = s.shared) :
    Answered answers system.initial (s.record i) s.shared := by
  apply reached.invariant laws (fun shared record =>
    Answered answers system.initial (record i) shared) (.nil _)
  intro s j ev shared _ before meets law answer
  by_cases same : j = i
  · subst same
    rw [Function.update_self]
    exact before.snoc (own s ev shared meets answer)
  · rw [Function.update_of_ne (Ne.symm same), others s j ev shared same law answer]
    exact before

end Interleaved
end Interaction

import BucketProvisioning.Reconcile.Program

/-!
# What a program ensures

A program is judged against a `World`, which keeps a state and says of every request whether the
program may make it in that state, and which replies and next states may come of it.  A program
*ensures* a postcondition from a state if it only makes requests that it may make and its result
and the last state satisfy the postcondition, whatever the replies.

There is one rule for each way to build a task, and nearly every rule is an equivalence, so that a
task is judged step by step from its beginning to its end.  `Program.Ensures.run` ties the judgement
to the running of a program.
-/

set_option autoImplicit false

namespace BucketProvisioning.Reconcile

open BucketProvisioning
open BucketProvisioning.Resource (Object)

/-- What may come of the requests of a program. -/
structure World (α σ : Type) where
  /-- Whether a request may be made in a state. -/
  allows : σ → Request α → Prop
  /-- Whether a reply and a next state may come of a request. -/
  answers : σ → (r : Request α) → r.Reply → σ → Prop

variable {α σ β γ : Type} {W : World α σ} {s : σ}

namespace Program

/-- Whatever the replies, the program makes only requests that it may make, and its result and the
last state satisfy `Q`. -/
def Ensures (W : World α σ) : Program α β → σ → (β → σ → Prop) → Prop
  | .done b, s, Q => Q b s
  | .ask r next, s, Q =>
    W.allows s r ∧ ∀ reply s', W.answers s r reply s' → (next reply).Ensures W s' Q

/-- A program that is done ensures what holds of its result. -/
@[simp] theorem ensures_done {b : β} {Q : β → σ → Prop} :
    (Program.done (α := α) b).Ensures W s Q ↔ Q b s :=
  Iff.rfl

/-- A program that makes a request must be allowed to, and goes on after every answer. -/
@[simp] theorem ensures_ask {r : Request α} {next : r.Reply → Program α β} {Q : β → σ → Prop} :
    (Program.ask r next).Ensures W s Q ↔
      W.allows s r ∧ ∀ reply s', W.answers s r reply s' → (next reply).Ensures W s' Q :=
  Iff.rfl

/-- A program that ensures something ensures whatever follows from it. -/
theorem Ensures.mono {p : Program α β} {Q Q' : β → σ → Prop} (h : p.Ensures W s Q)
    (weaker : ∀ b s', Q b s' → Q' b s') : p.Ensures W s Q' := by
  induction p generalizing s with
  | done b => exact weaker b s h
  | ask r next ih =>
    obtain ⟨allowed, later⟩ := h
    refine ⟨allowed, fun reply s' answered => ?_⟩
    exact ih reply (later reply s' answered)

/-- What a program ensures in a world it ensures in one that allows more and leaves less open. -/
theorem Ensures.allowing {W' : World α σ} {p : Program α β} {Q : β → σ → Prop}
    (h : p.Ensures W s Q) (more : ∀ s r, W.allows s r → W'.allows s r)
    (likewise : ∀ s r reply s', W'.answers s r reply s' → W.answers s r reply s') :
    p.Ensures W' s Q := by
  induction p generalizing s with
  | done b => exact h
  | ask r next ih =>
    obtain ⟨allowed, later⟩ := h
    refine ⟨more s r allowed, fun reply s' answered => ?_⟩
    exact ih reply (later reply s' (likewise s r reply s' answered))

/-- A program that goes on with the result of another starts where the other ends. -/
theorem ensures_bind {p : Program α β} {f : β → Program α γ} {Q : γ → σ → Prop} :
    (p.bind f).Ensures W s Q ↔ p.Ensures W s fun b s' => (f b).Ensures W s' Q := by
  induction p generalizing s with
  | done b => exact Iff.rfl
  | ask r next ih =>
    rw [bind, ensures_ask, ensures_ask]
    refine and_congr_right fun _ => ?_
    exact forall_congr' fun reply => forall_congr' fun s' => imp_congr_right fun _ => ih reply

/-- A program that is run against somebody who answers as the world says does what it ensures.
`view` is the part of the surroundings that the world keeps track of, and `Inv` is what has to hold
of the surroundings for the answers to be such. -/
theorem Ensures.run {τ : Type} {serve : (r : Request α) → StateM τ r.Reply} {view : τ → σ}
    {Inv : τ → Prop}
    (respects : ∀ r t, Inv t → W.allows (view t) r →
      Inv (serve r t).2 ∧ W.answers (view t) r (serve r t).1 (view (serve r t).2))
    {p : Program α β} {t : τ} {Q : β → σ → Prop} (h : p.Ensures W (view t) Q) (holds : Inv t) :
    Inv (p.run serve t).2 ∧ Q (p.run serve t).1 (view (p.run serve t).2) := by
  induction p generalizing t with
  | done b => exact ⟨holds, h⟩
  | ask r next ih =>
    obtain ⟨allowed, later⟩ := h
    obtain ⟨holds', answered⟩ := respects r t holds allowed
    exact ih (serve r t).1 (later _ _ answered) holds'

/-- A program that is in a state goes on for some requests, each answered as the world says. -/
inductive Goes (W : World α σ) (p : Program α β) (s : σ) : Program α β → σ → Prop
  /-- It has made no request yet. -/
  | start : Goes W p s p s
  /-- Its next request is answered. -/
  | answered {s' s'' : σ} {r : Request α} {next : r.Reply → Program α β} {reply : r.Reply}
      (goes : Goes W p s (.ask r next) s') (answer : W.answers s' r reply s'') :
      Goes W p s (next reply) s''

/-- What a program ensures is ensured by what is left of it, whoever else has judged what it did
before. -/
theorem Ensures.goes {W' : World α σ}
    (likewise : ∀ s r reply s', W'.answers s r reply s' → W.answers s r reply s')
    {p p' : Program α β} {s' : σ} {Q : β → σ → Prop} (h : p.Ensures W s Q)
    (goes : p.Goes W' s p' s') : p'.Ensures W s' Q := by
  induction goes with
  | start => exact h
  | answered goes answer ih => exact ih.2 _ _ (likewise _ _ _ _ answer)

end Program

namespace Task

/-- A task ensures what its program does; the postcondition is about success and failure alike. -/
def Ensures (W : World α σ) (t : Task α β) (s : σ) (Q : Except Failure β → σ → Prop) : Prop :=
  t.run.Ensures W s Q

variable {Q : Except Failure β → σ → Prop}

/-- A weaker condition is ensured too. -/
theorem Ensures.mono {t : Task α β} {Q' : Except Failure β → σ → Prop} (h : t.Ensures W s Q)
    (weaker : ∀ x s', Q x s' → Q' x s') : t.Ensures W s Q' :=
  Program.Ensures.mono h weaker

/-- A result is ensured as it is. -/
@[simp] theorem ensures_pure {b : β} : (pure b : Task α β).Ensures W s Q ↔ Q (.ok b) s :=
  Iff.rfl

/-- A failure is ensured as it is. -/
@[simp] theorem ensures_throw {e : Failure} :
    (throw e : Task α β).Ensures W s Q ↔ Q (.error e) s :=
  Iff.rfl

/-- A result that is given is ensured as it is. -/
@[simp] theorem ensures_ofExcept {x : Except Failure β} :
    (ofExcept x : Task α β).Ensures W s Q ↔ Q x s :=
  Iff.rfl

/-- The second of two tasks starts where the first one succeeds. -/
theorem ensures_bind {t : Task α γ} {f : γ → Task α β} :
    (t >>= f).Ensures W s Q ↔ t.Ensures W s fun x s' =>
      match x with
      | .ok c => (f c).Ensures W s' Q
      | .error e => Q (.error e) s' := by
  unfold Ensures
  show (Program.bind t.run (ExceptT.bindCont f)).Ensures W s Q ↔ _
  rw [Program.ensures_bind]
  constructor
  · intro h
    refine h.mono fun x s' later => ?_
    cases x <;> exact later
  · intro h
    refine h.mono fun x s' later => ?_
    cases x <;> exact later

/-- A choice ensures what both of its sides ensure. -/
theorem ensures_ite {c : Prop} [Decidable c] {t t' : Task α β} (yes : c → t.Ensures W s Q)
    (no : ¬ c → t'.Ensures W s Q) : (if c then t else t').Ensures W s Q := by
  split
  · exact yes ‹c›
  · exact no ‹¬ c›

/-- A call must be allowed, and is answered by its reply. -/
theorem ensures_call {c : Call} {Q : Except Failure c.Result → σ → Prop} :
    (call c : Task α c.Result).Ensures W s Q ↔
      W.allows s (.call c) ∧ ∀ reply s', W.answers s (.call c) reply s' → Q reply s' :=
  Iff.rfl

/-- Reading a record must be allowed, and is answered by what the world has. -/
theorem ensures_recordOf {k : ObjectKey} {Q : Except Failure (Option α) → σ → Prop} :
    (recordOf k : Task α (Option α)).Ensures W s Q ↔
      W.allows s (.store (.recordOf k)) ∧
        ∀ reply s', W.answers s (.store (.recordOf k)) reply s' → Q (.ok reply) s' :=
  Iff.rfl

/-- Writing a record must be allowed, and never fails. -/
theorem ensures_remember {k : ObjectKey} {obj : α} {Q : Except Failure Unit → σ → Prop} :
    (remember k obj : Task α Unit).Ensures W s Q ↔
      W.allows s (.store (.remember k obj)) ∧
        ∀ reply s', W.answers s (.store (.remember k obj)) reply s' → Q (.ok reply) s' :=
  Iff.rfl

/-- Erasing a record must be allowed, and never fails. -/
theorem ensures_forget {k : ObjectKey} {Q : Except Failure Unit → σ → Prop} :
    (forget k : Task α Unit).Ensures W s Q ↔
      W.allows s (.store (.forget k)) ∧
        ∀ reply s', W.answers s (.store (.forget k)) reply s' → Q (.ok reply) s' :=
  Iff.rfl

/-- Publishing an event must be allowed, and never fails. -/
theorem ensures_publish {ω : Type} [Object ω] {obj : ω} {e : Event}
    {Q : Except Failure Unit → σ → Prop} :
    (publish obj e : Task α Unit).Ensures W s Q ↔
      W.allows s (.publish e (Object.reference obj)) ∧
        ∀ reply s', W.answers s (.publish e (Object.reference obj)) reply s' → Q (.ok reply) s' :=
  Iff.rfl

/-- A task whose failure is a value succeeds in any case. -/
theorem ensures_attempt {t : Task α β} {Q : Except Failure (Except Failure β) → σ → Prop} :
    (attempt t).Ensures W s Q ↔ t.Ensures W s fun x s' => Q (.ok x) s' := by
  unfold Ensures
  show (Program.bind t.run fun x => .done (.ok x)).Ensures W s Q ↔ _
  rw [Program.ensures_bind]
  exact Iff.rfl

end Task

end BucketProvisioning.Reconcile

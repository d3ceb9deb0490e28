import BucketProvisioning.Proofs.Reconcile.Exits

/-!
# What a teardown leaves to the rest of a reconcile

If an earlier object is on record when a live one is found, it is torn down first.  This module says
that the teardown has no bearing on what comes next: once it is over, the reconcile goes on exactly as
one that finds the same object and has nothing on record, whatever came of the calls of the teardown
(`Errand.resumes`).

The proof divides what a program has done at a point between the two programs that it is made of
(`Program.goes_bind`), and takes away what an errand did before it started (`Errand.goes_frame`).
-/

set_option autoImplicit false
set_option linter.unusedSectionVars false

namespace BucketProvisioning.Reconcile

open BucketProvisioning BucketProvisioning.Resource BucketProvisioning.Backend

/-! ## Going on -/

namespace Program

variable {α σ β γ : Type} {W : World α σ} {s s' s'' : σ}

/-- A program that makes only requests that it may make goes on likewise in a world that leaves more
open as far as these requests are concerned. -/
theorem Goes.mono {W' : World α σ} {p p' : Program α β} {Q : β → σ → Prop} (h : p.Goes W s p' s')
    (ensured : p.Ensures W s Q)
    (likewise : ∀ s r reply s', W.allows s r → W.answers s r reply s' → W'.answers s r reply s') :
    p.Goes W' s p' s' := by
  induction h with
  | start => exact .start
  | answered goes answer ih =>
    obtain ⟨allowed, -⟩ := ensured.goes (fun _ _ _ _ => id) goes
    exact ih.answered (likewise _ _ _ _ allowed answer)

/-- What goes on from where something else has stopped goes on from its beginning. -/
theorem Goes.trans {p p' p'' : Program α β} (h : p.Goes W s p' s') (more : p'.Goes W s' p'' s'') :
    p.Goes W s p'' s'' := by
  induction more with
  | start => exact h
  | answered goes answer ih => exact ih.answered answer

/-- A program that goes on with the result of another is still at the first one, or has got past
it. -/
theorem goes_bind {p : Program α β} {f : β → Program α γ} {q : Program α γ}
    (h : (p.bind f).Goes W s q s') :
    (∃ p', p.Goes W s p' s' ∧ q = p'.bind f) ∨
      ∃ b s₁, p.Goes W s (.done b) s₁ ∧ (f b).Goes W s₁ q s' := by
  induction h with
  | start => exact Or.inl ⟨p, .start, rfl⟩
  | @answered s₁ s₂ r next reply goes answer ih =>
    rcases ih with ⟨p', before, is⟩ | ⟨b, s₀, before, after⟩
    · cases p' with
      | done b =>
        have there : (f b).Goes W s₁ (.ask r next) s₁ := by
          rw [is]
          exact .start
        exact Or.inr ⟨b, s₁, before, there.answered answer⟩
      | ask r' next' =>
        obtain ⟨rfl, same⟩ := Program.ask.inj is
        obtain rfl := eq_of_heq same
        exact Or.inl ⟨next' reply, before.answered answer, rfl⟩
    · exact Or.inr ⟨b, s₀, before, after.answered answer⟩

/-- If it has come to its end, the first program has come to its end before. -/
theorem goes_bind_done {p : Program α β} {f : β → Program α γ} {c : γ}
    (h : (p.bind f).Goes W s (.done c) s') :
    ∃ b s₁, p.Goes W s (.done b) s₁ ∧ (f b).Goes W s₁ (.done c) s' := by
  rcases goes_bind h with ⟨p', before, is⟩ | after
  · cases p' with
    | done b =>
      refine ⟨b, s', before, ?_⟩
      rw [is]
      exact .start
    | ask r next => exact absurd is nofun
  · exact after

end Program

variable {α β : Type} [Object α] [Managed α]

/-! ## Errands -/

/-- Whatever keeps to `conduct` is an errand. -/
theorem errand_of_conduct {backends : Registry} {k : ObjectKey} (a : Attempt α) (r : Request α)
    (reply : r.Reply) (a' : Attempt α) (may : (conduct backends k).allows a r)
    (h : (conduct backends k).answers a r reply a') : (errand k).answers a r reply a' := by
  cases r with
  | call c => exact h.2
  | publish e about => exact h
  | store access => cases access <;> first | exact may.elim | exact h

namespace Errand

variable {k : ObjectKey}

/-- How an errand goes on has nothing to do with what was called before, nor with what was on record
at the beginning. -/
theorem goes_frame {p q : Program α β} {found initial record : Option α} {first : List Called}
    {a : Attempt α} (h : p.Goes (errand k) ⟨found, initial, record, first⟩ q a) :
    ∃ record' rest, a = ⟨found, initial, record', rest ++ first⟩ ∧
      ∀ initial' first',
        p.Goes (errand k) ⟨found, initial', record, first'⟩ q
          ⟨found, initial', record', rest ++ first'⟩ := by
  induction h with
  | start => exact ⟨record, [], rfl, fun _ _ => .start⟩
  | @answered a a' r next reply goes answer ih =>
    obtain ⟨left, rest, is, likewise⟩ := ih
    subst is
    cases r with
    | call c =>
      obtain rfl := answer
      exact ⟨left, ⟨c, some reply⟩ :: rest, rfl, fun _ _ => (likewise _ _).answered rfl⟩
    | publish e about =>
      obtain rfl := answer
      exact ⟨left, rest, rfl, fun _ _ => (likewise _ _).answered rfl⟩
    | store access =>
      cases access with
      | lookup k' =>
        obtain rfl := answer
        exact ⟨left, rest, rfl, fun _ _ => (likewise _ _).answered rfl⟩
      | recordOf k' =>
        obtain ⟨told, rfl⟩ := answer
        exact ⟨left, rest, rfl, fun _ _ => (likewise _ _).answered ⟨told, rfl⟩⟩
      | remember k' obj =>
        obtain rfl := answer
        exact ⟨some obj, rest, rfl, fun _ _ => (likewise _ _).answered rfl⟩
      | forget k' =>
        obtain rfl := answer
        exact ⟨none, rest, rfl, fun _ _ => (likewise _ _).answered rfl⟩

/-- An attempt that has come to its end after it had to tear down what was on record: the calls of
the teardown have been made, each once and in their order, and the rest is an attempt that finds the
same live object and has nothing on record. -/
theorem resumes {backends : Registry} {live old : α} {teardown : Task α Unit}
    {rest : Unit → Task α Unit} {outcome : Except Failure Unit} {a : Attempt α}
    (superseded : isSuperseded old live = true)
    (tears : ∀ Q : Except Failure Unit → Attempt α → Prop,
      (∀ calls, Heard (removal backends k old) calls →
        Q (.ok ()) ⟨some live, some old, none, calls⟩) →
      teardown.Ensures (errand k) (.opening (some live) (some old)) Q)
    (goes : (Slot.attend k live teardown >>= rest).run.Goes (errand k)
      (.opening (some live) (some old)) (.done outcome) a) :
    ∃ torn more, Heard (removal backends k old) torn ∧ a.calls = more ++ torn ∧
      (Slot.attend k live teardown >>= rest).run.Goes (errand k) (.opening (some live) none)
        (.done outcome) ⟨some live, none, a.record, more⟩ := by
  replace goes : (Program.bind (Slot.attend k live teardown).run (ExceptT.bindCont rest)).Goes
    (errand k) (.opening (some live) (some old)) (.done outcome) a := goes
  have clears : (Slot.attend k live teardown).Ensures (errand k) (.opening (some live) (some old))
      fun x a' => x = .ok () ∧ ∃ torn, Heard (removal backends k old) torn ∧
        a' = ⟨some live, some old, none, torn⟩ := by
    refine ensures_attend backends ?_ ?_
    · intro old' is Q h
      obtain rfl := Option.some.inj is
      exact tears Q h
    · intro left torn swept
      cases swept with
      | untouched fits => exact absurd superseded (by simp [fits old rfl])
      | replaced _ heard => exact ⟨rfl, torn, heard, rfl⟩
  -- an attempt with nothing on record goes past the teardown at once
  have told : (errand k).answers (.opening (some live) none) (.store (.recordOf k))
      (none : Option α) (.opening (some live) none) := ⟨rfl, rfl⟩
  have fresh : (Slot.attend k live teardown >>= rest).run.Goes (errand k)
      (.opening (some live) none) (rest ()).run (.opening (some live) none) :=
    Program.Goes.start.answered told
  obtain ⟨x, a', before, after⟩ := Program.goes_bind_done goes
  obtain ⟨rfl, torn, heard, rfl⟩ := clears.goes (fun _ _ _ _ => id) before
  obtain ⟨record, more, rfl, likewise⟩ := goes_frame after
  refine ⟨torn, more, heard, rfl, fresh.trans ?_⟩
  rw [← List.append_nil more]
  exact likewise none []

end Errand

/-- **A reconcile of an access that finds an earlier one on record revokes it and goes on.**  The
grant and the secret of the earlier access have each been asked for once; if nothing was found, the
reconcile has succeeded with that, and if a live access was found, the rest is a reconcile of that
access with nothing on record. -/
theorem accesses_resume {backends : Registry} {text : String} {k : ObjectKey}
    {next : Except Failure (Option BucketAccess) → Program BucketAccess (Except Failure Unit)}
    {found : Option BucketAccess} {old : BucketAccess} {outcome : Except Failure Unit}
    {a : Attempt BucketAccess} (read : ObjectKey.parse text = .ok k)
    (looks : Accesses.reconcile backends text = .ask (.store (.lookup k)) next)
    (gone : Gone found old)
    (goes : (next (.ok found)).Goes (errand k) (.opening found (some old)) (.done outcome) a) :
    ∃ torn more, Heard (removal backends k old) torn ∧ a.calls = more ++ torn ∧
      (found = none → outcome = .ok () ∧ a.record = none ∧ more = []) ∧
      (found.isSome → (next (.ok found)).Goes (errand k) (.opening found none) (.done outcome)
        ⟨found, none, a.record, more⟩) := by
  obtain ⟨next', looks', -, exits⟩ := (accesses_exit backends).exits text k read
  obtain rfl : next' = next := eq_of_heq (Program.ask.inj (looks'.symm.trans looks)).2
  cases found with
  | none =>
    obtain ⟨_, _, record, calls⟩ := a
    have exit : Exit backends k (some old) none outcome record calls :=
      (exits none (some old)).goes (fun _ _ _ _ => id) goes
    cases exit with
    | absent blank => cases blank
    | tornDown recorded heard =>
      obtain rfl := Option.some.inj recorded
      refine ⟨calls, [], heard, rfl, fun _ => ⟨rfl, rfl, rfl⟩, ?_⟩
      intro there
      cases there
  | some live =>
    simp only [Accesses.reconcile, read] at looks
    obtain rfl := eq_of_heq (Program.ask.inj looks).2
    change (Accesses.grantLive backends k live).run.Goes _ _ _ _ at goes
    show ∃ torn more, _ ∧ _ ∧ _ ∧
      (_ → (Accesses.grantLive backends k live).run.Goes _ _ _ _)
    unfold Accesses.grantLive at goes ⊢
    rw [Accesses.revokeSuperseded_eq] at goes ⊢
    obtain ⟨torn, more, heard, calls, rest⟩ := Errand.resumes (gone_some.1 gone) (fun Q h => by
      refine Accesses.errand_revoke (fun blank => ?_) fun old' calls is heard => ?_
      · cases blank
      · obtain rfl := Option.some.inj is
        rw [Attempt.opening_after]
        exact h calls heard) goes
    refine ⟨torn, more, heard, calls, ?_, fun _ => rest⟩
    intro missing
    cases missing

end BucketProvisioning.Reconcile

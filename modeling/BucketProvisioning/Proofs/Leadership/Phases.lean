import BucketProvisioning.Leadership.Candidate

/-!
# From phase to phase

Which phase of a candidate follows which, whatever is replied to it.

* `Elector.step_attempting` and `Elector.step_pausing`: on the way to the lease.
* `Elector.step_guarded`: who has got the lease holds on to it until told to give it up.
* `Elector.step_releasing`: who gives it up comes to an end with it.  That nobody breaks down on the
  way is said by `Dialogue.Whole`.
* `Elector.sent_of_step`: a step sends at most one request.
* `Elector.ne_of_step`: a step leads to another phase.
-/

set_option autoImplicit false

namespace BucketProvisioning.Leadership

/-- A dialogue in which nobody can break down. -/
inductive Dialogue.Whole {β : Type} : Dialogue β → Prop
  /-- It is over. -/
  | done (b : β) : Whole (.done b)
  /-- The clock is read. -/
  | clock {next : Instant → Dialogue β} (rest : ∀ t, (next t).Whole) : Whole (.clock next)
  /-- A request is sent. -/
  | ask (r : LeaseRequest) {next : Except ApiFault Resource.Lease → Dialogue β}
      (rest : ∀ reply, (next reply).Whole) : Whole (.ask r next)

/-- What is left of a dialogue after the clock has been read is another dialogue. -/
theorem Dialogue.next_ne_clock {β : Type} {next : Instant → Dialogue β} (t : Instant) :
    next t ≠ .clock next := by
  -- a dialogue that is its own rest would have no end
  have other (d : Dialogue β) : ∀ next t, d = .clock next → next t ≠ d := by
    induction d with
    | clock next ih =>
      rintro _ t ⟨⟩ same
      exact ih t next t same rfl
    | _ =>
      intro next t whole
      cases whole
  exact other _ next t rfl

/-- What is left of a dialogue after a reply is another dialogue. -/
theorem Dialogue.next_ne_ask {β : Type} {r : LeaseRequest}
    {next : Except ApiFault Resource.Lease → Dialogue β} (reply : Except ApiFault Resource.Lease) :
    next reply ≠ .ask r next := by
  have other (d : Dialogue β) : ∀ r next reply, d = .ask r next → next reply ≠ d := by
    induction d with
    | ask r next ih =>
      rintro _ _ reply ⟨⟩ same
      exact ih reply r next reply same rfl
    | _ =>
      intro r next reply whole
      cases whole
  exact other _ r next reply rfl

/-- Nobody breaks down while the lease is given up. -/
theorem Elector.whole_release (e : Elector) : e.release.Whole := by
  refine .ask _ fun reply => ?_
  cases reply with
  | error fault => exact .done _
  | ok found =>
    dsimp only
    split
    · refine .clock fun now => .ask _ fun reply => ?_
      cases reply <;> exact .done _
    · exact .done _

namespace Elector

variable {σ : Type} {e : Elector} {now : Nat} {time : Instant}
variable {serve : LeaseRequest → σ → Except ApiFault Resource.Lease × σ}
variable {p p' : Phase} {s s' : σ}

/-- Whoever tries to get the lease goes on trying, gets it by an attempt that worked, or breaks
down. -/
theorem step_attempting {d : Dialogue (Except Failure Bool)}
    (steps : e.step now time serve (.attempting d) s = some (p', s')) :
    (∃ d', p' = .attempting d') ∨ (∃ due, p' = .pausing due) ∨
      (d = .done (.ok true) ∧ ∃ due, p' = .leading due) ∨ p' = .outside := by
  cases d with
  | done r =>
    obtain ⟨rfl, -⟩ := Prod.mk.inj (Option.some.inj steps)
    cases r with
    | error f => exact Or.inr (Or.inl ⟨_, rfl⟩)
    | ok gets =>
      cases gets with
      | true => exact Or.inr (Or.inr (Or.inl ⟨rfl, _, rfl⟩))
      | false => exact Or.inr (Or.inl ⟨_, rfl⟩)
  | broken =>
    obtain ⟨rfl, -⟩ := Prod.mk.inj (Option.some.inj steps)
    exact Or.inr (Or.inr (Or.inr rfl))
  | clock next | ask r next =>
    obtain ⟨rfl, -⟩ := Prod.mk.inj (Option.some.inj steps)
    exact Or.inl ⟨_, rfl⟩

/-- Whoever waits before trying again tries again. -/
theorem step_pausing {due : Nat} (steps : e.step now time serve (.pausing due) s = some (p', s')) :
    p' = .attempting e.attempt := by
  simp only [step] at steps
  split at steps
  · exact (Prod.mk.inj (Option.some.inj steps)).1.symm
  · cases steps

/-- Whoever has got the lease holds on to it, even to a lease that is lost. -/
theorem step_guarded (guarded : p.holdsGuard = true)
    (steps : e.step now time serve p s = some (p', s')) : p'.holdsGuard = true := by
  cases p with
  | leading due =>
    simp only [step] at steps
    split at steps
    · obtain ⟨rfl, -⟩ := Prod.mk.inj (Option.some.inj steps)
      rfl
    · cases steps
  | renewing d =>
    cases d with
    | done r =>
      obtain ⟨rfl, -⟩ := Prod.mk.inj (Option.some.inj steps)
      cases r with
      | error f => rfl
      | ok keeps => cases keeps <;> rfl
    | broken | clock next | ask r next =>
      obtain ⟨rfl, -⟩ := Prod.mk.inj (Option.some.inj steps)
      rfl
  | deposed => cases steps
  | _ => simp [Phase.holdsGuard] at guarded

/-- Whoever gives the lease up goes on with it, or is done with it. -/
theorem step_releasing {d : Dialogue (Except Failure Unit)} (whole : d.Whole)
    (steps : e.step now time serve (.releasing d) s = some (p', s')) :
    (∃ d', p' = .releasing d' ∧ d'.Whole) ∨ ∃ r, p' = .released r := by
  cases whole with
  | done r =>
    obtain ⟨rfl, -⟩ := Prod.mk.inj (Option.some.inj steps)
    exact Or.inr ⟨r, rfl⟩
  | clock rest | ask r rest =>
    obtain ⟨rfl, -⟩ := Prod.mk.inj (Option.some.inj steps)
    exact Or.inl ⟨_, rfl, rest _⟩

/-- Whoever gives the lease up can go on. -/
theorem isSome_step_releasing (d : Dialogue (Except Failure Unit)) :
    (e.step now time serve (.releasing d) s).isSome = true := by
  cases d <;> rfl

/-- A step sends at most one request. -/
theorem sent_of_step {τ : Type} {reply : LeaseRequest → Except ApiFault Resource.Lease}
    {note : LeaseRequest → τ} {sent sent' : List τ}
    (steps : e.step now time (fun r sent => (reply r, sent ++ [note r])) p sent =
      some (p', sent')) : sent' = sent ∨ ∃ r, sent' = sent ++ [note r] := by
  -- every phase either talks about the lease, waits, or is over
  have talks {β : Type} (d : Dialogue β) :
      (d.step time (fun r sent => (reply r, sent ++ [note r])) sent).2 = sent ∨
        ∃ r, (d.step time (fun r sent => (reply r, sent ++ [note r])) sent).2 =
          sent ++ [note r] := by
    cases d with
    | ask r next => exact Or.inr ⟨r, rfl⟩
    | _ => exact Or.inl rfl
  unfold step at steps
  split at steps
  all_goals first
    | cases steps; done
    | obtain ⟨-, rfl⟩ := Prod.mk.inj (Option.some.inj steps); exact Or.inl rfl
    | obtain ⟨-, rfl⟩ := Prod.mk.inj (Option.some.inj steps); exact talks _
    | split at steps
      · obtain ⟨-, rfl⟩ := Prod.mk.inj (Option.some.inj steps); exact Or.inl rfl
      · cases steps

/-- **A step leads to another phase.** -/
theorem ne_of_step (steps : e.step now time serve p s = some (p', s')) : p' ≠ p := by
  cases p with
  | outside | deposed | released => cases steps
  | pausing due | leading due =>
    simp only [step] at steps
    split at steps
    · obtain ⟨rfl, -⟩ := Prod.mk.inj (Option.some.inj steps)
      nofun
    · cases steps
  | attempting d | renewing d =>
    cases d with
    | done r =>
      obtain ⟨rfl, -⟩ := Prod.mk.inj (Option.some.inj steps)
      rcases r with f | (_ | _) <;> nofun
    | broken =>
      obtain ⟨rfl, -⟩ := Prod.mk.inj (Option.some.inj steps)
      nofun
    | clock next =>
      obtain ⟨rfl, -⟩ := Prod.mk.inj (Option.some.inj steps)
      simpa using Dialogue.next_ne_clock time
    | ask r next =>
      obtain ⟨rfl, -⟩ := Prod.mk.inj (Option.some.inj steps)
      simpa using Dialogue.next_ne_ask _
  | releasing d =>
    cases d with
    | done r | broken =>
      obtain ⟨rfl, -⟩ := Prod.mk.inj (Option.some.inj steps)
      nofun
    | clock next =>
      obtain ⟨rfl, -⟩ := Prod.mk.inj (Option.some.inj steps)
      simpa using Dialogue.next_ne_clock time
    | ask r next =>
      obtain ⟨rfl, -⟩ := Prod.mk.inj (Option.some.inj steps)
      simpa using Dialogue.next_ne_ask _

end Elector

end BucketProvisioning.Leadership

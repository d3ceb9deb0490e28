import BucketProvisioning.Proofs.Leadership.Contest

/-!
# Who takes the lease from whom

Candidates compete for a lease with any time between any two of their requests.  A candidate that
gets the lease replaces what it has read, and the server refuses that if the lease has changed
since; so it takes the lease from another holder only if that holder had let it expire by the clock
that the candidate has read.  Giving the lease up carries no version: a candidate takes the holder
away that the lease has by then, if it held the lease itself when it read it.

* `Play`: whatever the candidates may do; its trace says what they did.
* `Aligned`: what ties their dialogues to the lease and to what they have read, kept by every act.
* `taken_when_expired_or_released`: who takes the lease from whom.
* `release_clears_live_lease`: a release takes a live lease from another candidate.
-/

set_option autoImplicit false

namespace BucketProvisioning.Leadership

open BucketProvisioning BucketProvisioning.Resource

variable {n : Nat} {elector : Fin n → Elector}

/-- What was done and to which scene, the latest first. -/
abbrev Tale (n : Nat) := List (Scene n × Act n)

/-- The scenes that can come of a scene, with what was done in between. -/
inductive Play (elector : Fin n → Elector) (first : Scene n) : Scene n → Tale n → Prop
  /-- Nothing has been done yet. -/
  | start : Play elector first first []
  /-- Something more is done. -/
  | next {s s' : Scene n} {tale : Tale n} {a : Act n} (play : Play elector first s tale)
      (acts : s.act? elector a = some s') : Play elector first s' ((s, a) :: tale)

/-! ## What a candidate has read -/

namespace Phase

/-- Whether a candidate is going to read its clock. -/
def readsClock : Phase → Bool
  | .attempting (.clock _) => true
  | .renewing (.clock _) => true
  | .releasing (.clock _) => true
  | _ => false

/-- The request that a candidate is going to send. -/
def request? : Phase → Option LeaseRequest
  | .attempting rest => rest.request?
  | .renewing rest => rest.request?
  | .releasing rest => rest.request?
  | _ => none

end Phase

namespace Tale

/-- What a candidate saw when it last read its clock. -/
def reading? (i : Fin n) : Tale n → Option Instant
  | [] => none
  | (s, .work j _ time _ _) :: tale =>
    if j = i ∧ (s.phase i).readsClock = true then some time else reading? i tale
  | _ :: tale => reading? i tale

/-- The lease that a candidate last read. -/
def lease? (i : Fin n) : Tale n → Option Lease
  | [] => none
  | (s, .work j _ _ fate version) :: tale =>
    if j = i then
      match (s.phase i).request? with
      | some .read => (s.book.answer fate version .read).1.toOption
      | _ => lease? i tale
    else lease? i tale
  | _ :: tale => lease? i tale

end Tale

/-! ## What ties dialogues to the lease -/

/-- What holds at every moment between the dialogues of the candidates, the lease, and what they
have read. -/
structure Aligned (elector : Fin n → Elector) (s : Scene n) (tale : Tale n) : Prop where
  /-- The version of the lease is a used one. -/
  kept : s.book.Kept
  /-- An attempt to get the lease goes by the clock that the candidate last read. -/
  trying : ∀ i rest, s.phase i = .attempting rest ∨ s.phase i = .renewing rest →
    ∃ t, Stage (elector i) s.book t rest ∧
      (rest = (elector i).attempt ∨ Tale.reading? i tale = some t)
  /-- Who takes the holder away has read that the lease is its own. -/
  parting : ∀ i rest, s.phase i = .releasing rest →
    Parting (elector i)
      (∃ l, Tale.lease? i tale = some l ∧ holderOf l = some (elector i).identity) rest

namespace Aligned

variable {s : Scene n} {tale : Tale n}

/-- Candidates that stand outside have read nothing that binds them. -/
theorem start {book : LeaseBook} (kept : book.Kept) :
    Aligned elector ⟨fun _ => .outside, book⟩ [] where
  kept := kept
  trying i rest is := by simp at is
  parting i rest is := by simp at is

/-- Only the candidate that does something has to be looked at. -/
theorem update (w : Aligned elector s tale) {a : Act n} {i : Fin n} {p : Phase} {b : LeaseBook}
    (others : ∀ j, j ≠ i → Tale.reading? j ((s, a) :: tale) = Tale.reading? j tale ∧
      Tale.lease? j ((s, a) :: tale) = Tale.lease? j tale)
    (book : b = s.book ∨ ∃ l version, version ∉ s.book.used ∧ b = s.book.put l version)
    (trying : ∀ rest, p = .attempting rest ∨ p = .renewing rest →
      ∃ t, Stage (elector i) b t rest ∧
        (rest = (elector i).attempt ∨ Tale.reading? i ((s, a) :: tale) = some t))
    (parting : ∀ rest, p = .releasing rest → Parting (elector i)
      (∃ l, Tale.lease? i ((s, a) :: tale) = some l ∧ holderOf l = some (elector i).identity)
      rest) :
    Aligned elector ({ s with book := b }.set i p) ((s, a) :: tale) where
  kept := by
    rcases book with rfl | ⟨l, version, -, rfl⟩
    · exact w.kept
    · exact s.book.kept_put l version
  trying j rest is := by
    rw [Scene.phase_set] at is
    split at is
    · rename_i here
      exact here ▸ trying rest is
    · rename_i there
      obtain ⟨t, stage, read⟩ := w.trying j rest is
      refine ⟨t, ?_, (others j there).1 ▸ read⟩
      rcases book with rfl | ⟨l, version, unused, rfl⟩
      · exact stage
      · exact stage.frame l unused
  parting j rest is := by
    rw [Scene.phase_set] at is
    split at is
    · rename_i here
      exact here ▸ parting rest is
    · rename_i there
      rw [(others j there).2]
      exact w.parting j rest is

/-- A step of an attempt keeps it at the time that the candidate has read. -/
theorem attempt (w : Aligned elector s tale) {i : Fin n} {rest : Dialogue (Except Failure Bool)}
    (is : s.phase i = .attempting rest ∨ s.phase i = .renewing rest) (goesOn : rest.goesOn = true)
    (now : Nat) (time : Instant) (fate : Fate) (version : String) :
    ∃ t, Stage (elector i) (rest.step time (LeaseBook.answer fate version) s.book).2 t
        (rest.step time (LeaseBook.answer fate version) s.book).1 ∧
      Tale.reading? i ((s, .work i now time fate version) :: tale) = some t := by
  obtain ⟨t, stage, read⟩ := w.trying i rest is
  refine ⟨rest.reading time t, (stage.turn goesOn time fate version).stage w.kept, ?_⟩
  cases rest with
  | done r => simp [Dialogue.goesOn] at goesOn
  | broken => simp [Dialogue.goesOn] at goesOn
  | clock next =>
    have reads : (s.phase i).readsClock = true := by
      rcases is with is | is <;> rw [is] <;> rfl
    simp [Tale.reading?, reads, Dialogue.reading]
  | ask r next =>
    have reads : (s.phase i).readsClock = false := by
      rcases is with is | is <;> rw [is] <;> rfl
    have begun : Dialogue.ask r next ≠ (elector i).attempt := by simp [Elector.attempt]
    simpa [Tale.reading?, reads, Dialogue.reading] using read.resolve_left begun

/-- A step of giving the lease up keeps in mind that the candidate has read that it is its own. -/
theorem departure (w : Aligned elector s tale) {i : Fin n} {rest : Dialogue (Except Failure Unit)}
    (is : s.phase i = .releasing rest) (goesOn : rest.goesOn = true) (now : Nat) (time : Instant)
    (fate : Fate) (version : String) :
    Parting (elector i) (∃ l, Tale.lease? i ((s, .work i now time fate version) :: tale) = some l ∧
        holderOf l = some (elector i).identity)
      (rest.step time (LeaseBook.answer fate version) s.book).1 := by
  have parting := w.parting i rest is
  have turn := parting.turn goesOn s.book time fate version
  generalize (rest.step time (LeaseBook.answer fate version) s.book).1 = rest' at turn
  generalize (rest.step time (LeaseBook.answer fate version) s.book).2 = b' at turn
  cases turn with
  | found l read stored own =>
    have asks : (s.phase i).request? = some .read := by rw [is]; rfl
    exact .clocking ⟨l, by simp [Tale.lease?, asks, read, Except.toOption], own⟩
  | clocked =>
    have asks : (s.phase i).request? = none := by rw [is]; rfl
    cases parting with
    | clocking p => exact .leaving (by simpa [Tale.lease?, asks] using p) time
  | ended rest r => exact .ended r
  | vacated before l r stored => exact .ended r

/-- **Every act keeps the dialogues in line with the lease.** -/
theorem next (w : Aligned elector s tale) {a : Act n} {s' : Scene n}
    (acts : s.act? elector a = some s') : Aligned elector s' ((s, a) :: tale) := by
  cases Scene.done_of_act acts with
  | begun i =>
    refine w.update (fun j _ => ⟨rfl, rfl⟩) (Or.inl rfl) (fun rest is => ?_) (by simp)
    obtain rfl : (elector i).attempt = rest := by simpa using is
    exact ⟨⟨0, 0⟩, .fresh, Or.inl rfl⟩
  | parted i guards =>
    refine w.update (fun j _ => ⟨rfl, rfl⟩) (Or.inl rfl) (by simp) fun rest is => ?_
    obtain rfl : (elector i).release = rest := by simpa using is
    exact .fresh
  | left i => exact w.update (fun j _ => ⟨rfl, rfl⟩) (Or.inl rfl) (by simp) (by simp)
  | worked i now time fate version p b unused step =>
    have others (j : Fin n) (there : j ≠ i) :
        Tale.reading? j ((s, .work i now time fate version) :: tale) = Tale.reading? j tale ∧
          Tale.lease? j ((s, .work i now time fate version) :: tale) = Tale.lease? j tale := by
      simp [Tale.reading?, Tale.lease?, Ne.symm there]
    have wrote {β : Type} (rest : Dialogue β) :
        (rest.step time (LeaseBook.answer fate version) s.book).2 = s.book ∨
          ∃ l v, v ∉ s.book.used ∧
            (rest.step time (LeaseBook.answer fate version) s.book).2 = s.book.put l v :=
      (rest.book_step time fate version s.book).imp_right fun ⟨l, put⟩ => ⟨l, version, unused, put⟩
    generalize was : s.phase i = before at step
    cases step with
    | tries rest goesOn =>
      refine w.update others (wrote rest) (fun rest' is => ?_) (by simp)
      obtain rfl : _ = rest' := by simpa using is
      obtain ⟨t, stage, read⟩ := w.attempt (Or.inl was) goesOn now time fate version
      exact ⟨t, stage, Or.inr read⟩
    | keeps rest goesOn =>
      refine w.update others (wrote rest) (fun rest' is => ?_) (by simp)
      obtain rfl : _ = rest' := by simpa using is
      obtain ⟨t, stage, read⟩ := w.attempt (Or.inr was) goesOn now time fate version
      exact ⟨t, stage, Or.inr read⟩
    | parts rest goesOn =>
      refine w.update others (wrote rest) (by simp) fun rest' is => ?_
      obtain rfl : _ = rest' := by simpa using is
      exact w.departure was goesOn now time fate version
    | acquires => exact w.update others (Or.inl rfl) (by simp) (by simp)
    | renewed => exact w.update others (Or.inl rfl) (by simp) (by simp)
    | resumes due =>
      refine w.update others (Or.inl rfl) (fun rest is => ?_) (by simp)
      obtain rfl : (elector i).attempt = rest := by simpa using is
      exact ⟨⟨0, 0⟩, .fresh, Or.inl rfl⟩
    | renews due =>
      refine w.update others (Or.inl rfl) (fun rest is => ?_) (by simp)
      obtain rfl : (elector i).attempt = rest := by simpa using is
      exact ⟨⟨0, 0⟩, .fresh, Or.inl rfl⟩
    | rests _ _ atRest =>
      refine w.update others (Or.inl rfl) (fun rest is => ?_) fun rest is => ?_
      · rcases is with rfl | rfl <;> simp [Phase.isAtRest] at atRest
      · subst is
        simp [Phase.isAtRest] at atRest

end Aligned

/-- Throughout a play the dialogues go by what was read. -/
theorem aligned_of_play {book : LeaseBook} (kept : book.Kept) {s : Scene n} {tale : Tale n}
    (play : Play elector ⟨fun _ => .outside, book⟩ s tale) : Aligned elector s tale := by
  induction play with
  | start => exact .start kept
  | next play acts ih => exact ih.next acts

/-! ## Who takes the lease -/

/-- **Nobody takes a live lease but by a release.**  Whatever the candidates do, with any time
between any two of their requests: an act that takes the lease from its holder is a request by which
another candidate gets it, and then the lease had expired by the clock that this candidate last
read, or had no end; or it takes the holder away at the end of a release, and then the lease was the
candidate's own when it last read it. -/
theorem taken_when_expired_or_released {book : LeaseBook} (kept : book.Kept) {s s' : Scene n}
    {tale : Tale n} {a : Act n} (play : Play elector ⟨fun _ => .outside, book⟩ s tale)
    (acts : s.act? elector a = some s') {l : Lease} {y : String}
    (stored : s.book.stored = some l) (holds : holderOf l = some y)
    (taken : s'.book.holder? ≠ some y) :
    ∃ i now time fate version, a = .work i now time fate version ∧
      ((∃ spec t, Tale.reading? i tale = some t ∧
          s'.book.holder? = some (elector i).identity ∧ l.spec = some spec ∧
          hasExpired spec t = true) ∨
        ∃ renewed found, (s.phase i).request? = some (.vacate renewed) ∧
          Tale.lease? i tale = some found ∧ holderOf found = some (elector i).identity ∧
          s'.book.holder? = none) := by
  have aligned := aligned_of_play kept play
  have held : s.book.holder? = some y := by simp [LeaseBook.holder?, stored, holds]
  cases Scene.done_of_act acts with
  | begun i => exact absurd held taken
  | parted i guards => exact absurd held taken
  | left i => exact absurd held taken
  | worked i now time fate version p b unused step =>
    refine ⟨i, now, time, fate, version, rfl, ?_⟩
    have attempt {rest : Dialogue (Except Failure Bool)}
        (is : s.phase i = .attempting rest ∨ s.phase i = .renewing rest)
        (goesOn : rest.goesOn = true)
        (taken : (rest.step time (LeaseBook.answer fate version) s.book).2.holder? ≠ some y) :
        ∃ spec t, Tale.reading? i tale = some t ∧
          (rest.step time (LeaseBook.answer fate version) s.book).2.holder? =
            some (elector i).identity ∧ l.spec = some spec ∧ hasExpired spec t = true := by
      obtain ⟨t, stage, begun | read⟩ := aligned.trying i rest is
      · subst begun
        exact absurd held taken
      · rcases (stage.turn goesOn time fate version).wrote with ⟨same, -⟩ | ⟨none, -⟩ |
          ⟨l', v, spec, stored', put, may⟩
        · exact absurd (by rw [same]; exact held) taken
        · simp [none] at stored
        · obtain rfl := Option.some.inj (stored.symm.trans stored')
          have gets : ((s.book.put ((elector i).lease (some v) spec) version)).holder? =
              some (elector i).identity := may.holder
          rw [put] at taken ⊢
          rcases may.of_held holds with rfl | ⟨spec, is, expired⟩
          · exact absurd gets taken
          · exact ⟨spec, t, read, gets, is, expired⟩
    generalize was : s.phase i = before at step
    cases step with
    | tries rest goesOn => exact Or.inl (attempt (Or.inl was) goesOn taken)
    | keeps rest goesOn => exact Or.inl (attempt (Or.inr was) goesOn taken)
    | parts rest goesOn =>
      have parting := aligned.parting i rest was
      have turn := parting.turn goesOn s.book time fate version
      generalize (rest.step time (LeaseBook.answer fate version) s.book).1 = rest' at turn
      generalize (rest.step time (LeaseBook.answer fate version) s.book).2 = b' at turn taken
      cases turn with
      | found l read stored own => exact absurd held taken
      | clocked => exact absurd held taken
      | ended rest r => exact absurd held taken
      | vacated now l r stored =>
        obtain ⟨found, read, own⟩ := parting.of_farewell
        exact Or.inr ⟨now.addSeconds (-Elector.vacatedSeconds), found, rfl, read, own, rfl⟩
    | _ => exact absurd held taken

/-! ## Plays that can be computed -/

/-- A scene and its tale after some acts, unless one of them cannot be done. -/
def Scene.follow (elector : Fin n → Elector) (s : Scene n) (tale : Tale n) :
    List (Act n) → Option (Scene n × Tale n)
  | [] => some (s, tale)
  | a :: later =>
    match s.act? elector a with
    | some s' => follow elector s' ((s, a) :: tale) later
    | none => none

/-- What comes of some acts is a play. -/
theorem Play.of_follow {first s s' : Scene n} {tale tale' : Tale n} {acts : List (Act n)}
    (play : Play elector first s tale) (follows : s.follow elector tale acts = some (s', tale')) :
    Play elector first s' tale' := by
  induction acts generalizing s tale with
  | nil =>
    obtain ⟨rfl, rfl⟩ := Prod.mk.inj (Option.some.inj follows)
    exact play
  | cons a later ih =>
    unfold Scene.follow at follows
    split at follows
    · rename_i s₁ acts
      exact ih (.next play acts) follows
    · simp at follows

/-- The first of two candidates. -/
def podA : Fin 2 := 0

/-- The second of two candidates. -/
def podB : Fin 2 := 1

/-- Two candidates. -/
def twoPods (i : Fin 2) : Elector where
  leaseName := "bucket-operator-leader"
  ns := "system"
  identity := if i = podA then "pod-a" else "pod-b"

/-- A candidate takes a step in a second; a write gives the lease the version. -/
def stepAt (i : Fin 2) (second : Nat) (version : String) : Act 2 :=
  .work i (1000 * second) ⟨second, 0⟩ .heard version

/-- The first candidate gets the lease. -/
def firstLeads : List (Act 2) :=
  .begin podA :: List.replicate 3 (stepAt podA 0 "1") ++ [stepAt podA 0 "2"]

/-- The second candidate reads the lease when it has expired. -/
def expiredIsRead : List (Act 2) :=
  firstLeads ++ .begin podB :: List.replicate 2 (stepAt podB 31 "2")

/-- A lease that has expired is taken from its holder. -/
theorem taken_when_expired : ∃ s tale s' l spec t,
    Play twoPods ⟨fun _ => .outside, {}⟩ s tale ∧ s.act? twoPods (stepAt podB 31 "2") = some s' ∧
    s.book.stored = some l ∧ holderOf l = some "pod-a" ∧ s'.book.holder? = some "pod-b" ∧
    Tale.reading? podB tale = some t ∧ l.spec = some spec ∧ hasExpired spec t = true := by
  have rehearsed : (Scene.follow twoPods ⟨fun _ => .outside, {}⟩ [] expiredIsRead).any (fun r =>
      r.1.book.stored.any (fun l => holderOf l == some "pod-a") &&
        (r.1.act? twoPods (stepAt podB 31 "2")).any fun s' =>
          s'.book.holder? == some "pod-b") = true := by decide +kernel
  simp only [Option.any_eq_true, Bool.and_eq_true, beq_iff_eq] at rehearsed
  obtain ⟨⟨s, tale⟩, follows, ⟨l, stored, holds⟩, s', acts, gets⟩ := rehearsed
  have play : Play twoPods ⟨fun _ => .outside, {}⟩ s tale := .of_follow .start follows
  have kept : LeaseBook.Kept {} := by simp [LeaseBook.Kept]
  obtain ⟨i, now, time, fate, version, same, ⟨spec, t, read, -, is, expired⟩ | ⟨-, -, -, -, -, none⟩⟩ :=
    taken_when_expired_or_released kept play acts stored holds (by simp [gets])
  · obtain ⟨rfl, -⟩ := Act.work.inj same
    exact ⟨s, tale, s', l, spec, t, play, acts, stored, holds, gets, read, is, expired⟩
  · simp [gets] at none

/-- The first candidate reads that it holds the lease, to give it up; but before it goes on the
second candidate takes the lease over. -/
def releaseIsLate : List (Act 2) :=
  firstLeads ++ [.release podA, stepAt podA 0 "2", .begin podB] ++ List.replicate 3 (stepAt podB 31 "2") ++
    [stepAt podB 31 "3", stepAt podA 32 "3"]

/-- **A release takes a live lease from another candidate.**  It takes effect though the lease is
held by somebody else, who leads, and has not expired by the clock that the candidate has read. -/
theorem release_clears_live_lease : ∃ s tale s' l spec t,
    Play twoPods ⟨fun _ => .outside, {}⟩ s tale ∧ s.act? twoPods (stepAt podA 32 "3") = some s' ∧
    s.book.stored = some l ∧ holderOf l = some "pod-b" ∧ s'.book.holder? = none ∧
    (s.phase podB).isLeading = true ∧ Tale.reading? podA tale = some t ∧ l.spec = some spec ∧
    spec.renewTime.isSome = true ∧ spec.durationSeconds.isSome = true ∧
    hasExpired spec t = false := by
  have rehearsed : (Scene.follow twoPods ⟨fun _ => .outside, {}⟩ [] releaseIsLate).any (fun r =>
      r.1.book.stored.any (fun l => holderOf l == some "pod-b" &&
        l.spec.any fun spec => (Tale.reading? podA r.2).any fun t =>
          spec.renewTime.isSome && spec.durationSeconds.isSome && hasExpired spec t == false) &&
        (r.1.phase podB).isLeading &&
        (r.1.act? twoPods (stepAt podA 32 "3")).any fun s' => s'.book.holder? == none) = true := by
    decide +kernel
  simp only [Option.any_eq_true, Bool.and_eq_true, beq_iff_eq] at rehearsed
  obtain ⟨⟨s, tale⟩, follows, ⟨⟨l, stored, holds, spec, is, t, read, ⟨renewed, lasts⟩, live⟩, leads⟩,
    s', acts, none⟩ := rehearsed
  exact ⟨s, tale, s', l, spec, t, .of_follow .start follows, acts, stored, holds, none, leads, read,
    is, renewed, lasts, live⟩

end BucketProvisioning.Leadership

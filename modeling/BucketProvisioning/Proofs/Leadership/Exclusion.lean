import BucketProvisioning.Proofs.Leadership.TakeOver

/-!
# One leader at a time

Candidates whose clocks agree, and whose requests take no time, though those of different candidates
may be mixed in any way and may fail, whether or not they have taken effect.  A leader begins to
renew the lease less than a second after that is due.  Then a leader always holds the lease and the
lease has not expired, so nobody else leads.

* `Contest`: the candidates; their timings are in whole seconds, and leases outlast the pause between
  renewals.
* `Contest.Reached`: the moments that can come about.
* `Secured`: the lease names a candidate and has not expired.
* `Contest.Sound`: what a candidate is entitled to by what it is doing; every leader is secured.
* `at_most_one_leads`: no two candidates lead at once.
-/

set_option autoImplicit false

namespace BucketProvisioning.Leadership

open BucketProvisioning BucketProvisioning.Resource

/-! ## The clock -/

/-- The point in time so many microseconds after the beginning of 1970. -/
def instantAt (micros : Nat) : Instant :=
  ⟨(micros / Instant.perSecond : Nat), micros % Instant.perSecond⟩

/-- Microseconds are in the order of their instants. -/
theorem instantAt_lt (a b : Nat) : instantAt a < instantAt b ↔ a < b := by
  simp only [Instant.lt_def, instantAt, Instant.perSecond]
  omega

/-- Adding seconds to an instant adds them to its microseconds. -/
theorem addSeconds_instantAt (micros seconds : Nat) :
    (instantAt micros).addSeconds seconds = instantAt (micros + seconds * Instant.perSecond) := by
  rw [Instant.addSeconds_of_lt _ _ (Nat.mod_lt _ (by decide))]
  simp only [instantAt, Instant.perSecond, Instant.mk.injEq]
  omega

/-! ## Contests -/

/-- Candidates with different names, for each of which a lease outlasts the pause between two
renewals. -/
structure Contest (n : Nat) where
  /-- The candidates. -/
  elector : Fin n → Elector
  /-- For how many seconds the lease of each of them counts. -/
  duration : Fin n → Nat
  /-- How many seconds each of them waits between renewals. -/
  renewal : Fin n → Nat
  /-- They have different names. -/
  distinct : ∀ i j, (elector i).identity = (elector j).identity → i = j
  /-- That is how long a lease counts. -/
  lasts : ∀ i, (elector i).timings.duration = .seconds (duration i)
  /-- That is how long they wait. -/
  waits : ∀ i, (elector i).timings.renewInterval = .seconds (renewal i)
  /-- Renewals are more frequent. -/
  inTime : ∀ i, renewal i < duration i
  /-- A lease can say how long it counts. -/
  short : ∀ i, duration i ≤ Elector.longestSeconds

/-- The candidates and the lease at a time. -/
structure Moment (n : Nat) where
  /-- The candidates and the lease. -/
  scene : Scene n := {}
  /-- The time in microseconds. -/
  micros : Nat := 0

/-- Something that happens. -/
inductive Beat (n : Nat) where
  /-- A candidate begins to compete. -/
  | begin (i : Fin n)
  /-- A candidate takes its next step. -/
  | work (i : Fin n) (fate : Fate) (version : String)
  /-- A leader begins to give the lease up. -/
  | release (i : Fin n)
  /-- A candidate crashes, or drops the lease. -/
  | leave (i : Fin n)
  /-- Time passes. -/
  | wait (micros : Nat)

/-- Whether a candidate may be left alone until a time: it is not in the middle of a dialogue, and
if it is to renew the lease, then that has been due for less than a second. -/
def Phase.keepsUntil (micros : Nat) : Phase → Bool
  | .attempting _ => false
  | .renewing _ => false
  | .releasing _ => false
  | .leading due => micros < (due + 1000) * 1000
  | _ => true

namespace Contest

variable {n : Nat} (c : Contest n)

/-- What comes of a moment when something happens; nothing if it cannot happen. -/
def next? (m : Moment n) : Beat n → Option (Moment n)
  | .begin i => (m.scene.act? c.elector (.begin i)).map fun scene => { m with scene }
  | .work i fate version =>
    (m.scene.act? c.elector (.work i (m.micros / 1000) (instantAt m.micros) fate version)).map
      fun scene => { m with scene }
  | .release i =>
    if (m.scene.phase i).isLeading then
      (m.scene.act? c.elector (.release i)).map fun scene => { m with scene }
    else none
  | .leave i => (m.scene.act? c.elector (.leave i)).map fun scene => { m with scene }
  | .wait micros =>
    if m.micros ≤ micros ∧ ∀ i, (m.scene.phase i).keepsUntil micros = true then
      some { m with micros }
    else none

/-- The moments that can come about, when at first nobody takes part and there is no lease. -/
inductive Reached (c : Contest n) : Moment n → Prop
  /-- Nothing has happened yet. -/
  | start (micros : Nat) : Reached c { micros }
  /-- Something more happens. -/
  | next {m m' : Moment n} {beat : Beat n} (reached : Reached c m)
      (happens : c.next? m beat = some m') : Reached c m'

/-! ## Who may lead -/

/-- The lease names a candidate, who renewed it at `since`, and has not expired. -/
structure Secured (i : Fin n) (b : LeaseBook) (now since : Nat) : Prop where
  /-- The lease names the candidate. -/
  lease : ∃ l spec, b.stored = some l ∧ l.spec = some spec ∧
    spec.holder = some (c.elector i).identity ∧ spec.durationSeconds = some (c.duration i : Int) ∧
    spec.renewTime = some (instantAt since)
  /-- It has been renewed. -/
  past : since ≤ now
  /-- It has not expired. -/
  live : now ≤ since + c.duration i * Instant.perSecond

/-- A lease that names a candidate counts as long as the candidate says. -/
def Dated (b : LeaseBook) : Prop :=
  ∀ l spec i, b.stored = some l → l.spec = some spec →
    spec.holder = some (c.elector i).identity → spec.durationSeconds = some (c.duration i : Int)

/-- What a candidate is entitled to by what it is doing. -/
def Sound (b : LeaseBook) (now : Nat) (i : Fin n) : Phase → Prop
  | .attempting rest =>
    Stage (c.elector i) b (instantAt now) rest ∧ (rest = .done (.ok true) → c.Secured i b now now)
  | .renewing rest =>
    Stage (c.elector i) b (instantAt now) rest ∧ (∃ since, c.Secured i b now since) ∧
      (rest = .done (.ok true) → c.Secured i b now now)
  | .leading due =>
    ∃ since, c.Secured i b now since ∧ due * 1000 ≤ since + c.renewal i * Instant.perSecond
  | .releasing rest =>
    Parting (c.elector i) True rest ∧ (rest.goesOn = true → ∃ since, c.Secured i b now since)
  | _ => True

section secured

variable {c} {i j : Fin n} {b : LeaseBook} {now since since' : Nat}

/-- No two candidates are secured. -/
theorem Secured.unique (h : c.Secured i b now since) (h' : c.Secured j b now since') : i = j := by
  obtain ⟨l, spec, stored, is, holds, -⟩ := h.lease
  obtain ⟨l', spec', stored', is', holds', -⟩ := h'.lease
  obtain rfl := Option.some.inj (stored.symm.trans stored')
  obtain rfl := Option.some.inj (is.symm.trans is')
  exact c.distinct i j (Option.some.inj (holds.symm.trans holds'))

/-- A secured lease has not expired. -/
theorem Secured.not_hasExpired (h : c.Secured i b now since) {l : Lease} {spec : LeaseSpec}
    (stored : b.stored = some l) (is : l.spec = some spec) :
    hasExpired spec (instantAt now) = false := by
  obtain ⟨l', spec', stored', is', -, lasts, renewed⟩ := h.lease
  obtain rfl := Option.some.inj (stored.symm.trans stored')
  obtain rfl := Option.some.inj (is.symm.trans is')
  have last : heldUntil? spec = some (instantAt (since + c.duration i * Instant.perSecond)) := by
    simp [heldUntil?, renewed, lasts, addSeconds_instantAt]
  simp only [hasExpired, last, instantAt_lt, decide_eq_false_iff_not, Nat.not_lt]
  exact h.live

/-- Whoever may write in place of the lease is the one that is secured, if anybody is. -/
theorem Secured.of_mayWrite (h : c.Secured j b now since) {l : Lease} {spec : LeaseSpec}
    (stored : b.stored = some l) (may : (c.elector i).MayWrite (instantAt now) l spec) : j = i := by
  obtain ⟨l', spec', stored', is, holds, -⟩ := h.lease
  obtain rfl := Option.some.inj (stored.symm.trans stored')
  have held : holderOf l = some (c.elector j).identity := by simp [holderOf, is, holds]
  rcases may.of_held held with same | ⟨spec'', is', expired⟩
  · exact c.distinct j i same
  · rw [h.not_hasExpired stored is'] at expired
    simp at expired

/-- Whoever has just written the lease is secured. -/
theorem secured_put {e : Elector} (version : Option String) {spec : LeaseSpec} (v : String)
    (holds : spec.holder = some (c.elector i).identity)
    (lasts : spec.durationSeconds = some (c.duration i : Int))
    (renewed : spec.renewTime = some (instantAt now)) :
    c.Secured i (b.put (e.lease version spec) v) now now where
  lease := ⟨_, spec, rfl, rfl, holds, lasts, renewed⟩
  past := Nat.le_refl now
  live := Nat.le_add_right now _

/-- A candidate asks for the duration that it is set up with. -/
theorem durationSeconds_freshSpec (t : Instant) (transitions : Int) :
    ((c.elector i).freshSpec t transitions).durationSeconds = some (c.duration i : Int) := by
  have whole : (c.elector i).timings.duration.wholeSeconds = c.duration i := by
    rw [c.lasts i]
    exact Nat.mul_div_cancel _ (by decide)
  simp only [Elector.freshSpec, whole, Nat.min_eq_left (c.short i)]

/-- **What a turn of an attempt does to the others.**  It leaves the lease alone and does not
succeed; or the candidate is secured now, and nobody else has been. -/
theorem turn_secures (dated : c.Dated b) {rest rest' : Dialogue (Except Failure Bool)}
    {b' : LeaseBook} {version : String}
    (turn : Turn (c.elector i) b (instantAt now) (instantAt now) version rest rest' b') :
    (b' = b ∧ rest' ≠ .done (.ok true)) ∨
      (c.Secured i b' now now ∧ (∀ j since, c.Secured j b now since → j = i) ∧
        ∃ l, b' = b.put l version) := by
  rcases turn.wrote with unwritten | ⟨none, rfl⟩ | ⟨l, v, spec, stored, rfl, may⟩
  · exact Or.inl unwritten
  · refine Or.inr ⟨secured_put _ _ rfl (durationSeconds_freshSpec _ _) rfl, fun j since h => ?_,
      _, rfl⟩
    obtain ⟨l, spec, stored, -⟩ := h.lease
    simp [none] at stored
  · have lasts : spec.durationSeconds = some (c.duration i : Int) := by
      cases may with
      | takenOver transitions free => exact durationSeconds_freshSpec _ _
      | renewed own =>
        obtain ⟨spec, is, holds⟩ := Option.bind_eq_some_iff.1 (holder_of_renew own)
        simpa [is] using dated l spec i stored is holds
    exact Or.inr ⟨secured_put _ _ may.holder lasts may.renewTime,
      fun j since h => h.of_mayWrite stored may, _, rfl⟩

/-- A lease by which a candidate is secured counts as long as the candidate says. -/
theorem Secured.dated (h : c.Secured i b now since) : c.Dated b := by
  intro l spec j stored is holds
  obtain ⟨l', spec', stored', is', holds', lasts, -⟩ := h.lease
  obtain rfl := Option.some.inj (stored.symm.trans stored')
  obtain rfl := Option.some.inj (is.symm.trans is')
  obtain rfl := c.distinct i j (Option.some.inj (holds'.symm.trans holds))
  exact lasts

/-- Somebody who is not secured loses nothing when somebody else writes the lease. -/
theorem Sound.frame {p : Phase} (sound : c.Sound b now i p)
    (unsecured : ∀ since, ¬ c.Secured i b now since) (l : Lease) {version : String}
    (unused : version ∉ b.used) : c.Sound (b.put l version) now i p := by
  cases p with
  | attempting rest =>
    exact ⟨sound.1.frame l unused, fun won => absurd (sound.2 won) (unsecured now)⟩
  | renewing rest =>
    obtain ⟨since, secured⟩ := sound.2.1
    exact absurd secured (unsecured since)
  | leading due =>
    obtain ⟨since, secured, -⟩ := sound
    exact absurd secured (unsecured since)
  | releasing rest =>
    refine ⟨sound.1, fun goesOn => ?_⟩
    obtain ⟨since, secured⟩ := sound.2 goesOn
    exact absurd secured (unsecured since)
  | _ => trivial

/-- Every leader is secured. -/
theorem Sound.secured {p : Phase} (sound : c.Sound b now i p) (leads : p.isLeading = true) :
    ∃ since, c.Secured i b now since := by
  cases p with
  | leading due =>
    obtain ⟨since, secured, -⟩ := sound
    exact ⟨since, secured⟩
  | renewing rest => exact sound.2.1
  | _ => simp [Phase.isLeading] at leads

end secured

/-! ## What is kept -/

/-- What holds at every moment: every candidate is entitled to what it is doing. -/
structure InForce (m : Moment n) : Prop where
  /-- The version of the lease is a used one. -/
  kept : m.scene.book.Kept
  /-- The lease counts as long as its holder says. -/
  dated : c.Dated m.scene.book
  /-- Every candidate is entitled to what it is doing. -/
  sound : ∀ i, c.Sound m.scene.book m.micros i (m.scene.phase i)

namespace InForce

variable {c} {m : Moment n}

/-- Only the candidate that does something has to be looked at, if it writes the lease only while
nobody else is secured. -/
theorem update (h : c.InForce m) {i : Fin n} {p : Phase} {b : LeaseBook}
    (book : b = m.scene.book ∨ ((∃ l version, version ∉ m.scene.book.used ∧
      b = m.scene.book.put l version) ∧ c.Dated b ∧
      ∀ j since, c.Secured j m.scene.book m.micros since → j = i))
    (sound : c.Sound b m.micros i p) :
    c.InForce { m with scene := { m.scene with book := b }.set i p } where
  kept := by
    rcases book with rfl | ⟨⟨l, version, -, rfl⟩, -⟩
    · exact h.kept
    · exact m.scene.book.kept_put l version
  dated := by
    rcases book with rfl | ⟨-, dated, -⟩
    · exact h.dated
    · exact dated
  sound j := by
    rw [Scene.phase_set]
    split
    · rename_i here
      exact here ▸ sound
    · rename_i there
      rcases book with rfl | ⟨⟨l, version, unused, rfl⟩, -, alone⟩
      · exact h.sound j
      · exact (h.sound j).frame (fun since secured => there (alone j since secured)) l unused

/-- A step of an attempt writes the lease only while nobody else is secured. -/
theorem attempt (h : c.InForce m) {i : Fin n} (fate : Fate) {version : String}
    (unused : version ∉ m.scene.book.used) {rest : Dialogue (Except Failure Bool)}
    (stage : Stage (c.elector i) m.scene.book (instantAt m.micros) rest)
    (goesOn : rest.goesOn = true) :
    let after := rest.step (instantAt m.micros) (LeaseBook.answer fate version) m.scene.book
    Stage (c.elector i) after.2 (instantAt m.micros) after.1 ∧
      ((after.2 = m.scene.book ∧ after.1 ≠ .done (.ok true)) ∨
        (c.Secured i after.2 m.micros m.micros ∧
          ((∃ l version, version ∉ m.scene.book.used ∧ after.2 = m.scene.book.put l version) ∧
            c.Dated after.2 ∧ ∀ j since, c.Secured j m.scene.book m.micros since → j = i))) := by
  have turn := stage.turn goesOn (instantAt m.micros) fate version
  refine ⟨?_, ?_⟩
  · have next := turn.stage h.kept
    have same : rest.reading (instantAt m.micros) (instantAt m.micros) = instantAt m.micros := by
      cases rest <;> rfl
    rwa [same] at next
  · rcases turn_secures h.dated turn with unwritten | ⟨secured, alone, l, put⟩
    · exact Or.inl unwritten
    · exact Or.inr ⟨secured, ⟨l, version, unused, put⟩, secured.dated, alone⟩

/-- A candidate's step keeps everybody entitled to what they do. -/
theorem work (h : c.InForce m) {i : Fin n} {fate : Fate} {version : String}
    (unused : version ∉ m.scene.book.used) {p : Phase} {b : LeaseBook}
    (step : PhaseStep (c.elector i) m.scene.book (m.micros / 1000) (instantAt m.micros) fate version
      (m.scene.phase i) p b) :
    c.InForce { m with scene := { m.scene with book := b }.set i p } := by
  have sound := h.sound i
  have due : Elector.dueAfter (m.micros / 1000) (c.elector i).timings.renewInterval * 1000 ≤
      m.micros + c.renewal i * Instant.perSecond := by
    rw [c.waits i]
    simp only [Elector.dueAfter, Span.seconds, Span.ceilMillis, Span.perSecond, Span.perMilli,
      Instant.perSecond]
    omega
  generalize m.scene.phase i = before at sound step
  cases step with
  | acquires => exact h.update (Or.inl rfl) ⟨_, sound.2 rfl, due⟩
  | renewed => exact h.update (Or.inl rfl) ⟨_, sound.2.2 rfl, due⟩
  | resumes _ => exact h.update (Or.inl rfl) ⟨.fresh, by simp [Elector.attempt]⟩
  | renews _ =>
    obtain ⟨since, secured, -⟩ := sound
    exact h.update (Or.inl rfl) ⟨.fresh, ⟨since, secured⟩, by simp [Elector.attempt]⟩
  | rests _ _ atRest =>
    refine h.update (Or.inl rfl) ?_
    -- a candidate at rest is entitled to that; the other phases are not at rest
    cases p <;> trivial
  | tries rest goesOn =>
    obtain ⟨stage, written⟩ := h.attempt fate unused sound.1 goesOn
    rcases written with ⟨same, unsure⟩ | ⟨secured, alone⟩
    · exact h.update (Or.inl same) ⟨stage, fun won => absurd won unsure⟩
    · exact h.update (Or.inr alone) ⟨stage, fun _ => secured⟩
  | keeps rest goesOn =>
    obtain ⟨stage, written⟩ := h.attempt fate unused sound.1 goesOn
    rcases written with ⟨same, unsure⟩ | ⟨secured, alone⟩
    · exact h.update (Or.inl same) ⟨stage, by rw [same]; exact sound.2.1, fun won => absurd won unsure⟩
    · exact h.update (Or.inr alone) ⟨stage, ⟨_, secured⟩, fun _ => secured⟩
  | parts rest goesOn =>
    obtain ⟨since, secured⟩ := sound.2 goesOn
    have turn := sound.1.turn goesOn m.scene.book (instantAt m.micros) fate version
    generalize (rest.step (instantAt m.micros) (LeaseBook.answer fate version) m.scene.book).1 =
      rest' at turn
    generalize (rest.step (instantAt m.micros) (LeaseBook.answer fate version) m.scene.book).2 =
      b' at turn
    cases turn with
    | found l read stored own =>
      exact h.update (Or.inl rfl) ⟨.clocking trivial, fun _ => ⟨since, secured⟩⟩
    | clocked => exact h.update (Or.inl rfl) ⟨.leaving trivial _, fun _ => ⟨since, secured⟩⟩
    | ended rest r => exact h.update (Or.inl rfl) ⟨.ended r, by simp [Dialogue.goesOn]⟩
    | vacated now l r stored =>
      refine h.update (Or.inr ⟨⟨_, version, unused, rfl⟩, ?_, fun j _ other => ?_⟩)
        ⟨.ended r, by simp [Dialogue.goesOn]⟩
      · -- nobody holds the lease now
        rintro _ _ j ⟨⟩ ⟨⟩ ⟨⟩
      · exact other.unique secured

/-- Time that passes leaves everybody entitled to what they do. -/
theorem wait (h : c.InForce m) {micros : Nat} (later : m.micros ≤ micros)
    (keeps : ∀ i, (m.scene.phase i).keepsUntil micros = true) :
    c.InForce { m with micros } where
  kept := h.kept
  dated := h.dated
  sound i := by
    have sound := h.sound i
    have keeps := keeps i
    show c.Sound m.scene.book micros i (m.scene.phase i)
    generalize m.scene.phase i = p at sound keeps
    cases p with
    | leading due =>
      obtain ⟨since, secured, inTime⟩ := sound
      refine ⟨since, ⟨secured.lease, Nat.le_trans secured.past later, ?_⟩, inTime⟩
      have shorter := c.inTime i
      simp only [Phase.keepsUntil, decide_eq_true_eq] at keeps
      simp only [Instant.perSecond] at inTime ⊢
      omega
    | attempting rest => simp [Phase.keepsUntil] at keeps
    | renewing rest => simp [Phase.keepsUntil] at keeps
    | releasing rest => simp [Phase.keepsUntil] at keeps
    | _ => trivial

/-- **Whatever happens keeps everybody entitled to what they do.** -/
theorem next (h : c.InForce m) {m' : Moment n} {beat : Beat n} (happens : c.next? m beat = some m') :
    c.InForce m' := by
  cases beat with
  | wait micros =>
    simp only [next?] at happens
    split at happens
    · rename_i ready
      obtain rfl := Option.some.inj happens
      exact h.wait ready.1 ready.2
    · simp at happens
  | begin i =>
    obtain ⟨scene, acts, rfl⟩ := Option.map_eq_some_iff.1 happens
    cases Scene.done_of_act acts with
    | begun => exact h.update (Or.inl rfl) ⟨.fresh, by simp [Elector.attempt]⟩
  | work i fate version =>
    obtain ⟨scene, acts, rfl⟩ := Option.map_eq_some_iff.1 happens
    cases Scene.done_of_act acts with
    | worked _ _ _ _ _ p b unused step => exact h.work unused step
  | release i =>
    simp only [next?] at happens
    split at happens
    · rename_i leads
      obtain ⟨scene, acts, rfl⟩ := Option.map_eq_some_iff.1 happens
      cases Scene.done_of_act acts with
      | parted => exact h.update (Or.inl rfl) ⟨.fresh, fun _ => (h.sound i).secured leads⟩
    · simp at happens
  | leave i =>
    obtain rfl := Option.some.inj happens
    exact h.update (Or.inl rfl) trivial

end InForce

/-- At every moment that is reached every candidate is entitled to what it is doing. -/
theorem inForce_of_reached {c : Contest n} {m : Moment n} (reached : c.Reached m) : c.InForce m := by
  induction reached with
  | start micros =>
    exact ⟨by simp [LeaseBook.Kept], fun _ _ _ stored => by simp at stored, fun _ => trivial⟩
  | next reached happens ih => exact ih.next happens

end Contest

/-- **No two candidates lead at once.**  Whatever candidates with different names do, as long as
their clocks agree and no time passes in the middle of a dialogue: however their requests are mixed
and whichever of them fail, at no moment do two candidates lead. -/
theorem at_most_one_leads {n : Nat} {c : Contest n} {m : Moment n} (reached : c.Reached m)
    {i j : Fin n} (leads : (m.scene.phase i).isLeading = true)
    (leads' : (m.scene.phase j).isLeading = true) : i = j := by
  have inForce := Contest.inForce_of_reached reached
  obtain ⟨since, secured⟩ := (inForce.sound i).secured leads
  obtain ⟨since', secured'⟩ := (inForce.sound j).secured leads'
  exact secured.unique secured'

/-! ## A contest that can be computed -/

/-- The moment after some beats, unless one of them cannot happen. -/
def Contest.follow {n : Nat} (c : Contest n) (m : Moment n) : List (Beat n) → Option (Moment n)
  | [] => some m
  | beat :: later => (c.next? m beat).bind fun m' => c.follow m' later

/-- What comes of some beats can come about. -/
theorem Contest.reached_of_follow {n : Nat} {c : Contest n} {m m' : Moment n}
    {beats : List (Beat n)} (reached : c.Reached m) (follows : c.follow m beats = some m') :
    c.Reached m' := by
  induction beats generalizing m with
  | nil =>
    obtain rfl := Option.some.inj follows
    exact reached
  | cons beat later ih =>
    obtain ⟨m₁, happens, follows⟩ := Option.bind_eq_some_iff.1 follows
    exact ih (.next reached happens) follows

/-- Two candidates that go by the usual times. -/
def twoPodContest : Contest 2 where
  elector := twoPods
  duration _ := 30
  renewal _ := 10
  distinct := by decide
  lasts _ := rfl
  waits _ := rfl
  inTime _ := by decide
  short _ := by decide

/-- The first candidate gets the lease, renews it and crashes; the second one waits, and takes the
lease over a microsecond after it has expired. -/
def handover : List (Beat 2) :=
  .begin podA :: List.replicate 3 (.work podA .heard "1") ++ [.work podA .heard "2", .wait 10000000] ++
    List.replicate 4 (.work podA .heard "2") ++ [.work podA .heard "3", .wait 15000000, .leave podA] ++
    .begin podB :: List.replicate 3 (.work podB .heard "3") ++ [.wait 40000001] ++
    List.replicate 4 (.work podB .heard "3") ++ [.work podB .heard "4"]

/-- After the handover the second candidate is the only leader. -/
theorem at_most_one_leads_after_handover : ∃ m : Moment 2, twoPodContest.Reached m ∧
    (m.scene.phase podB).isLeading = true ∧
    ∀ j, (m.scene.phase j).isLeading = true → j = podB := by
  have rehearsed : (twoPodContest.follow {} handover).any
      (fun m => (m.scene.phase podB).isLeading) = true := by decide +kernel
  obtain ⟨m, follows, leads⟩ := Option.any_eq_true _ _ |>.1 rehearsed
  have reached : twoPodContest.Reached m := Contest.reached_of_follow (.start 0) follows
  exact ⟨m, reached, leads, fun j leads' => at_most_one_leads reached leads' leads⟩

end BucketProvisioning.Leadership

import Mathlib.Tactic.SplitIfs
import BucketProvisioning.Proofs.Leadership.Contest

/-!
# For how long a lease protects its holder

An attempt that works writes the lease, and everybody else goes by what it has written.  The server
is looked at twice, when the lease is read and when it is written; in between others may have done
anything, and what the server keeps may be any document.

* `KeepsOut`: everybody else waits until a point in time.
* `Elector.attempt_stores`: what is stored after an attempt that worked.
* `Elector.attempt_protects`: the lease names the instance and the time of its clock, and keeps
  everybody else out for as long as the instance says, unless the instance has renewed a lease of
  its own that counts for less.
* `Elector.exposed_at_the_limits`: why that exception is needed, and that there are two more limits.
-/

set_option autoImplicit false

namespace BucketProvisioning

/-- Within a leap second seconds are added to it, to what follows it or to what comes before. -/
theorem Instant.addSeconds_of_le {t : Instant} (secs : Int)
    (leap : Instant.perSecond ≤ t.fraction) :
    t.addSeconds secs =
      if secs = 0 then t
      else ⟨t.second + secs + if 0 < secs then 0 else 1, t.fraction - Instant.perSecond⟩ := by
  have inside : t.inLeapSecond = true := decide_eq_true leap
  by_cases none : secs = 0
  · simp [Instant.addSeconds, none]
  · by_cases forward : 0 < secs
    · simp [Instant.addSeconds, inside, none, forward]
    · simp [Instant.addSeconds, inside, none, forward]
      omega

/-- Of two times after a point in time the one with more seconds is not earlier. -/
theorem Instant.addSeconds_lt_of_le {t t' : Instant} {a b : Int} (le : a ≤ b)
    (past : t.addSeconds b < t') : t.addSeconds a < t' := by
  rw [Instant.lt_def] at past ⊢
  rcases Nat.lt_or_ge t.fraction Instant.perSecond with ordinary | leap
  · rw [Instant.addSeconds_of_lt _ _ ordinary] at past ⊢
    dsimp only at past ⊢
    omega
  · rw [Instant.addSeconds_of_le _ leap] at past ⊢
    -- seconds before the leap second, of it and after it keep their order
    simp only [apply_ite Instant.second, apply_ite Instant.fraction] at past ⊢
    split_ifs at past ⊢
    all_goals omega

namespace Leadership

open BucketProvisioning.Resource

/-- Everybody but the holder waits, from a point in time until so many seconds after it. -/
def KeepsOut (spec : LeaseSpec) (holder : String) (now : Instant) (seconds : Nat) : Prop :=
  ∀ other t, other ≠ holder → ¬ t < now → ¬ now.addSeconds seconds < t →
    LeaseAction.choose (some spec) other t = .wait

/-- A lease keeps everybody else out for as long as it counts, if its end has a date. -/
theorem keepsOut_of_durationSeconds {spec : LeaseSpec} {holder : String} {now : Instant}
    {seconds : Nat} {counts : Int} (holds : spec.holder = some holder)
    (renewed : spec.renewTime = some now) (lasts : spec.durationSeconds = some counts)
    (long : (seconds : Int) ≤ counts) (dated : isBeyondDates spec = false) :
    KeepsOut spec holder now seconds := by
  intro other t different _ within
  have live : hasExpired spec t = false := by
    have last : heldUntil? spec = some (now.addSeconds counts) := by
      simp [heldUntil?, renewed, lasts]
    simp only [hasExpired, last, decide_eq_false_iff_not]
    intro past
    exact within (Instant.addSeconds_lt_of_le long past)
  have foreign : ¬ spec.holder = some other := by
    rw [holds]
    intro same
    exact different (Option.some.inj same).symm
  have taken : isFree spec t = false := by
    rw [isFree, live, holds]
    rfl
  simp only [LeaseAction.choose, if_neg foreign, dated, taken, Bool.false_eq_true, if_false]

namespace Elector

variable {e : Elector} {now : Instant} {before during : LeaseServer}

/-- For how many seconds the lease of a new leader counts. -/
def countedSeconds (e : Elector) : Nat := min e.timings.duration.wholeSeconds longestSeconds

/-- An attempt, if its clock shows `now`: the server is `before` when the lease is read, and
`during` when it is written. -/
def attemptAt (e : Elector) (now : Instant) (before during : LeaseServer) :
    Dialogue (Except Failure Bool) × LeaseServer :=
  let begun := (e.attempt.step now LeaseServer.serve before).1
  let informed := (begun.step now LeaseServer.serve before).1
  informed.step now LeaseServer.serve during

/-- What an instance may store, if it has read the lease at `before` and its clock shows `now`. -/
inductive MayStore (e : Elector) (now : Instant) (before : LeaseServer) : LeaseSpec → Prop
  /-- There was no lease. -/
  | created : MayStore e now before (e.freshSpec now 0)
  /-- There was one in place of which it may write another. -/
  | wrote (found : Lease) {spec : LeaseSpec} (read : (LeaseServer.serve .read before).1 = .ok found)
      (may : e.MayWrite now found spec) : MayStore e now before spec

namespace MayStore

variable {spec : LeaseSpec}

/-- What is stored names the instance. -/
theorem holder (may : e.MayStore now before spec) : spec.holder = some e.identity := by
  cases may with
  | created => rfl
  | wrote found read may => exact may.holder

/-- What is stored is renewed at the time of the clock. -/
theorem renewTime (may : e.MayStore now before spec) : spec.renewTime = some now := by
  cases may with
  | created => rfl
  | wrote found read may => exact may.renewTime

/-- What is stored counts as long as the instance says, if what it renews of its own does. -/
theorem durationSeconds (may : e.MayStore now before spec)
    (own : ∀ found, (LeaseServer.serve .read before).1 = .ok found →
      holderOf found = some e.identity →
      ∃ counts, found.spec.bind LeaseSpec.durationSeconds = some counts ∧
        (e.countedSeconds : Int) ≤ counts) :
    ∃ counts, spec.durationSeconds = some counts ∧ (e.countedSeconds : Int) ≤ counts := by
  cases may with
  | created => exact ⟨_, rfl, Int.le_refl _⟩
  | wrote found read may =>
    cases may with
    | takenOver transitions free => exact ⟨_, rfl, Int.le_refl _⟩
    | renewed renews =>
      obtain ⟨counts, lasts, long⟩ := own found read (holder_of_renew renews)
      obtain ⟨spec, is, counted⟩ := Option.bind_eq_some_iff.1 lasts
      refine ⟨counts, ?_, long⟩
      rw [is]
      exact counted

end MayStore

/-- A write that is answered well is stored. -/
theorem stored_of_ok {l l' : Lease} {r : LeaseRequest} (writes : r = .create l ∨ r = .replace l)
    (answered : (LeaseServer.serve r during).1 = .ok l') :
    (LeaseServer.serve r during).2.stored = some (.lease l') ∧ l'.spec = l.spec := by
  obtain ⟨stored⟩ := during
  rcases writes with rfl | rfl
  · cases stored with
    | none =>
      obtain rfl := Except.ok.inj answered
      exact ⟨rfl, rfl⟩
    | some old => cases answered
  · cases stored with
    | none => cases answered
    | some old =>
      simp only [LeaseServer.serve] at answered ⊢
      split at answered
      · next current =>
        obtain rfl := Except.ok.inj answered
        rw [if_pos current]
        exact ⟨rfl, rfl⟩
      · cases answered

/-- An attempt that works by its write has it stored. -/
theorem stored_of_judgeWrite {l : Lease} {r : LeaseRequest}
    (writes : r = .create l ∨ r = .replace l)
    (won : judgeWrite (LeaseServer.serve r during).1 = .done (.ok true)) :
    ∃ l', (LeaseServer.serve r during).2.stored = some (.lease l') ∧ l'.spec = l.spec := by
  obtain ⟨r', judged, sure⟩ := judgeWrite_eq (LeaseServer.serve r during).1
  cases reply : (LeaseServer.serve r during).1 with
  | ok l' => exact ⟨l', stored_of_ok writes reply⟩
  | error fault =>
    rw [judged] at won
    exact absurd (Dialogue.done.inj won) (sure ⟨fault, reply⟩)

/-- An attempt that has read a lease goes on with it. -/
theorem attemptAt_of_ok {found : Lease} (read : (LeaseServer.serve .read before).1 = .ok found) :
    e.attemptAt now before during =
      (e.useLease now found).step now LeaseServer.serve during := by
  simp only [attemptAt, attempt, Dialogue.step, read]

/-- An attempt that has not read a lease creates one, if there is none. -/
theorem attemptAt_of_error {fault : ApiFault}
    (read : (LeaseServer.serve .read before).1 = .error fault) :
    e.attemptAt now before during =
      (if fault.hasCode 404 then e.createLease now
        else .done (.error (.api fault))).step now LeaseServer.serve during := by
  simp only [attemptAt, attempt, Dialogue.step, read]
  rfl

/-- **What is stored after an attempt that worked.** -/
theorem attempt_stores (won : (e.attemptAt now before during).1 = .done (.ok true)) :
    ∃ l spec, (e.attemptAt now before during).2.stored = some (.lease l) ∧ l.spec = some spec ∧
      e.MayStore now before spec := by
  cases read : (LeaseServer.serve .read before).1 with
  | error fault =>
    rw [attemptAt_of_error read] at won ⊢
    by_cases absent : fault.hasCode 404 = true
    · rw [if_pos absent] at won ⊢
      obtain ⟨l, stored, spec⟩ := stored_of_judgeWrite (.inl rfl) won
      exact ⟨l, _, stored, spec, .created⟩
    · rw [if_neg absent] at won
      cases won
  | ok found =>
    rw [attemptAt_of_ok read] at won ⊢
    rcases e.useLease_cases now found with ⟨r, done, unsure⟩ | broken | ⟨v, spec, -, uses, may⟩
    · rw [done] at won
      exact absurd (Dialogue.done.inj won) unsure
    · rw [broken] at won
      cases won
    · rw [uses] at won ⊢
      obtain ⟨l, stored, written⟩ := stored_of_judgeWrite (.inr rfl) won
      exact ⟨l, spec, stored, written, .wrote found read may⟩

/-- **An attempt that works protects the instance.**  The lease names it and the time of its clock.
Unless the instance has renewed a lease of its own that counts for less, everybody else waits for as
long as the instance says, if the lease can say that and the end of the lease has a date. -/
theorem attempt_protects (won : (e.attemptAt now before during).1 = .done (.ok true)) :
    ∃ l spec, (e.attemptAt now before during).2.stored = some (.lease l) ∧ l.spec = some spec ∧
      spec.holder = some e.identity ∧ spec.renewTime = some now ∧
      ((∀ found, (LeaseServer.serve .read before).1 = .ok found →
          holderOf found = some e.identity →
          ∃ counts, found.spec.bind LeaseSpec.durationSeconds = some counts ∧
            (e.countedSeconds : Int) ≤ counts) →
        isBeyondDates spec = false → KeepsOut spec e.identity now e.countedSeconds) := by
  obtain ⟨l, spec, stored, is, may⟩ := attempt_stores won
  refine ⟨l, spec, stored, is, may.holder, may.renewTime, ?_⟩
  intro own dated
  obtain ⟨counts, lasts, long⟩ := may.durationSeconds own
  exact keepsOut_of_durationSeconds may.holder may.renewTime lasts long dated

/-! ## At the limits -/

/-- An instance whose leases count for so many seconds. -/
def lasting (seconds : Nat) : Elector where
  leaseName := "bucket-operator-leader"
  ns := "system"
  identity := "pod-a"
  timings := { duration := .seconds seconds }

/-- A server with a lease of that instance, which may say for how many seconds it counts. -/
def ownLease (counts : Option Int) : LeaseServer :=
  ⟨some (.lease {
    metadata := { resourceVersion := some "1" }
    spec := some {
      holder := some "pod-a", durationSeconds := counts, renewTime := some ⟨95, 0⟩ } })⟩

/-- A renewal protects the instance if the lease counts for long enough. -/
theorem renewal_protects : ∃ l spec,
    ((lasting 30).attemptAt ⟨100, 0⟩ (ownLease (some 60)) (ownLease (some 60))).2.stored =
      some (.lease l) ∧
    l.spec = some spec ∧ LeaseAction.choose (some spec) "pod-b" ⟨130, 0⟩ = .wait := by
  have won : ((lasting 30).attemptAt ⟨100, 0⟩ (ownLease (some 60)) (ownLease (some 60))).1 =
      .done (.ok true) := rfl
  obtain ⟨l, spec, stored, is, -, -, keeps⟩ := attempt_protects won
  refine ⟨l, spec, stored, is, keeps ?_ ?_ "pod-b" ⟨130, 0⟩ (by decide) (by decide) (by decide)⟩
  · intro found read _
    obtain rfl := Except.ok.inj read
    exact ⟨60, rfl, by decide⟩
  · obtain rfl := StoredLease.lease.inj (Option.some.inj stored)
    obtain rfl := Option.some.inj is
    decide

/-- An attempt works, but the instance is not protected for as long as it says. -/
def Exposed (e : Elector) (now : Instant) (s : LeaseServer) : Prop :=
  (e.attemptAt now s s).1 = .done (.ok true) ∧
    ∃ l spec, (e.attemptAt now s s).2.stored = some (.lease l) ∧ l.spec = some spec ∧
      ¬ KeepsOut spec e.identity now e.timings.duration.wholeSeconds

/-- **A lease need not count for as long as its holder says.**  A renewal leaves the duration of the
lease alone, even if it says none; a new lease cannot say every duration; and a lease whose end has
no date keeps nobody out. -/
theorem exposed_at_the_limits :
    (lasting 30).Exposed ⟨100, 0⟩ (ownLease (some 10)) ∧
      (lasting 30).Exposed ⟨100, 0⟩ (ownLease none) ∧
      (lasting 3000000000).Exposed ⟨100, 0⟩ {} ∧
      (lasting 30).Exposed ⟨lastDay * Instant.perDay + 86399, 0⟩ {} := by
  refine ⟨⟨rfl, _, _, rfl, rfl, ?_⟩, ⟨rfl, _, _, rfl, rfl, ?_⟩, ⟨rfl, _, _, rfl, rfl, ?_⟩,
    ⟨rfl, _, _, rfl, rfl, ?_⟩⟩
  · intro out
    have waits := out "pod-b" ⟨120, 0⟩ (by decide) (by decide) (by decide)
    exact absurd waits (by decide)
  · intro out
    have waits := out "pod-b" ⟨120, 0⟩ (by decide) (by decide) (by decide)
    exact absurd waits (by decide)
  · intro out
    have waits := out "pod-b" ⟨2900000000, 0⟩ (by decide) (by decide) (by decide)
    exact absurd waits (by decide)
  · intro out
    have waits := out "pod-b" ⟨lastDay * Instant.perDay + 86399, 0⟩ (by decide) (by decide)
      (by decide)
    exact absurd waits (by decide)

end Elector

end Leadership

end BucketProvisioning

import BucketProvisioning.Leadership.Candidate
import BucketProvisioning.Leadership.Server

/-!
# Several candidates and one lease

Any number of candidates whose requests reach the server of the lease one at a time, in any order.
The server gives every write a version that no lease has had before.  A request may fail, whether or
not it has taken effect.  Any time may pass between two requests, and each of them reads its own
clock; what is assumed of time is said where it is needed.

* `LeaseBook`: what the server keeps; `LeaseBook.serve_eq` ties it to the server that counts its
  writes.
* `Scene.act?`: what a candidate does.
* `Turn` and `Parting`: what a step of a dialogue does, to the dialogue and to the lease.
* `Stage`: how far an attempt to get the lease has come.  It keeps the one fact that makes a
  replacement safe: if the lease still has the version that was read, then it is the lease that was
  read.
-/

set_option autoImplicit false

namespace BucketProvisioning.Leadership

open BucketProvisioning BucketProvisioning.Resource

/-! ## The server -/

/-- The lease that a server keeps, and every version that it has had. -/
structure LeaseBook where
  /-- The lease. -/
  stored : Option Lease := none
  /-- The versions. -/
  used : List String := []

/-- What becomes of a request. -/
inductive Fate where
  /-- It is answered. -/
  | heard
  /-- It takes effect, but what comes back is an error. -/
  | unheard (fault : ApiFault)
  /-- It does not take effect, and what comes back is an error. -/
  | lost (fault : ApiFault)

/-- Who holds a lease. -/
def holderOf (l : Lease) : Option String := l.spec.bind LeaseSpec.holder

/-- A lease whose holder is taken away, as if it were renewed at a time. -/
def vacatedLease (l : Lease) (renewed : Instant) : Lease :=
  { l with spec := some { l.spec.getD {} with holder := none, renewTime := some renewed } }

namespace LeaseBook

/-- A lease is written. -/
def put (b : LeaseBook) (l : Lease) (version : String) : LeaseBook :=
  ⟨some (LeaseServer.withVersion l version), version :: b.used⟩

/-- Who holds the lease. -/
def holder? (b : LeaseBook) : Option String := b.stored.bind holderOf

/-- Answers a request; a write gives the lease the version. -/
def serve (version : String) (r : LeaseRequest) (b : LeaseBook) :
    Except ApiFault Lease × LeaseBook :=
  match r, b.stored with
  | .read, some l => (.ok l, b)
  | .create l, none => (.ok (LeaseServer.withVersion l version), b.put l version)
  | .create _, some _ => (.error LeaseServer.conflict, b)
  | .replace l, some old =>
    if old.metadata.resourceVersion = l.metadata.resourceVersion then
      (.ok (LeaseServer.withVersion l version), b.put l version)
    else (.error LeaseServer.conflict, b)
  | .vacate renewed, some old =>
    (.ok (LeaseServer.withVersion (vacatedLease old renewed) version),
      b.put (vacatedLease old renewed) version)
  | _, none => (.error LeaseServer.absent, b)

/-- Answers a request, unless something goes wrong. -/
def answer (fate : Fate) (version : String) (r : LeaseRequest) (b : LeaseBook) :
    Except ApiFault Lease × LeaseBook :=
  match fate with
  | .heard => b.serve version r
  | .unheard fault => (.error fault, (b.serve version r).2)
  | .lost fault => (.error fault, b)

/-- The version that a server that counts its writes gives the next one. -/
def countedVersion (b : LeaseBook) : String :=
  match b.stored with
  | some l => (StoredLease.lease l).nextVersion
  | none => "1"

/-- A server that counts its writes answers in the same way. -/
theorem serve_eq (r : LeaseRequest) (b : LeaseBook) :
    LeaseServer.serve r ⟨b.stored.map .lease⟩ =
      ((b.serve b.countedVersion r).1, ⟨(b.serve b.countedVersion r).2.stored.map .lease⟩) := by
  obtain ⟨stored, used⟩ := b
  cases stored with
  | none => cases r <;> rfl
  | some old =>
    cases r with
    | replace l =>
      by_cases current : old.metadata.resourceVersion = l.metadata.resourceVersion
      · simp [LeaseServer.serve, serve, StoredLease.version?, current, countedVersion, put]
      · simp [LeaseServer.serve, serve, StoredLease.version?, current]
    | _ => rfl

/-- The version of the lease is among those that it has had. -/
def Kept (b : LeaseBook) : Prop :=
  ∀ l, b.stored = some l → ∃ version ∈ b.used, l.metadata.resourceVersion = some version

/-- Whatever is written, its version is used up. -/
theorem kept_put (b : LeaseBook) (l : Lease) (version : String) : (b.put l version).Kept := by
  intro l' is
  obtain rfl := Option.some.inj is
  exact ⟨version, List.mem_cons_self, rfl⟩

end LeaseBook

/-! ## The candidates -/

/-- The candidates and the lease. -/
structure Scene (n : Nat) where
  /-- What each candidate is doing. -/
  phase : Fin n → Phase := fun _ => .outside
  /-- The lease. -/
  book : LeaseBook := {}

/-- Something that is done. -/
inductive Act (n : Nat) where
  /-- A candidate begins to compete. -/
  | begin (i : Fin n)
  /-- A candidate takes its next step at the millisecond `now` of its timers, with its clock at
  `time`; `fate` and `version` say what becomes of a request. -/
  | work (i : Fin n) (now : Nat) (time : Instant) (fate : Fate) (version : String)
  /-- A candidate begins to give the lease up. -/
  | release (i : Fin n)
  /-- A candidate stops whatever it is doing. -/
  | leave (i : Fin n)

namespace Scene

variable {n : Nat}

/-- A candidate turns to something else. -/
def set (s : Scene n) (i : Fin n) (p : Phase) : Scene n :=
  { s with phase := fun j => if j = i then p else s.phase j }

/-- A candidate that is set leaves the others as they are. -/
@[simp] theorem phase_set (s : Scene n) (i j : Fin n) (p : Phase) :
    (s.set i p).phase j = if j = i then p else s.phase j := rfl

/-- The scene after something that is done; nothing if it cannot be done. -/
def act? (elector : Fin n → Elector) (s : Scene n) : Act n → Option (Scene n)
  | .begin i =>
    match s.phase i with
    | .outside => some (s.set i (.attempting (elector i).attempt))
    | .released _ => some (s.set i (.attempting (elector i).attempt))
    | _ => none
  | .work i now time fate version =>
    if version ∈ s.book.used then none
    else
      ((elector i).step now time (LeaseBook.answer fate version) (s.phase i) s.book).map
        fun r => { s with book := r.2 }.set i r.1
  | .release i =>
    if (s.phase i).holdsGuard then some (s.set i ((elector i).beginRelease (s.phase i))) else none
  | .leave i => some (s.set i .outside)

end Scene

/-! ## Dialogues -/

/-- What an instance renews is its own. -/
theorem holder_of_renew {spec : Option LeaseSpec} {identity : String} {now : Instant}
    (chosen : LeaseAction.choose spec identity now = .renew) :
    spec.bind LeaseSpec.holder = some identity := by
  unfold LeaseAction.choose at chosen
  split at chosen
  · simp at chosen
  · split at chosen
    · rename_i own
      exact own
    · split at chosen
      · simp at chosen
      · split at chosen <;> simp at chosen

/-- A lease that may be taken over from a holder has expired. -/
theorem expired_of_takeOver {l : Lease} {identity y : String} {t : Instant} {transitions : Int}
    (holds : holderOf l = some y)
    (chosen : LeaseAction.choose l.spec identity t = .takeOver transitions) :
    ∃ spec, l.spec = some spec ∧ hasExpired spec t = true := by
  obtain ⟨spec, is, held⟩ := Option.bind_eq_some_iff.1 holds
  refine ⟨spec, is, ?_⟩
  unfold LeaseAction.choose at chosen
  rw [is] at chosen
  dsimp only at chosen
  split at chosen
  · simp at chosen
  · split at chosen
    · simp at chosen
    · split at chosen
      · rename_i free
        simpa [isFree, held] using free
      · simp at chosen

namespace Elector

variable (e : Elector)

/-- An attempt whose clock has been read. -/
def look (now : Instant) : Dialogue (Except Failure Bool) :=
  .ask .read fun
    | .ok found => e.useLease now found
    | .error fault =>
      if fault.hasCode 404 then .ask (.create (e.lease none (e.freshSpec now 0))) judgeWrite
      else .done (.error (.api fault))

/-- An attempt that has found no lease. -/
def createLease (now : Instant) : Dialogue (Except Failure Bool) :=
  .ask (.create (e.lease none (e.freshSpec now 0))) judgeWrite

/-- A release that has found the lease and read the clock. -/
def farewell (now : Instant) : Dialogue (Except Failure Unit) :=
  .ask (.vacate (now.addSeconds (-vacatedSeconds))) fun
    | .ok _ => .done (.ok ())
    | .error fault => .done (.error (.api fault))

/-- What the candidate may write in place of a lease, if its clock shows `t`. -/
inductive MayWrite (t : Instant) (l : Lease) : LeaseSpec → Prop
  /-- The lease is its own, and it renews it. -/
  | renewed (own : LeaseAction.choose l.spec e.identity t = .renew) :
      MayWrite t l { l.spec.getD {} with renewTime := some t }
  /-- The lease is free, and it takes it over. -/
  | takenOver (transitions : Int)
      (free : LeaseAction.choose l.spec e.identity t = .takeOver transitions) :
      MayWrite t l (e.freshSpec t (afterOneMore transitions))

namespace MayWrite

variable {e : Elector} {t : Instant} {l : Lease} {spec : LeaseSpec}

/-- What a candidate writes names the candidate. -/
theorem holder (may : e.MayWrite t l spec) : spec.holder = some e.identity := by
  cases may with
  | takenOver transitions free => rfl
  | renewed own =>
    obtain ⟨spec, is, holds⟩ := Option.bind_eq_some_iff.1 (holder_of_renew own)
    simpa [is] using holds

/-- What a candidate writes is renewed at the time of its clock. -/
theorem renewTime (may : e.MayWrite t l spec) : spec.renewTime = some t := by
  cases may <;> rfl

/-- A candidate writes in place of its own lease, or of one that has expired. -/
theorem of_held (may : e.MayWrite t l spec) {y : String} (holds : holderOf l = some y) :
    y = e.identity ∨ ∃ spec, l.spec = some spec ∧ hasExpired spec t = true := by
  cases may with
  | renewed own => exact Or.inl (Option.some.inj (holds.symm.trans (holder_of_renew own)))
  | takenOver transitions free => exact Or.inr (expired_of_takeOver holds free)

end MayWrite

/-- What is done with a lease that was found: nothing more, or it is replaced. -/
theorem useLease_cases (t : Instant) (found : Lease) :
    (∃ r, e.useLease t found = .done r ∧ r ≠ .ok true) ∨ e.useLease t found = .broken ∨
    ∃ version spec, found.metadata.resourceVersion = some version ∧
      e.useLease t found = e.write version spec ∧ e.MayWrite t found spec := by
  unfold useLease
  cases read : found.metadata.resourceVersion with
  | none => exact Or.inl ⟨_, rfl, by simp⟩
  | some version =>
    dsimp only
    cases chosen : LeaseAction.choose found.spec e.identity t with
    | wait => exact Or.inl ⟨_, rfl, by simp⟩
    | breakDown => exact Or.inr (Or.inl rfl)
    | renew => exact Or.inr (Or.inr ⟨version, _, rfl, rfl, .renewed chosen⟩)
    | takeOver transitions =>
      exact Or.inr (Or.inr ⟨version, _, rfl, rfl, .takenOver transitions chosen⟩)

end Elector

/-- How far an attempt to get the lease has come, if it has read its clock at `t`. -/
inductive Stage (e : Elector) (b : LeaseBook) (t : Instant) :
    Dialogue (Except Failure Bool) → Prop
  /-- It has not begun. -/
  | fresh : Stage e b t e.attempt
  /-- It is going to read the lease. -/
  | looking : Stage e b t (e.look t)
  /-- It has found a lease.  If the lease still has the same version then it is still the same. -/
  | deciding (found : Lease)
      (seen : ∀ version, found.metadata.resourceVersion = some version →
        version ∈ b.used ∧
          ∀ l, b.stored = some l → l.metadata.resourceVersion = some version → l = found) :
      Stage e b t (e.useLease t found)
  /-- It has found none. -/
  | creating : Stage e b t (e.createLease t)
  /-- It is over. -/
  | ended (r : Except Failure Bool) : Stage e b t (.done r)

/-- What a step of an attempt does that has read its clock at `t`, to the attempt and to the
lease. -/
inductive Turn (e : Elector) (b : LeaseBook) (t time : Instant) (version : String) :
    Dialogue (Except Failure Bool) → Dialogue (Except Failure Bool) → LeaseBook → Prop
  /-- The clock is read. -/
  | clocked : Turn e b t time version e.attempt (e.look time) b
  /-- The lease is found. -/
  | found (l : Lease) (stored : b.stored = some l) :
      Turn e b t time version (e.look t) (e.useLease t l) b
  /-- No lease is found. -/
  | missed : Turn e b t time version (e.look t) (e.createLease t) b
  /-- A request has not worked. -/
  | ended (rest : Dialogue (Except Failure Bool)) (r : Except Failure Bool) (unsure : r ≠ .ok true)
      (asks : rest.request?.isSome = true) : Turn e b t time version rest (.done r) b
  /-- The lease is created. -/
  | created (r : Except Failure Bool) (none : b.stored = none) :
      Turn e b t time version (e.createLease t) (.done r)
        (b.put (e.lease .none (e.freshSpec t 0)) version)
  /-- The lease is replaced. -/
  | replaced (l : Lease) (v : String) (spec : LeaseSpec) (r : Except Failure Bool)
      (stored : b.stored = some l) (uses : e.useLease t l = e.write v spec) :
      Turn e b t time version (e.useLease t l) (.done r) (b.put (e.lease (some v) spec) version)

/-! ## Steps of dialogues -/

/-- What a request does to the lease if it takes effect. -/
inductive Written (b : LeaseBook) (version : String) : LeaseRequest → LeaseBook → Prop
  /-- There is none, and it is created. -/
  | created (l : Lease) (none : b.stored = none) : Written b version (.create l) (b.put l version)
  /-- It has the version of the replacement, and is replaced. -/
  | replaced (l old : Lease) (stored : b.stored = some old)
      (current : old.metadata.resourceVersion = l.metadata.resourceVersion) :
      Written b version (.replace l) (b.put l version)
  /-- Its holder is taken away. -/
  | vacated (renewed : Instant) (old : Lease) (stored : b.stored = some old) :
      Written b version (.vacate renewed) (b.put (vacatedLease old renewed) version)

/-- A request writes the lease; or it leaves the lease alone, and either it is not answered well or
it reads the lease. -/
theorem LeaseBook.answer_cases (b : LeaseBook) (fate : Fate) (version : String)
    (r : LeaseRequest) :
    Written b version r (b.answer fate version r).2 ∨
      ((b.answer fate version r).2 = b ∧
        ((∃ fault, (b.answer fate version r).1 = .error fault) ∨
          ∃ l, r = .read ∧ b.stored = some l ∧ (b.answer fate version r).1 = .ok l)) := by
  have served : Written b version r (b.serve version r).2 ∨
      ((b.serve version r).2 = b ∧
        ((∃ fault, (b.serve version r).1 = .error fault) ∨
          ∃ l, r = .read ∧ b.stored = some l ∧ (b.serve version r).1 = .ok l)) := by
    cases stored : b.stored with
    | none =>
      cases r with
      | create l =>
        refine Or.inl ?_
        simp only [serve, stored]
        exact .created l stored
      | _ => exact Or.inr ⟨by simp [serve, stored], Or.inl ⟨_, by simp [serve, stored]; rfl⟩⟩
    | some old =>
      cases r with
      | read => exact Or.inr ⟨by simp [serve, stored], Or.inr ⟨old, rfl, rfl, by simp [serve, stored]⟩⟩
      | create l => exact Or.inr ⟨by simp [serve, stored], Or.inl ⟨_, by simp [serve, stored]; rfl⟩⟩
      | replace l =>
        by_cases current : old.metadata.resourceVersion = l.metadata.resourceVersion
        · refine Or.inl ?_
          simp only [serve, stored, current, if_true]
          exact .replaced l old stored current
        · exact Or.inr ⟨by simp [serve, stored, current],
            Or.inl ⟨_, by simp [serve, stored, current]; rfl⟩⟩
      | vacate renewed =>
        refine Or.inl ?_
        simp only [serve, stored]
        exact .vacated renewed old stored
  cases fate with
  | heard => exact served
  | unheard fault =>
    exact served.imp_right fun unwritten => ⟨unwritten.1, Or.inl ⟨fault, rfl⟩⟩
  | lost fault => exact Or.inr ⟨rfl, Or.inl ⟨fault, rfl⟩⟩

/-- A step of a dialogue leaves the lease alone or writes it once. -/
theorem Dialogue.book_step {β : Type} (rest : Dialogue β) (time : Instant) (fate : Fate)
    (version : String) (b : LeaseBook) :
    (rest.step time (LeaseBook.answer fate version) b).2 = b ∨
      ∃ l, (rest.step time (LeaseBook.answer fate version) b).2 = b.put l version := by
  cases rest with
  | done r => exact Or.inl rfl
  | broken => exact Or.inl rfl
  | clock next => exact Or.inl rfl
  | ask r next =>
    show (b.answer fate version r).2 = b ∨ ∃ l, (b.answer fate version r).2 = b.put l version
    rcases b.answer_cases fate version r with writes | ⟨same, -⟩
    · generalize (b.answer fate version r).2 = b' at writes
      cases writes with
      | created l none => exact Or.inr ⟨l, rfl⟩
      | replaced l old stored current => exact Or.inr ⟨l, rfl⟩
      | vacated renewed old stored => exact Or.inr ⟨_, rfl⟩
    · exact Or.inl same

/-- Whether a dialogue goes on. -/
def Dialogue.goesOn {β : Type} : Dialogue β → Bool
  | .clock _ => true
  | .ask _ _ => true
  | _ => false

/-- The reply to a write ends the attempt, and an error is no success. -/
theorem judgeWrite_eq (reply : Except ApiFault Lease) :
    ∃ r, Elector.judgeWrite reply = .done r ∧ ((∃ fault, reply = .error fault) → r ≠ .ok true) := by
  cases reply with
  | ok l => exact ⟨_, rfl, by simp⟩
  | error fault =>
    refine ⟨_, rfl, fun _ => ?_⟩
    split <;> simp

section turns

variable {e : Elector} {b : LeaseBook} {t time : Instant} {version : String}

/-- **Every step of an attempt is a turn.** -/
theorem Stage.turn {rest : Dialogue (Except Failure Bool)} (stage : Stage e b t rest)
    (goesOn : rest.goesOn = true) (time : Instant) (fate : Fate) (version : String) :
    Turn e b t time version rest (rest.step time (LeaseBook.answer fate version) b).1
      (rest.step time (LeaseBook.answer fate version) b).2 := by
  cases stage with
  | fresh => exact .clocked
  | ended r => simp [Dialogue.goesOn] at goesOn
  | looking =>
    simp only [Elector.look, Dialogue.step]
    rcases b.answer_cases fate version .read with writes | ⟨same, ⟨fault, failed⟩ | ⟨l, -, stored, read⟩⟩
    · cases writes
    · rw [same, failed]
      dsimp only
      split
      · exact .missed
      · exact .ended _ _ (by simp) rfl
    · rw [same, read]
      exact .found l stored
  | creating =>
    obtain ⟨r, judged, sure⟩ := judgeWrite_eq (b.answer fate version
      (.create (e.lease none (e.freshSpec t 0)))).1
    simp only [Elector.createLease, Dialogue.step]
    rw [judged]
    rcases b.answer_cases fate version (.create (e.lease none (e.freshSpec t 0))) with
      writes | ⟨same, failed | ⟨l, reads, -⟩⟩
    · generalize (b.answer fate version (.create (e.lease none (e.freshSpec t 0)))).2 = b' at writes
      cases writes with
      | created l none => exact .created r none
    · rw [same]
      exact .ended _ r (sure failed) rfl
    · simp at reads
  | deciding found seen =>
    rcases e.useLease_cases t found with ⟨r, done, -⟩ | broken | ⟨v, spec, read, uses, -⟩
    · simp [done, Dialogue.goesOn] at goesOn
    · simp [broken, Dialogue.goesOn] at goesOn
    · obtain ⟨r, judged, sure⟩ := judgeWrite_eq (b.answer fate version
        (.replace (e.lease (some v) spec))).1
      have steps : (e.useLease t found).step time (LeaseBook.answer fate version) b =
          (.done r, (b.answer fate version (.replace (e.lease (some v) spec))).2) := by
        rw [uses, ← judged]
        rfl
      rw [steps]
      dsimp only
      rcases b.answer_cases fate version (.replace (e.lease (some v) spec)) with
        writes | ⟨same, failed | ⟨l, reads, -⟩⟩
      · generalize after : (b.answer fate version (.replace (e.lease (some v) spec))).2 = b' at writes
        cases writes with
        | replaced l old stored current =>
          obtain rfl := (seen v read).2 old stored current
          exact .replaced old v spec r stored uses
      · rw [same]
        exact .ended _ r (sure failed) (by rw [uses]; rfl)
      · simp at reads

/-- The time that an attempt goes by after a step at `time`, if it went by `t` before. -/
def Dialogue.reading {β : Type} (rest : Dialogue β) (time t : Instant) : Instant :=
  match rest with
  | .clock _ => time
  | _ => t

/-- A turn brings an attempt from one stage to the next. -/
theorem Turn.stage {rest rest' : Dialogue (Except Failure Bool)} {b' : LeaseBook} (kept : b.Kept)
    (turn : Turn e b t time version rest rest' b') : Stage e b' (rest.reading time t) rest' := by
  cases turn with
  | clocked => exact .looking
  | found l stored =>
    refine .deciding l fun v read => ?_
    obtain ⟨v', used, has⟩ := kept l stored
    obtain rfl := Option.some.inj (has.symm.trans read)
    refine ⟨used, fun l' stored' _ => ?_⟩
    exact Option.some.inj (stored'.symm.trans stored)
  | missed => exact .creating
  | ended rest r unsure asks => exact .ended r
  | created r none => exact .ended r
  | replaced l v spec r stored uses => exact .ended r

/-- An attempt stays where it is when somebody else writes the lease. -/
theorem Stage.frame {rest : Dialogue (Except Failure Bool)} (stage : Stage e b t rest) (l : Lease)
    (unused : version ∉ b.used) : Stage e (b.put l version) t rest := by
  cases stage with
  | fresh => exact .fresh
  | looking => exact .looking
  | creating => exact .creating
  | ended r => exact .ended r
  | deciding found seen =>
    refine .deciding found fun v read => ?_
    obtain ⟨used, -⟩ := seen v read
    refine ⟨List.mem_cons_of_mem _ used, fun l' stored has => ?_⟩
    -- the lease has a new version now
    obtain rfl := Option.some.inj stored
    obtain rfl : version = v := Option.some.inj has
    exact absurd used unused

/-- What a turn does to the lease: nothing, and the attempt does not succeed; or the lease is
created, or replaced by what the candidate may write. -/
theorem Turn.wrote {rest rest' : Dialogue (Except Failure Bool)} {b' : LeaseBook}
    (turn : Turn e b t time version rest rest' b') :
    (b' = b ∧ rest' ≠ .done (.ok true)) ∨
      (b.stored = none ∧ b' = b.put (e.lease none (e.freshSpec t 0)) version) ∨
      ∃ l v spec, b.stored = some l ∧ b' = b.put (e.lease (some v) spec) version ∧
        e.MayWrite t l spec := by
  cases turn with
  | clocked => exact Or.inl ⟨rfl, by simp [Elector.look]⟩
  | missed => exact Or.inl ⟨rfl, by simp [Elector.createLease]⟩
  | ended rest r unsure asks => exact Or.inl ⟨rfl, by simpa using unsure⟩
  | created r none => exact Or.inr (Or.inl ⟨none, rfl⟩)
  | found l stored =>
    refine Or.inl ⟨rfl, ?_⟩
    rcases e.useLease_cases t l with ⟨r, done, unsure⟩ | broken | ⟨v, spec, -, uses, -⟩
    · simpa [done] using unsure
    · simp [broken]
    · simp [uses, Elector.write]
  | replaced l v spec r stored uses =>
    refine Or.inr (Or.inr ⟨l, v, spec, stored, rfl, ?_⟩)
    rcases e.useLease_cases t l with ⟨r, done, -⟩ | broken | ⟨v', spec', -, uses', may⟩
    · simp [done, Elector.write] at uses
    · simp [broken, Elector.write] at uses
    · have same : spec' = spec := by
        have writes := uses'.symm.trans uses
        simp only [Elector.write, Elector.lease, Dialogue.ask.injEq, LeaseRequest.replace.injEq,
          Lease.mk.injEq, Option.some.injEq] at writes
        exact writes.1.2
      exact same ▸ may

end turns

/-- How far giving the lease up has come; `P` holds since it has found that the candidate holds the
lease. -/
inductive Parting (e : Elector) (P : Prop) : Dialogue (Except Failure Unit) → Prop
  /-- It has not begun. -/
  | fresh : Parting e P e.release
  /-- It is going to read the clock. -/
  | clocking (p : P) : Parting e P (.clock Elector.farewell)
  /-- It is going to take the holder away. -/
  | leaving (p : P) (now : Instant) : Parting e P (Elector.farewell now)
  /-- It is over. -/
  | ended (r : Except Failure Unit) : Parting e P (.done r)

/-- Who is going to take the holder away has found that the lease is its own. -/
theorem Parting.of_farewell {e : Elector} {P : Prop} {now : Instant}
    (parting : Parting e P (Elector.farewell now)) : P := by
  generalize is : Elector.farewell now = rest at parting
  cases parting with
  | fresh => simp [Elector.farewell, Elector.release] at is
  | clocking p => exact p
  | leaving p now => exact p
  | ended r => simp [Elector.farewell] at is

/-- What a step of giving the lease up does, to the dialogue and to the lease. -/
inductive PartingTurn (e : Elector) (b : LeaseBook) (time : Instant) (fate : Fate)
    (version : String) :
    Dialogue (Except Failure Unit) → Dialogue (Except Failure Unit) → LeaseBook → Prop
  /-- The candidate finds that it holds the lease. -/
  | found (l : Lease) (read : (b.answer fate version .read).1 = .ok l)
      (stored : b.stored = some l) (own : holderOf l = some e.identity) :
      PartingTurn e b time fate version e.release (.clock Elector.farewell) b
  /-- The clock is read. -/
  | clocked : PartingTurn e b time fate version (.clock Elector.farewell) (Elector.farewell time) b
  /-- Nothing is left to be done, or a request has not worked. -/
  | ended (rest : Dialogue (Except Failure Unit)) (r : Except Failure Unit) :
      PartingTurn e b time fate version rest (.done r) b
  /-- The holder is taken away. -/
  | vacated (now : Instant) (l : Lease) (r : Except Failure Unit) (stored : b.stored = some l) :
      PartingTurn e b time fate version (Elector.farewell now) (.done r)
        (b.put (vacatedLease l (now.addSeconds (-Elector.vacatedSeconds))) version)

/-- **Every step of giving the lease up is a turn.** -/
theorem Parting.turn {e : Elector} {P : Prop} {rest : Dialogue (Except Failure Unit)}
    (parting : Parting e P rest) (goesOn : rest.goesOn = true) (b : LeaseBook) (time : Instant)
    (fate : Fate) (version : String) :
    PartingTurn e b time fate version rest
      (rest.step time (LeaseBook.answer fate version) b).1
      (rest.step time (LeaseBook.answer fate version) b).2 := by
  cases parting with
  | clocking p => exact .clocked
  | ended r => simp [Dialogue.goesOn] at goesOn
  | fresh =>
    simp only [Elector.release, Dialogue.step]
    rcases b.answer_cases fate version .read with writes | ⟨same, ⟨fault, failed⟩ | ⟨l, -, stored, read⟩⟩
    · cases writes
    · rw [same, failed]
      exact .ended _ _
    · rw [same, read]
      dsimp only
      split
      · rename_i own
        exact .found l read stored own
      · exact .ended _ _
  | leaving p now =>
    have ends (reply : Except ApiFault Lease) : ∃ r, (match reply with
        | .ok _ => .done (.ok ())
        | .error fault => .done (.error (.api fault)) : Dialogue (Except Failure Unit)) = .done r := by
      cases reply <;> exact ⟨_, rfl⟩
    simp only [Elector.farewell, Dialogue.step]
    obtain ⟨r, ended⟩ := ends
      (b.answer fate version (.vacate (now.addSeconds (-Elector.vacatedSeconds)))).1
    rw [ended]
    rcases b.answer_cases fate version (.vacate (now.addSeconds (-Elector.vacatedSeconds))) with
      writes | ⟨same, -⟩
    · generalize (b.answer fate version (.vacate (now.addSeconds (-Elector.vacatedSeconds)))).2 = b'
        at writes
      cases writes with
      | vacated renewed l stored => exact .vacated now l r stored
    · rw [same]
      exact .ended _ r

/-! ## Steps of candidates -/

namespace Phase

/-- Whether a candidate neither leads nor is about to send anything. -/
def isAtRest : Phase → Bool
  | .outside => true
  | .pausing _ => true
  | .deposed => true
  | .released _ => true
  | _ => false

end Phase

/-- A step of a candidate. -/
inductive PhaseStep (e : Elector) (b : LeaseBook) (now : Nat) (time : Instant) (fate : Fate)
    (version : String) : Phase → Phase → LeaseBook → Prop
  /-- It goes on trying to get the lease. -/
  | tries (rest : Dialogue (Except Failure Bool)) (goesOn : rest.goesOn = true) :
      PhaseStep e b now time fate version (.attempting rest)
        (.attempting (rest.step time (LeaseBook.answer fate version) b).1)
        (rest.step time (LeaseBook.answer fate version) b).2
  /-- It has got the lease. -/
  | acquires : PhaseStep e b now time fate version (.attempting (.done (.ok true)))
      (.leading (Elector.dueAfter now e.timings.renewInterval)) b
  /-- It tries again. -/
  | resumes (due : Nat) : PhaseStep e b now time fate version (.pausing due)
      (.attempting e.attempt) b
  /-- It begins to renew the lease. -/
  | renews (due : Nat) : PhaseStep e b now time fate version (.leading due) (.renewing e.attempt) b
  /-- It goes on renewing the lease. -/
  | keeps (rest : Dialogue (Except Failure Bool)) (goesOn : rest.goesOn = true) :
      PhaseStep e b now time fate version (.renewing rest)
        (.renewing (rest.step time (LeaseBook.answer fate version) b).1)
        (rest.step time (LeaseBook.answer fate version) b).2
  /-- It has renewed the lease. -/
  | renewed : PhaseStep e b now time fate version (.renewing (.done (.ok true)))
      (.leading (Elector.dueAfter now e.timings.renewInterval)) b
  /-- It goes on giving the lease up. -/
  | parts (rest : Dialogue (Except Failure Unit)) (goesOn : rest.goesOn = true) :
      PhaseStep e b now time fate version (.releasing rest)
        (.releasing (rest.step time (LeaseBook.answer fate version) b).1)
        (rest.step time (LeaseBook.answer fate version) b).2
  /-- It comes to rest. -/
  | rests (p p' : Phase) (atRest : p'.isAtRest = true) : PhaseStep e b now time fate version p p' b

/-- **What a candidate does is a step.** -/
theorem phaseStep_of_step {e : Elector} {b b' : LeaseBook} {now : Nat} {time : Instant}
    {fate : Fate} {version : String} {p p' : Phase}
    (steps : e.step now time (LeaseBook.answer fate version) p b = some (p', b')) :
    PhaseStep e b now time fate version p p' b' := by
  cases p with
  | outside => simp [Elector.step] at steps
  | deposed => simp [Elector.step] at steps
  | released outcome => simp [Elector.step] at steps
  | pausing due =>
    simp only [Elector.step] at steps
    split at steps
    · obtain ⟨rfl, rfl⟩ := Prod.mk.inj (Option.some.inj steps)
      exact .resumes due
    · simp at steps
  | leading due =>
    simp only [Elector.step] at steps
    split at steps
    · obtain ⟨rfl, rfl⟩ := Prod.mk.inj (Option.some.inj steps)
      exact .renews due
    · simp at steps
  | attempting rest =>
    cases rest with
    | done r =>
      obtain ⟨rfl, rfl⟩ := Prod.mk.inj (Option.some.inj steps)
      cases r with
      | error e => exact .rests _ _ rfl
      | ok won =>
        cases won with
        | true => exact .acquires
        | false => exact .rests _ _ rfl
    | broken =>
      obtain ⟨rfl, rfl⟩ := Prod.mk.inj (Option.some.inj steps)
      exact .rests _ _ rfl
    | _ =>
      obtain ⟨rfl, rfl⟩ := Prod.mk.inj (Option.some.inj steps)
      exact .tries _ rfl
  | renewing rest =>
    cases rest with
    | done r =>
      obtain ⟨rfl, rfl⟩ := Prod.mk.inj (Option.some.inj steps)
      cases r with
      | error e => exact .rests _ _ rfl
      | ok won =>
        cases won with
        | true => exact .renewed
        | false => exact .rests _ _ rfl
    | broken =>
      obtain ⟨rfl, rfl⟩ := Prod.mk.inj (Option.some.inj steps)
      exact .rests _ _ rfl
    | _ =>
      obtain ⟨rfl, rfl⟩ := Prod.mk.inj (Option.some.inj steps)
      exact .keeps _ rfl
  | releasing rest =>
    cases rest with
    | done r =>
      obtain ⟨rfl, rfl⟩ := Prod.mk.inj (Option.some.inj steps)
      exact .rests _ _ rfl
    | broken =>
      obtain ⟨rfl, rfl⟩ := Prod.mk.inj (Option.some.inj steps)
      exact .rests _ _ rfl
    | _ =>
      obtain ⟨rfl, rfl⟩ := Prod.mk.inj (Option.some.inj steps)
      exact .parts _ rfl

namespace Scene

variable {n : Nat} {elector : Fin n → Elector}

/-- What is done to a scene. -/
inductive Done (elector : Fin n → Elector) (s : Scene n) : Act n → Scene n → Prop
  /-- A candidate begins to compete. -/
  | begun (i : Fin n) : Done elector s (.begin i) (s.set i (.attempting (elector i).attempt))
  /-- A candidate takes a step. -/
  | worked (i : Fin n) (now : Nat) (time : Instant) (fate : Fate) (version : String) (p : Phase)
      (b : LeaseBook) (unused : version ∉ s.book.used)
      (step : PhaseStep (elector i) s.book now time fate version (s.phase i) p b) :
      Done elector s (.work i now time fate version) ({ s with book := b }.set i p)
  /-- A candidate begins to give the lease up. -/
  | parted (i : Fin n) (guards : (s.phase i).holdsGuard = true) :
      Done elector s (.release i) (s.set i (.releasing (elector i).release))
  /-- A candidate stops. -/
  | left (i : Fin n) : Done elector s (.leave i) (s.set i .outside)

/-- An act is done in one of the ways that are listed. -/
theorem done_of_act {s s' : Scene n} {a : Act n} (acts : s.act? elector a = some s') :
    Done elector s a s' := by
  cases a with
  | begin i =>
    simp only [act?] at acts
    split at acts
    · obtain rfl := Option.some.inj acts
      exact .begun i
    · obtain rfl := Option.some.inj acts
      exact .begun i
    · simp at acts
  | work i now time fate version =>
    simp only [act?] at acts
    split at acts
    · simp at acts
    · rename_i unused
      obtain ⟨⟨p, b⟩, steps, rfl⟩ := Option.map_eq_some_iff.1 acts
      exact .worked i now time fate version p b unused (phaseStep_of_step steps)
  | release i =>
    simp only [act?] at acts
    split at acts
    · rename_i guards
      obtain rfl := Option.some.inj acts
      rw [Elector.beginRelease, if_pos guards]
      exact .parted i guards
    · simp at acts
  | leave i =>
    obtain rfl := Option.some.inj acts
    exact .left i

end Scene

end BucketProvisioning.Leadership

import BucketProvisioning.Proofs.Cluster.Faults
import BucketProvisioning.Proofs.Reconcile.Records

/-!
# Attempts that may fail

A key is reconciled again and again, and between two attempts the cache is brought up to date.
`trying` is the world of one attempt: calls are carried out by the cluster or, if the attempt may
fail, fail without effect.  `attempt_ensured` ties it to the running of a session.

`Converging` is what the partial results of attempts have to satisfy: from each of them an attempt
leads to another, and to the last one if no call of it fails, and an attempt that starts from the
last one changes nothing and only reads.  `Converging.converges` draws the conclusion for all
attempts.
-/

set_option autoImplicit false

namespace BucketProvisioning.Cluster

open BucketProvisioning BucketProvisioning.Reconcile BucketProvisioning.Resource
open BucketProvisioning.Backend

variable {α : Type}

/-! ## The world of an attempt -/

/-- What the attempts at a key of a kind may change: the cluster, in which no call is made to fail,
and the record. -/
structure Holdings (α : Type) where
  /-- The cluster. -/
  cluster : Cluster
  /-- The record. -/
  records : Store α

/-- The world of an attempt at a key that finds a live object: calls are carried out or, if the
attempt may fail, fail without effect. -/
def trying (k : ObjectKey) (live : α) (failing : Prop) (may : Call → Bool) :
    World α (Holdings α) where
  allows _ r :=
    match r with
    | .call c => may c = true
    | .publish _ _ => True
    | .store (.lookup k') => k' = k
    | .store _ => True
  answers h r reply h' :=
    match r with
    | .call c =>
      (failing ∧ (∃ e, reply = .error e) ∧ h' = h) ∨
        reply = (h.cluster.act c).1 ∧ h' = { h with cluster := (h.cluster.act c).2 }
    | .publish _ _ => h' = h
    | .store (.lookup _) => reply = .ok (some live) ∧ h' = h
    | .store (.recordOf k') => reply = h.records.get? k' ∧ h' = h
    | .store (.remember k' obj) => h' = { h with records := h.records.insert k' obj }
    | .store (.forget k') => h' = { h with records := h.records.erase k' }

namespace Trying

variable {k : ObjectKey} {live : α} {failing : Prop} {may : Call → Bool} {h : Holdings α}

/-- A call is answered by the cluster, or fails without effect if this attempt may have failures. -/
theorem ensures_call {c : Call} {Q : Except Failure c.Result → Holdings α → Prop}
    (allowed : may c = true) (failed : failing → ∀ e, Q (.error e) h)
    (acted : Q (h.cluster.act c).1 { h with cluster := (h.cluster.act c).2 }) :
    (Task.call c : Task α c.Result).Ensures (trying k live failing may) h Q := by
  refine Task.ensures_call.2 ⟨allowed, ?_⟩
  rintro reply _ (⟨fails, ⟨e, rfl⟩, rfl⟩ | ⟨rfl, rfl⟩)
  · exact failed fails e
  · exact acted

/-- If it is known what comes of a call, the task goes on from there. -/
theorem ensures_acting {h' : Holdings α} {c : Call} {reply : Except Failure c.Result}
    {Q : Except Failure c.Result → Holdings α → Prop} (allowed : may c = true)
    (acts : h.cluster.act c = (reply, h'.cluster)) (same : h'.records = h.records)
    (failed : failing → ∀ e, Q (.error e) h) (next : Q reply h') :
    (Task.call c : Task α c.Result).Ensures (trying k live failing may) h Q := by
  refine ensures_call allowed failed ?_
  rw [acts, ← same]
  exact next

/-- A lookup finds the object that is being reconciled. -/
theorem ensures_lookup {Q : Except Failure (Option α) → Holdings α → Prop}
    (next : Q (.ok (some live)) h) :
    (Task.lookup k : Task α (Option α)).Ensures (trying k live failing may) h Q := by
  refine ⟨rfl, ?_⟩
  rintro _ _ ⟨rfl, rfl⟩
  exact next

/-- A record is read as it is. -/
theorem ensures_recordOf {k' : ObjectKey} {Q : Except Failure (Option α) → Holdings α → Prop}
    (next : Q (.ok (h.records.get? k')) h) :
    (Task.recordOf k' : Task α (Option α)).Ensures (trying k live failing may) h Q := by
  refine Task.ensures_recordOf.2 ⟨trivial, ?_⟩
  rintro _ _ ⟨rfl, rfl⟩
  exact next

/-- A record is written for the key that is being reconciled. -/
theorem ensures_remember {k' : ObjectKey} {obj : α} {Q : Except Failure Unit → Holdings α → Prop}
    (next : Q (.ok ()) { h with records := h.records.insert k' obj }) :
    (Task.remember k' obj : Task α Unit).Ensures (trying k live failing may) h Q := by
  refine Task.ensures_remember.2 ⟨trivial, ?_⟩
  rintro _ _ rfl
  exact next

/-- An event leaves the cluster and the records alone. -/
theorem ensures_publish {ω : Type} [Object ω] {obj : ω} {e : Event}
    {Q : Except Failure Unit → Holdings α → Prop} (next : Q (.ok ()) h) :
    (Task.publish obj e : Task α Unit).Ensures (trying k live failing may) h Q := by
  refine Task.ensures_publish.2 ⟨trivial, ?_⟩
  rintro _ _ rfl
  exact next

/-- Nothing is torn down if the live object has taken no other's place. -/
theorem ensures_attend [Object α] {teardown : Task α Unit}
    {Q : Except Failure Unit → Holdings α → Prop}
    (fits : ∀ old, h.records.get? k = some old → Object.uid? old = Object.uid? live)
    (next : Q (.ok ()) h) :
    (Slot.attend k live teardown).Ensures (trying k live failing may) h Q := by
  unfold Slot.attend
  refine Task.ensures_bind.2 (ensures_recordOf ?_)
  cases recorded : h.records.get? k with
  | none => exact next
  | some old =>
    have kept : isSuperseded old live = false := by
      unfold isSuperseded
      rw [fits old recorded]
      simp
    exact Task.ensures_ite (fun superseded => absurd superseded (kept ▸ Bool.false_ne_true))
      fun _ => next

/-- A failure is told and passed on. -/
theorem ensures_told {ω : Type} [Object ω] {obj : ω} {event : Failure → Event} {t : Task α Unit}
    {Q : Except Failure Unit → Holdings α → Prop}
    (next : t.Ensures (trying k live failing may) h Q) :
    Task.Ensures (trying k live failing may) (do
      match ← Task.attempt t with
      | .ok () => return ()
      | .error e =>
        Task.publish obj (event e)
        throw e) h Q := by
  refine Task.ensures_bind.2 (Task.ensures_attempt.2 (next.mono ?_))
  intro outcome h' holds
  cases outcome with
  | ok => exact holds
  | error e => exact Task.ensures_bind.2 (ensures_publish holds)

end Trying

/-! ## Sessions -/

/-- What a kind's objects are kept in are places of their own. -/
class Hosted.Lawful (α : Type) [Hosted α] : Prop where
  /-- What has been kept is there. -/
  stores_setStores : ∀ (s : Session) (stores : Stores α),
    Hosted.stores (Hosted.setStores s stores) = stores
  /-- Nothing else is changed by it. -/
  setStores : ∀ (s : Session) (stores : Stores α),
    (Hosted.setStores s stores).cluster = s.cluster ∧
      (Hosted.setStores s stores).backends = s.backends ∧
      (Hosted.setStores s stores).log = s.log
  /-- Cache and record do not depend on the cluster. -/
  stores_congr : ∀ (s : Session) (cluster : Cluster) (log : List LogEntry),
    (Hosted.stores { s with cluster, log } : Stores α) = Hosted.stores s

instance : Hosted.Lawful BucketClaim where
  stores_setStores _ _ := rfl
  setStores _ _ := ⟨rfl, rfl, rfl⟩
  stores_congr _ _ _ := rfl

instance : Hosted.Lawful BucketAccess where
  stores_setStores _ _ := rfl
  setStores _ _ := ⟨rfl, rfl, rfl⟩
  stores_congr _ _ _ := rfl

/-- A call that only reads. -/
def reads : Call → Bool
  | .getClass _ | .getClaim _ _ | .getSecret _ _ => true
  | _ => false

/-- An entry of the log that tells of no operation of a backend, no change of a secret and no status
write. -/
def LogEntry.isRead : LogEntry → Bool
  | .call name _ => ["get_class", "get_claim", "secret_get"].contains name
  | .event _ _ => true

/-- A call that reads is entered as one. -/
theorem isRead_ofCall {c : Call} (h : reads c = true) : (LogEntry.ofCall c).isRead = true := by
  cases c <;> first | rfl | simp [reads] at h

variable [Hosted α]

namespace Session

/-- Runs a program of a kind. -/
def runProgram (program : Registry → Program α (Except Failure Unit)) :
    StateM Session (Except Failure Unit) :=
  fun s => (program s.backends).run (answer Hosted.stores Hosted.setStores) s

/-- Reconciling a claim in a session runs the program for claims. -/
theorem reconcileClaim_eq (text : String) :
    reconcileClaim text = runProgram fun backends => Claims.reconcile backends text :=
  rfl

/-- Reconciling an access in a session runs the program for accesses. -/
theorem reconcileAccess_eq (text : String) :
    reconcileAccess text = runProgram fun backends => Accesses.reconcile backends text :=
  rfl

/-- Reconciles once, with these orders to make calls fail. -/
def attempt (reconcile : StateM Session (Except Failure Unit)) (faults : List Fault) :
    StateM Session (Except Failure Unit) :=
  fun s => reconcile (s.onCluster fun c => { c with faults })

variable (α) in
/-- Reconciles a key again and again, each time with other orders, and lets the cache see afterwards
what the API server has. -/
def retried (s : Session) (k : ObjectKey) (reconcile : StateM Session (Except Failure Unit))
    (tries : List (List Fault)) : Session :=
  tries.foldl (fun s faults => (attempt reconcile faults s).2.sync α k) s

variable (α) in
/-- The holdings of a session. -/
def holdings (s : Session) : Holdings α := ⟨s.cluster.calm, (Hosted.stores s).records⟩

/-- The cache of a session has an object under a key. -/
def Sees (s : Session) (k : ObjectKey) (obj : α) : Prop :=
  (Hosted.stores (α := α) s).cache.objects.get? k = some obj

/-- What a session is during an attempt. -/
structure During (start : Session) (k : ObjectKey) (live : α) (failing : Prop) (may : Call → Bool)
    (s : Session) : Prop where
  /-- Calls that are made to fail take no effect. -/
  mild : Mild s.cluster.faults
  /-- None is made to fail if the attempt may not fail. -/
  sure : ¬ failing → s.cluster.faults = []
  /-- The cache does not change. -/
  sees : s.Sees k live
  /-- Neither do the backends that are served. -/
  backends : s.backends = start.backends
  /-- Only calls that may be made have been added to the log. -/
  logged : ∃ new, s.log = new ++ start.log ∧
    ∀ entry ∈ new, (∃ e about, entry = .event e about) ∨ ∃ c, may c = true ∧ entry = .ofCall c

variable [Hosted.Lawful α] {start s : Session} {k : ObjectKey} {live : α} {failing : Prop}
  {may : Call → Bool}

/-- Another entry of the log. -/
theorem During.log (h : During start k live failing may s) (cluster : Cluster)
    (mild : Mild cluster.faults) (sure : ¬ failing → cluster.faults = []) (entry : LogEntry)
    (known : (∃ e about, entry = .event e about) ∨ ∃ c, may c = true ∧ entry = .ofCall c) :
    During start k live failing may { s with cluster, log := entry :: s.log } where
  mild := mild
  sure := sure
  sees := by
    unfold Sees
    rw [Hosted.Lawful.stores_congr]
    exact h.sees
  backends := h.backends
  logged := by
    obtain ⟨new, is, known'⟩ := h.logged
    exact ⟨entry :: new, congrArg (entry :: ·) is, List.forall_mem_cons.2 ⟨known, known'⟩⟩

/-- Another record. -/
theorem During.setStores (h : During start k live failing may s) (stores : Stores α)
    (same : stores.cache = (Hosted.stores (α := α) s).cache) :
    During start k live failing may (Hosted.setStores s stores) := by
  obtain ⟨cluster, backends, log⟩ := Hosted.Lawful.setStores s stores
  refine ⟨?_, ?_, ?_, ?_, ?_⟩
  · rw [cluster]
    exact h.mild
  · rw [cluster]
    exact h.sure
  · unfold Sees
    rw [Hosted.Lawful.stores_setStores, same]
    exact h.sees
  · rw [backends]
    exact h.backends
  · rw [log]
    exact h.logged

omit [Hosted α] in
/-- In a session a call is served by the cluster and entered in the log. -/
theorem answer_call (view : Session → Stores α) (update : Session → Stores α → Session) (s : Session)
    (c : Call) :
    answer view update (.call c) s =
      ((s.cluster.serve c).1.heard,
        { s with cluster := (s.cluster.serve c).2, log := .ofCall c :: s.log }) := by
  simp only [answer]
  cases s.cluster.serve c with
  | mk outcome cluster => cases outcome <;> rfl

/-- What a session holds after another record was kept. -/
theorem holdings_setStores (s : Session) (stores : Stores α) :
    (Hosted.setStores s stores).holdings α = ⟨s.cluster.calm, stores.records⟩ := by
  unfold holdings
  rw [(Hosted.Lawful.setStores s stores).1, Hosted.Lawful.stores_setStores]

/-- What is held does not depend on the log, and on the cluster only as it is without its faults. -/
theorem holdings_log (s : Session) (cluster : Cluster) (log : List LogEntry) :
    ({ s with cluster, log } : Session).holdings α =
      ⟨cluster.calm, (s.holdings α).records⟩ := by
  unfold holdings
  rw [Hosted.Lawful.stores_congr]

/-- A session answers a request as the world of the attempt says. -/
theorem During.answers (h : During start k live failing may s) (r : Request α)
    (allowed : (trying k live failing may).allows (s.holdings α) r) :
    During start k live failing may (answer Hosted.stores Hosted.setStores r s).2 ∧
      (trying k live failing may).answers (s.holdings α) r
        (answer Hosted.stores Hosted.setStores r s).1
        ((answer Hosted.stores Hosted.setStores r s).2.holdings α) := by
  cases r with
  | call c =>
    obtain ⟨mild, served⟩ := serve_of_mild h.mild c
    rw [answer_call]
    refine ⟨h.log _ mild (fun sure => ?_) _ (Or.inr ⟨c, allowed, rfl⟩), ?_⟩
    · rcases served with ⟨ordered, -⟩ | ⟨-, -, same⟩
      · exact absurd (h.sure sure) ordered
      · exact same.trans (h.sure sure)
    · have held := holdings_log (α := α) s (s.cluster.serve c).2 (.ofCall c :: s.log)
      rcases served with ⟨ordered, failed, same⟩ | ⟨replied, acted, -⟩
      · have may : failing := Classical.byContradiction fun sure => ordered (h.sure sure)
        rw [same] at held
        exact Or.inl ⟨may, failed, held⟩
      · rw [acted] at held
        exact Or.inr ⟨replied, held⟩
  | publish e about =>
    refine ⟨h.log s.cluster h.mild h.sure _ (Or.inl ⟨e, about, rfl⟩), ?_⟩
    exact holdings_log s s.cluster (.event e about :: s.log)
  | store a =>
    refine ⟨h.setStores _ (Stores.answer_cache _ a), ?_⟩
    have held := holdings_setStores s ((Hosted.stores s).answer a).2
    cases a with
    | lookup k' =>
      obtain rfl : k' = k := allowed
      refine ⟨?_, held⟩
      show Cache.lookup _ k' = _
      unfold Cache.lookup
      rw [h.sees]
    | recordOf k' => exact ⟨rfl, held⟩
    | remember k' obj => exact held
    | forget k' => exact held

/-- **What an attempt ensures holds after it.**  The backends that are served are the same, no call
is made to fail if none was, and whatever it has called is one of the calls that it may make. -/
theorem attempt_ensured {program : Registry → Program α (Except Failure Unit)} {faults : List Fault}
    {Q : Except Failure Unit → Holdings α → Prop} (mild : Mild faults)
    (sure : ¬ failing → faults = []) (sees : s.Sees k live)
    (ensured : (program s.backends).Ensures (trying k live failing may) (s.holdings α) Q) :
    Q (attempt (runProgram program) faults s).1 ((attempt (runProgram program) faults s).2.holdings α) ∧
      During s k live failing may (attempt (runProgram program) faults s).2 := by
  let ordered : Session := s.onCluster fun c => { c with faults }
  have same : (Hosted.stores ordered : Stores α) = Hosted.stores s :=
    Hosted.Lawful.stores_congr s _ s.log
  have start : During s k live failing may ordered := by
    refine ⟨mild, sure, ?_, rfl, [], rfl, fun _ mem => absurd mem List.not_mem_nil⟩
    unfold Sees
    rw [same]
    exact sees
  have held : ordered.holdings α = s.holdings α := by
    unfold holdings
    rw [same]
    rfl
  exact (((held ▸ ensured).run fun r s' (during : During s k live failing may s') allowed =>
    during.answers r allowed) start).symm

/-! ## Bringing the cache up to date -/

omit [Hosted.Lawful α] in
/-- Synchronising a key puts into the cache what the server has stored. -/
theorem sync_eq {obj : α} (stored : (Hosted.atServer s).get? k = some obj) :
    s.sync α k = Hosted.setStores s
      { Hosted.stores s with cache := (Hosted.stores s).cache.insert k obj } := by
  unfold sync
  rw [stored]
  simp [edit, Cache.insert]

/-- After that the cache has what the API server has, and nothing else has changed. -/
theorem sync_of_stored {obj : α} (stored : (Hosted.atServer s).get? k = some obj) :
    (s.sync α k).Sees k obj ∧ (s.sync α k).holdings α = s.holdings α ∧
      (s.sync α k).cluster = s.cluster ∧ (s.sync α k).backends = s.backends ∧
      (s.sync α k).log = s.log := by
  rw [sync_eq stored]
  refine ⟨?_, holdings_setStores s _, Hosted.Lawful.setStores s _⟩
  unfold Sees
  rw [Hosted.Lawful.stores_setStores]
  exact Table.get?_insert_self _ k obj

end Session

/-! ## Convergence -/

/-- **Retries of a key converge.**  However many attempts are made, with whatever calls failing
without effect and the cache brought up to date in between: one more attempt in which no call fails
has the outcome of a single such attempt and leaves the same cluster and the same record, and after
that every attempt leaves them as they are and only reads. -/
structure Session.Converges (α : Type) [Hosted α] (s : Session) (k : ObjectKey)
    (reconcile : StateM Session (Except Failure Unit)) : Prop where
  /-- The last attempt ends like a single one. -/
  same : ∀ tries : List (List Fault), (∀ faults ∈ tries, Mild faults) →
    (attempt reconcile [] (s.retried α k reconcile tries)).1 = (attempt reconcile [] s).1 ∧
      (attempt reconcile [] (s.retried α k reconcile tries)).2.cluster =
        (attempt reconcile [] s).2.cluster ∧
      (Hosted.stores (attempt reconcile [] (s.retried α k reconcile tries)).2 : Stores α).records =
        (Hosted.stores (attempt reconcile [] s).2).records
  /-- More attempts change nothing and only read. -/
  rests : ∀ tries more : List (List Fault), (∀ faults ∈ tries, Mild faults) →
    (∀ faults ∈ more, Mild faults) →
    ∀ last later, last = (attempt reconcile [] (s.retried α k reconcile tries)).2 →
      later = (last.sync α k).retried α k reconcile more →
      later.cluster.calm = last.cluster ∧
        (Hosted.stores later : Stores α).records = (Hosted.stores last).records ∧
        ∃ new, later.log = new ++ last.log ∧ ∀ entry ∈ new, entry.isRead = true

/-- What the partial results of the attempts at a key have to satisfy.  `Stage` says what is held
then and which object is live. -/
structure Converging (program : Registry → Program α (Except Failure Unit)) (backends : Registry)
    (k : ObjectKey) (Stage : Holdings α → α → Prop) (outcome : Except Failure Unit)
    (last : Holdings α) : Prop where
  /-- The live object is the one that the API server has. -/
  stored : ∀ (s : Session) live, Stage (s.holdings α) live →
    (Hosted.atServer s).get? k = some live
  /-- An attempt leads from stage to stage, and to the last one if it may not fail. -/
  attempts : ∀ h live failing, Stage h live →
    (program backends).Ensures (trying k live failing fun _ => true) h fun x h' =>
      (∃ live', Stage h' live') ∧ (¬ failing → x = outcome ∧ h' = last)
  /-- An attempt that starts from the last stage changes nothing and only reads. -/
  rests : ∀ live failing, Stage last live →
    (program backends).Ensures (trying k live failing reads) last fun _ h' => h' = last

namespace Converging

variable [Hosted.Lawful α] {program : Registry → Program α (Except Failure Unit)}
  {backends : Registry} {k : ObjectKey} {Stage : Holdings α → α → Prop}
  {outcome : Except Failure Unit} {last : Holdings α} {s : Session} {live : α}

open Session

/-- A session is at a stage, and the cache is up to date. -/
structure At (backends : Registry) (k : ObjectKey) (Stage : Holdings α → α → Prop) (s : Session) :
    Prop where
  /-- These backends are served. -/
  backends : s.backends = backends
  /-- The stage, and the live object that the cache has. -/
  stage : ∃ live, Stage (s.holdings α) live ∧ s.Sees k live

/-- A session at a stage is brought up to date. -/
theorem at_of_sync (conv : Converging program backends k Stage outcome last)
    (served : s.backends = backends) (stage : Stage (s.holdings α) live) :
    At backends k Stage (s.sync α k) ∧ (s.sync α k).holdings α = s.holdings α ∧
      (s.sync α k).cluster = s.cluster ∧ (s.sync α k).log = s.log := by
  obtain ⟨sees, held, cluster, backends', log⟩ := sync_of_stored (conv.stored s live stage)
  exact ⟨⟨backends'.trans served, live, held.symm ▸ stage, sees⟩, held, cluster, log⟩

/-- Attempts lead from stage to stage. -/
theorem at_retried (conv : Converging program backends k Stage outcome last)
    (start : At backends k Stage s) {tries : List (List Fault)}
    (mild : ∀ faults ∈ tries, Mild faults) :
    At backends k Stage (s.retried α k (runProgram program) tries) := by
  induction tries generalizing s with
  | nil => exact start
  | cons faults tries ih =>
    obtain ⟨mild, milds⟩ := List.forall_mem_cons.1 mild
    obtain ⟨rfl, live, stage, sees⟩ := start
    obtain ⟨⟨⟨live', stage'⟩, -⟩, during⟩ :=
      attempt_ensured mild (fun sure => absurd trivial sure) sees (conv.attempts _ live True stage)
    exact ih (conv.at_of_sync during.backends stage').1 milds

/-- An attempt in which no call fails leads to the last stage. -/
theorem attempt_sure (conv : Converging program backends k Stage outcome last)
    (start : At backends k Stage s) :
    (attempt (runProgram program) [] s).1 = outcome ∧
      (attempt (runProgram program) [] s).2.holdings α = last ∧
      (attempt (runProgram program) [] s).2.cluster = last.cluster ∧
      (attempt (runProgram program) [] s).2.backends = backends ∧
      ∃ live, Stage last live := by
  obtain ⟨rfl, live, stage, sees⟩ := start
  obtain ⟨⟨⟨live', stage'⟩, reached⟩, during⟩ :=
    attempt_ensured mild_nil (fun _ => rfl) sees (conv.attempts _ live False stage)
  obtain ⟨same, held⟩ := reached id
  have calm := calm_of_nil (during.sure id)
  exact ⟨same, held, calm.symm.trans (congrArg Holdings.cluster held), during.backends, live',
    held ▸ stage'⟩

/-- At the last stage an attempt changes nothing and only reads. -/
theorem rests_retried (conv : Converging program backends k Stage outcome last)
    (start : At backends k Stage s) (held : s.holdings α = last) {more : List (List Fault)}
    (mild : ∀ faults ∈ more, Mild faults) :
    (s.retried α k (runProgram program) more).holdings α = last ∧
      ∃ new, (s.retried α k (runProgram program) more).log = new ++ s.log ∧
        ∀ entry ∈ new, entry.isRead = true := by
  induction more generalizing s with
  | nil => exact ⟨held, [], rfl, fun _ mem => absurd mem List.not_mem_nil⟩
  | cons faults more ih =>
    obtain ⟨mild, milds⟩ := List.forall_mem_cons.1 mild
    obtain ⟨rfl, live, stage, sees⟩ := start
    obtain ⟨same, during⟩ := attempt_ensured mild (fun sure => absurd trivial sure) sees
      (held ▸ conv.rests live True (held ▸ stage))
    obtain ⟨start', held', -, log'⟩ := conv.at_of_sync during.backends (same.symm ▸ stage)
    obtain ⟨rest, new, log, read⟩ := ih start' (held'.trans (same.trans held)) milds
    obtain ⟨new', log'', made⟩ := during.logged
    refine ⟨rest, new ++ new', ?_, ?_⟩
    · rw [List.append_assoc, ← log'', ← log']
      exact log
    · refine List.forall_mem_append.2 ⟨read, fun entry mem => ?_⟩
      rcases made entry mem with ⟨e, about, rfl⟩ | ⟨c, may, rfl⟩
      · rfl
      · exact isRead_ofCall may

/-- **Attempts that lead from stage to stage converge.** -/
theorem converges (conv : Converging program backends k Stage outcome last)
    (start : At backends k Stage s) : s.Converges α k (runProgram program) where
  same tries mild := by
    obtain ⟨told, held, cluster, -⟩ := conv.attempt_sure start
    obtain ⟨told', held', cluster', -⟩ := conv.attempt_sure (conv.at_retried start mild)
    refine ⟨told'.trans told.symm, cluster'.trans cluster.symm, ?_⟩
    exact congrArg Holdings.records (held'.trans held.symm)
  rests := by
    rintro tries more mild mild' _ _ rfl rfl
    obtain ⟨-, held, cluster, served, live, stage⟩ :=
      conv.attempt_sure (conv.at_retried start mild)
    obtain ⟨start', held', -, log'⟩ := conv.at_of_sync served (held.symm ▸ stage)
    obtain ⟨rest, new, log, read⟩ := conv.rests_retried start' (held'.trans held) mild'
    refine ⟨(congrArg Holdings.cluster rest).trans cluster.symm,
      congrArg Holdings.records (rest.trans held.symm), new, ?_, read⟩
    rw [← log']
    exact log

end Converging

end BucketProvisioning.Cluster

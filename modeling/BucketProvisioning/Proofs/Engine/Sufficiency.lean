import BucketProvisioning.Proofs.Engine.Rehearsal
import BucketProvisioning.Proofs.Reconcile.Sufficiency

/-!
# Whatever has been built can be removed

Over an API server that had stored only statuses that suffice, and with backends as they are served:
every status that is written suffices, every status that is stored in the end does, and no call that
removes something goes out with an identifier that is empty (`identifiers_not_empty`).  A remote
backend may answer anything, but for the account of a grant: where it leaves that unnamed, the
status that is written does not suffice, and neither does the call that is to revoke the grant
(`account_left_unnamed`).

A call removes what the status of the object on record tells of; `Accounted` says that this status
was stored at first or has been written since, and `Desk.sufficing_of_run` that what is written
suffices.
-/

set_option autoImplicit false
set_option linter.unusedSectionVars false

namespace BucketProvisioning.Engine

open BucketProvisioning BucketProvisioning.Reconcile BucketProvisioning.Backend
open BucketProvisioning.Resource

variable {α : Type} [Object α] [Managed α]

/-! ## Backends as they are served -/

/-- The world outside in which backends are served as a registry says; other calls may give anything
that the API server allows. -/
def driven (α : Type) [Object α] [Managed α] (backends : Registry) (likely : Likely) :
    Outside α (ApiServer α) where
  shows := (apiServer α).shows
  answers s c reply s' := s.Answers c reply s' ∧ Credible backends likely c reply
  drifts := (apiServer α).drifts
  identified := (apiServer α).identified
  lawful answered := (apiServer α).lawful answered.1
  shows_confirmed answered := (apiServer α).shows_confirmed answered.1
  shows_answers answered := (apiServer α).shows_answers answered.1
  shows_drifts := (apiServer α).shows_drifts

variable {backends : Registry} {likely : Likely}

/-- An API server with its drivers hosts the API server. -/
theorem driven_hosts : (driven α backends likely).Hosts id where
  answers answered := answered.1
  drifts := Or.inr
  shows shown := shown.1

/-! ## What is written -/

/-- An identifier that a call needs in order to remove something is not empty, the account included
if accounts are `named`. -/
def NamesIt (named : Prop) : Call → Prop
  | .backend _ (.deleteBucket bucketId _) => bucketId ≠ ""
  | .backend _ (.revokeAccess bucketId accountId) => bucketId ≠ "" ∧ (named → accountId ≠ "")
  | .deleteSecret _ name => name ≠ ""
  | _ => True

/-- The reconciler of a kind writes only statuses that are enough, and what has such a status can be
removed by it. -/
structure Sufficient (backends : Registry) (likely : Likely)
    (reconcile : String → Program α (Except Failure Unit)) (enough : Managed.Status α → Prop) :
    Prop where
  /-- Only statuses that suffice are written. -/
  writes : ∀ text, (reconcile text).Ensures (sufficing α backends likely) () fun _ _ => True
  /-- A status that suffices is enough. -/
  written : ∀ c copy status, WritesEnough backends likely.NamesAccounts c →
    Managed.written? c = some (copy, status) → enough status
  /-- A status that says that nothing has been built is enough. -/
  unbuilt : ∀ status, Managed.built status = false → enough status
  /-- Nothing is removed on behalf of a live object. -/
  tends : ∀ k (live : α) calls c, Tends backends k live calls c →
    NamesIt likely.NamesAccounts c
  /-- What has a status that is enough is removed by it. -/
  removes : ∀ k (obj : α) status, Managed.status? obj = some status → enough status →
    ∀ c ∈ removal backends k obj, NamesIt likely.NamesAccounts c

/-- Every status that some objects have is enough. -/
def Keeps (enough : Managed.Status α → Prop) (objs : List α) : Prop :=
  ∀ obj ∈ objs, ∀ status, Managed.status? obj = some status → enough status

namespace Desk

variable {reconcile : String → Program α (Except Failure Unit)} {count : Nat} {policy : RetryPolicy}
variable {start o : ApiServer α} {d : Desk α} {trace : Trace α}

/-- Whoever is busy writes only statuses that suffice. -/
def Sufficing (backends : Registry) (likely : Likely) (d : Desk α) : Prop :=
  ∀ i text rest, d.worker? i = some (.busy text rest) →
    rest.Ensures (sufficing α backends likely) () fun _ _ => True

/-- Setting a worker keeps what the workers write sufficient, if the new one writes so too. -/
theorem Sufficing.setWorker {i : Nat} {w : Worker α} (h : d.Sufficing backends likely)
    (was : d.worker? i = some w) (w' : Worker α)
    (next : ∀ text rest, w' = .busy text rest →
      rest.Ensures (sufficing α backends likely) () fun _ _ => True) :
    (d.setWorker i w').Sufficing backends likely := by
  intro j text rest is
  rw [worker?_setWorker was] at is
  split at is
  · exact next text rest (Option.some.inj is)
  · exact h j text rest is

/-- Throughout a run whatever is going to be written will be sufficient. -/
theorem sufficing_of_run
    (writes : ∀ text, (reconcile text).Ensures (sufficing α backends likely) () fun _ _ => True)
    (run : Run (driven α backends likely) reconcile count (.opening policy {}) start d trace o) :
    d.Sufficing backends likely := by
  induction run with
  | start =>
    intro i text rest is
    simp [opening, worker?] at is
  | @happened d d' trace o o' h run happens explained ih =>
    cases step_of_happen happens with
    | received e idle => exact ih
    | notified n idle => exact ih
    | routed e rest due => exact fun i text rest is => ih i text rest (by simpa [worker?] using is)
    | started waiting synced =>
      intro i text rest is
      simp [worker?, List.getElem?_replicate] at is
    | added aside keys adds => exact ih
    | arranged ks same => exact ih
    | @turned i reply queue w w' was free free' same =>
      refine Sufficing.setWorker (d := { d with queue }) ih was w' ?_
      rintro text rest rfl
      simp [Worker.key?] at free'
    | @took i reply queue key was takes =>
      refine Sufficing.setWorker (d := { d with queue }) ih was _ ?_
      rintro text rest ⟨⟩
      exact writes key
    | @accessed i reply key a next was =>
      refine Sufficing.setWorker (d := { d with stores := (d.stores.answer a).2 }) ih was _ ?_
      rintro text rest ⟨⟩
      exact (ih i key _ was).2 _ () trivial
    | @published i reply key e about next was =>
      refine Sufficing.setWorker ih was _ ?_
      rintro text rest ⟨⟩
      exact (ih i key _ was).2 () () trivial
    | @called i reply key c next was =>
      have makes : d.made? (.move (.work i reply)) = some (key, ⟨c, some (reply c)⟩) := by
        simp [made?, was]
      have answered := explained.answered makes
      refine Sufficing.setWorker ih was _ ?_
      rintro text rest ⟨⟩
      exact (ih i key _ was).2 (reply c) () answered.2
    | @concluded i reply key outcome queue keys was adds =>
      exact Sufficing.setWorker (d := { d with queue }) ih was _ (by simp)
    | @released i reply key was =>
      exact Sufficing.setWorker (d := { d with queue := d.queue.done key }) ih was _ (by simp)
    | @lost i key c next was => exact Sufficing.setWorker ih was _ (by simp)
  | drifted run drifts ih => exact ih
  | closed run ih => exact ih

/-- A status that is written suffices. -/
theorem Sufficing.written (h : d.Sufficing backends likely) {happening : Happening α}
    {text : String} {made : Called} (makes : d.made? happening = some (text, made)) :
    WritesEnough backends likely.NamesAccounts made.call := by
  have asks {i : Nat} {c : Call} {next : Except Failure c.Result → Program α (Except Failure Unit)}
      (was : d.worker? i = some (.busy text (.ask (.call c) next))) :
      WritesEnough backends likely.NamesAccounts c :=
    (h i text _ was).1
  unfold made? at makes
  split at makes
  · split at makes
    · obtain ⟨rfl, rfl⟩ := Prod.mk.inj (Option.some.inj makes)
      exact asks ‹_›
    · simp at makes
  · split at makes
    · obtain ⟨rfl, rfl⟩ := Prod.mk.inj (Option.some.inj makes)
      exact asks ‹_›
    · simp at makes
  · simp at makes

end Desk

/-! ## What is removed -/

section made

variable {reconcile : String → Program α (Except Failure Unit)} {enough : Managed.Status α → Prop}
variable {count : Nat} {policy : RetryPolicy} {start o : ApiServer α} {d : Desk α} {trace : Trace α}

/-- Every call of a run writes only what suffices. -/
theorem writesEnough_of_made (sufficient : Sufficient backends likely reconcile enough)
    (run : Run (driven α backends likely) reconcile count (.opening policy {}) start d trace o)
    {d₁ : Desk α} {h : Happening α} (mem : (d₁, h) ∈ trace) {text : String} {made : Called}
    (makes : d₁.made? h = some (text, made)) :
    WritesEnough backends likely.NamesAccounts made.call := by
  obtain ⟨later, earlier, rfl⟩ := List.append_of_mem mem
  obtain ⟨o₁, before⟩ := run.before
  exact (Desk.sufficing_of_run sufficient.writes before).written makes

/-- **Every status that is stored in the end is enough**, if every one was that was stored at
first. -/
theorem keeps_of_run (conducts : Conducts backends reconcile)
    (sufficient : Sufficient backends likely reconcile enough) (sound : start.Sound)
    (keeps : Keeps enough start.past)
    (run : Run (driven α backends likely) reconcile count (.opening policy {}) start d trace o) :
    Keeps enough o.past := by
  intro obj mem status has
  cases built : Managed.built status with
  | false => exact sufficient.unbuilt status built
  | true =>
    have accounted := (story_of_run conducts run).accounted driven_hosts sound
    rcases accounted.written obj mem (isBuilt_of_status has built) with
      ⟨old, there, -, -, -, same⟩ |
        ⟨k, later, made, on, earlier, live, status', split, written, rest⟩
    · exact keeps old there status (same ▸ has)
    · obtain rfl : status = status' := Option.some.inj (has.symm.trans rest.2.2.2.2.2)
      have noted : .called k made on ∈ trace.notes := by simp [split]
      obtain ⟨later', d₁, h, earlier', text, rfl, makes, -, -⟩ := made_of_noted noted
      exact sufficient.written _ _ _ (writesEnough_of_made sufficient run (by simp) makes) written

/-- **A call that removes something names it.** -/
theorem namesIt_of_made (conducts : Conducts backends reconcile)
    (sufficient : Sufficient backends likely reconcile enough) (sound : start.Sound)
    (keeps : Keeps enough start.past)
    (run : Run (driven α backends likely) reconcile count (.opening policy {}) start d trace o)
    {d₁ : Desk α} {h : Happening α} (mem : (d₁, h) ∈ trace) {text : String} {made : Called}
    (makes : d₁.made? h = some (text, made)) : NamesIt likely.NamesAccounts made.call := by
  obtain ⟨later, earlier, rfl⟩ := List.append_of_mem mem
  obtain ⟨o₁, before⟩ := run.before
  have stored := keeps_of_run conducts sufficient sound keeps before
  obtain ⟨k, -, split⟩ := noted_of_made conducts run makes
  have story := story_of_run conducts run
  rw [split] at story
  generalize d₁.record? k = on at story
  obtain ⟨records, o₂, _, past, entry⟩ := story.before
  cases entry with
  | called k made kept may answered =>
    rcases may with ⟨old, is, -, removes, -⟩ | ⟨live, -, -, tends⟩
    · -- the object on record is one that has been stored by then
      rw [record_attemptAt] at is
      obtain ⟨built, -, noted, -⟩ := past.recorded is
      have known := ((story_of_run conducts before).accounted driven_hosts sound).noted noted
      obtain ⟨status, has, -⟩ := (Option.any_eq_true _ _).1 built
      exact sufficient.removes k old status has (stored old known status has) made.call removes
    · exact sufficient.tends k live _ made.call tends

end made

/-! ## Claims and accesses -/

/-- What is written for claims suffices for their removal. -/
theorem claims_sufficient (backends : Registry) (likely : Likely) :
    Sufficient backends likely (Claims.reconcile backends) (ClaimSuffices backends) where
  writes := claims_suffice backends likely
  written c copy status enough written := by
    cases c <;> simp only [Managed.written?, Claims.written?, Option.some.injEq, Prod.mk.injEq,
      reduceCtorEq] at written
    obtain ⟨-, rfl⟩ := written
    exact enough
  unbuilt status unbuilt built := absurd (unbuilt.symm.trans built) Bool.false_ne_true
  tends k live calls c tends := by
    cases c with
    | backend t op => cases op <;> trivial
    | deleteSecret ns name => exact tends.elim
    | _ => trivial
  removes k obj status has enough c mem := by
    obtain ⟨status', is, built, -, -, rfl⟩ := Claims.mem_removal.1 mem
    obtain rfl := Option.some.inj (is.symm.trans has)
    exact (enough built).1

/-- What is written for accesses suffices for their removal. -/
theorem accesses_sufficient (backends : Registry) (likely : Likely) :
    Sufficient backends likely (Accesses.reconcile backends)
      (AccessSuffices backends likely.NamesAccounts) where
  writes := accesses_suffice backends likely
  written c copy status enough written := by
    cases c <;> simp only [Managed.written?, Accesses.written?, Option.some.injEq, Prod.mk.injEq,
      reduceCtorEq] at written
    obtain ⟨-, rfl⟩ := written
    exact enough
  unbuilt status unbuilt built := absurd (unbuilt.symm.trans built) Bool.false_ne_true
  tends k live calls c tends := by
    cases c with
    | backend t op => cases op <;> trivial
    | deleteSecret ns name => exact tends.elim
    | _ => trivial
  removes k obj status has enough c mem := by
    obtain ⟨status', is, built, removes⟩ := Accesses.mem_removal.1 mem
    obtain rfl := Option.some.inj (is.symm.trans has)
    obtain ⟨bucket, account, -, -⟩ := enough built
    rcases removes with ⟨-, rfl⟩ | rfl
    · exact ⟨bucket, account⟩
    · exact Accesses.secretName_ne_empty obj

/-- **No identifier is empty.**  In every run from a server whose statuses suffice, whatever remote
backends answer: every status that is stored for a claim or an access suffices for its removal, which
is to say that it names a backend type that is served, the bucket and, for an access, the secret; and
whatever is called to remove something names it.  The account of a grant is named as well, as long as
no remote backend leaves it unnamed. -/
theorem identifiers_not_empty (backends : Registry) (likely : Likely) (policy : RetryPolicy)
    (count : Nat) :
    (∀ {start o : ApiServer BucketClaim} {d trace}, start.Sound →
      Keeps (ClaimSuffices backends) start.past →
      Run (driven BucketClaim backends likely) (Claims.reconcile backends) count
        (.opening policy {}) start d trace o →
      Keeps (ClaimSuffices backends) o.past ∧
        ∀ e ∈ trace, ∀ text made, e.1.made? e.2 = some (text, made) →
          WritesEnough backends likely.NamesAccounts made.call ∧
            NamesIt likely.NamesAccounts made.call) ∧
    (∀ {start o : ApiServer BucketAccess} {d trace}, start.Sound →
      Keeps (AccessSuffices backends likely.NamesAccounts) start.past →
      Run (driven BucketAccess backends likely) (Accesses.reconcile backends) count
        (.opening policy {}) start d trace o →
      Keeps (AccessSuffices backends likely.NamesAccounts) o.past ∧
        ∀ e ∈ trace, ∀ text made, e.1.made? e.2 = some (text, made) →
          WritesEnough backends likely.NamesAccounts made.call ∧
            NamesIt likely.NamesAccounts made.call) := by
  have claims := claims_sufficient backends likely
  have accesses := accesses_sufficient backends likely
  refine ⟨fun sound keeps run => ⟨?_, fun e mem text made makes => ⟨?_, ?_⟩⟩,
    fun sound keeps run => ⟨?_, fun e mem text made makes => ⟨?_, ?_⟩⟩⟩
  · exact keeps_of_run (claims_conduct backends) claims sound keeps run
  · exact writesEnough_of_made claims run mem makes
  · exact namesIt_of_made (claims_conduct backends) claims sound keeps run mem makes
  · exact keeps_of_run (accesses_conduct backends) accesses sound keeps run
  · exact writesEnough_of_made accesses run mem makes
  · exact namesIt_of_made (accesses_conduct backends) accesses sound keeps run mem makes

/-! ## Two objects that vanish -/

/-- Facilities answer as backends in memory do. -/
theorem Facilities.Answers.credible {fails : Call → Prop} {f f' : Facilities} {c : Call}
    {reply : Option (Except Failure c.Result)}
    (inMemory : ∀ t, backends.get? t = none ∨ backends.get? t = some .inMemory)
    (h : f.Answers fails c reply f') : Credible backends likely c reply := by
  cases c with
  | backend t op =>
    rcases reply with _ | _ | result
    · trivial
    · trivial
    · show Issued backends likely t op result
      rcases inMemory t with nobody | served
      · exact .unserved nobody
      · rcases h with ⟨_, ⟨fresh, rfl, -⟩, same | silent | ⟨-, _, failed⟩⟩ |
          ⟨-, silent | ⟨-, _, failed⟩⟩
        · exact .inMemory (f.backends t) fresh served (Option.some.inj same).symm
        · cases silent
        · cases failed
        · cases silent
        · cases failed
  | _ => cases reply <;> trivial

/-- A run of a plant is one with backends in memory. -/
theorem Run.driven_of_plant (likely : Likely) {fails others : Call → Prop}
    (inMemory : ∀ t, backends.get? t = none ∨ backends.get? t = some .inMemory)
    {reconcile : String → Program α (Except Failure Unit)} {count : Nat} {first d : Desk α}
    {trace : Trace α} {start p : Plant α}
    (run : Run (plant α fails others) reconcile count first start d trace p) :
    Run (driven α backends likely) reconcile count first start.server d trace p.server := by
  exact run.seen Plant.server id (fun answered => ⟨answered.1, answered.2.credible inMemory⟩)
    plant_hosts.drifts

/-- The registry of one type serves that one from memory and no other. -/
theorem oneType_inMemory (t : String) :
    oneType.get? t = none ∨ oneType.get? t = some .inMemory := by
  unfold oneType Registry.register Registry.get?
  rw [Table.get?_insert]
  split
  · exact Or.inr rfl
  · exact Or.inl rfl

/-- No backend answers remotely. -/
def nothingRemote : Likely := fun _ _ => False

/-- Where nothing is remote no grant leaves its account unnamed. -/
theorem nothingRemote_namesAccounts : nothingRemote.NamesAccounts := fun _ _ _ => False.elim

/-- A claim and an access are provided for, vanish, and are torn down by what their statuses
name, the account included. -/
theorem identifiers_not_empty_vanished :
    (∃ d trace s, Run (driven BucketClaim oneType nothingRemote) (Claims.reconcile oneType) 1
        (.opening {} {}) (.keeping (.namespaced "n" "a") newClaim) d trace s ∧
      Keeps (ClaimSuffices oneType) s.past ∧
      ∀ e ∈ trace, ∀ text made, e.1.made? e.2 = some (text, made) →
        WritesEnough oneType True made.call ∧ NamesIt True made.call) ∧
    (∃ d trace s, Run (driven BucketAccess oneType nothingRemote) (Accesses.reconcile oneType) 1
        (.opening {} {}) (.keeping (.namespaced "n" "a") newAccess) d trace s ∧
      Keeps (AccessSuffices oneType True) s.past ∧
      ∀ e ∈ trace, ∀ text made, e.1.made? e.2 = some (text, made) →
        WritesEnough oneType True made.call ∧ NamesIt True made.call) := by
  obtain ⟨claims, accesses⟩ := identifiers_not_empty oneType nothingRemote {} 1
  rw [eq_true nothingRemote_namesAccounts] at claims accesses
  refine ⟨?_, ?_⟩
  · obtain ⟨d, trace, p, run, -⟩ := run_newClaim (fun _ => False) (fun _ => False)
    replace run := run.driven_of_plant nothingRemote oneType_inMemory
    refine ⟨d, trace, _, run, claims ?_ ?_ run⟩
    · exact ApiServer.keeping_sound (by rfl) rfl (Or.inl rfl)
    · exact List.forall_mem_singleton.2 nofun
  · obtain ⟨d, trace, p, run, -⟩ := run_newAccess (fun _ => False) (fun _ => False)
    replace run := run.driven_of_plant nothingRemote oneType_inMemory
    refine ⟨d, trace, _, run, accesses ?_ ?_ run⟩
    · exact ApiServer.keeping_sound (by rfl) rfl (Or.inl rfl)
    · exact List.forall_mem_singleton.2 nofun

/-! ## A backend that leaves the account unnamed -/

/-- The registry that serves one type remotely. -/
def oneRemoteType : Registry := ({} : Registry).register "fake" (.remote "http://backend")

/-- A remote backend grants everything, to an account without a name. -/
def unnamedAnswer : (op : Operation) → Remote.Answer op
  | .createBucket _ _ => "b"
  | .deleteBucket _ _ => ()
  | .grantAccess _ _ => ("", some ⟨"AK", "SK"⟩)
  | .revokeAccess _ _ => ()

/-- Every class can be read, secrets can be kept, and the backend answers without a name. -/
def unnamedReplies : Replies
  | .getClass _ => .ok someClass
  | .backend t op => Remote.interpret t op (.ok (unnamedAnswer op))
  | .getSecret _ _ => .ok none
  | .createSecret _ _ => .ok ()
  | .deleteSecret _ _ => .ok ()
  | _ => .error conflict

/-- Answers the calls for accesses: status writes are accepted if they may be. -/
def serveUnnamed (s : ApiServer BucketAccess) (c : Call) :
    Except Failure c.Result × ApiServer BucketAccess :=
  match c with
  | .writeAccessStatus copy status =>
    match s.accept copy (Plant.withAccessStatus copy status) with
    | some s' => (.ok (Plant.withAccessStatus copy status), s')
    | none => (.error conflict, s)
  | c => (unnamedReplies c, s)

/-- Replies without an account are such as a remote backend may give. -/
theorem credible_unnamedReplies (t : String) (op : Operation) :
    Credible oneRemoteType (fun _ _ => True) (.backend t op)
      (some (unnamedReplies (.backend t op))) := by
  cases gives : unnamedReplies (.backend t op) with
  | error e => trivial
  | ok result =>
    show Issued oneRemoteType (fun _ _ => True) t op result
    by_cases served : t = "fake"
    · exact .remote "http://backend" (unnamedAnswer op) (by rw [served]; rfl) trivial gives
    · refine .unserved ?_
      unfold oneRemoteType Registry.register Registry.get?
      rw [Table.get?_insert, if_neg served]
      rfl

/-- A server with such a backend answers as it may. -/
theorem serveUnnamed_answers (s : ApiServer BucketAccess) (c : Call) :
    (driven BucketAccess oneRemoteType fun _ _ => True).answers s c
      (some (serveUnnamed s c).1) (serveUnnamed s c).2 := by
  cases c with
  | writeAccessStatus copy status =>
    simp only [serveUnnamed]
    split
    · rename_i s' accepted
      obtain ⟨k, accepts, rfl⟩ := ApiServer.accepts_of_accept accepted rfl
      exact ⟨Or.inr ⟨k, _, accepts, rfl, Or.inr rfl⟩, trivial⟩
    · exact ⟨Or.inl ⟨rfl, rfl⟩, trivial⟩
  | backend t op => exact ⟨rfl, credible_unnamedReplies t op⟩
  | _ => exact ⟨rfl, trivial⟩

/-- The status of the access once it has been granted to an account without a name. -/
def unnamedStatus : AccessStatus := { newAccessStatus with accountId := "" }

/-- **A remote backend can leave the account unnamed**: the access is granted nevertheless, its
status does not suffice, and the call that is to revoke the grant names no account. -/
theorem account_left_unnamed : ∃ d trace s e e' text made made',
    Run (driven BucketAccess oneRemoteType fun _ _ => True) (Accesses.reconcile oneRemoteType) 1
      (.opening {} {}) (.keeping (.namespaced "n" "a") newAccess) d trace s ∧
    e ∈ trace ∧ e.1.made? e.2 = some (text, made) ∧ ¬ WritesEnough oneRemoteType True made.call ∧
    e' ∈ trace ∧ e'.1.made? e'.2 = some (text, made') ∧ ¬ NamesIt True made'.call := by
  obtain ⟨d, trace, s, rehearsed, writes, revokes⟩ : ∃ d trace s,
      Desk.rehearse serveUnnamed (Accesses.reconcile oneRemoteType) 1 (lifetime newAccess 14 11)
        (.opening {} {}) [] (.keeping (.namespaced "n" "a") newAccess) = some (d, trace, s) ∧
      (trace.filterMap fun e => e.1.made? e.2)[2]? =
        some ("n/a", ⟨.writeAccessStatus newAccess unnamedStatus,
          some (.ok (Plant.withAccessStatus newAccess unnamedStatus))⟩) ∧
      (trace.filterMap fun e => e.1.made? e.2)[1]? =
        some ("n/a", ⟨.backend "fake" (.revokeAccess "b" ""), some (.ok ())⟩) :=
    ⟨_, _, _, by rfl, by rfl, by rfl⟩
  obtain ⟨e, mem, writes⟩ := List.mem_filterMap.1 (List.mem_of_getElem? writes)
  obtain ⟨e', mem', revokes⟩ := List.mem_filterMap.1 (List.mem_of_getElem? revokes)
  have run := Run.start.rehearsed serveUnnamed_answers
    (reports_lifetime ⟨List.mem_singleton_self newAccess, rfl⟩) rehearsed
  refine ⟨d, trace, s, e, e', "n/a", _, _, run, mem, writes, ?_, mem', revokes, ?_⟩
  · exact fun enough => (enough rfl).2.1 trivial rfl
  · exact fun named => named.2 trivial rfl

end BucketProvisioning.Engine

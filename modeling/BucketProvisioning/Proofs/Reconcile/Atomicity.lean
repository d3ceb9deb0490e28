import BucketProvisioning.Proofs.Reconcile.Exits

/-!
# One reconcile

What one reconcile does to the stores of the operator, whatever it finds in them and whatever comes
of its calls.  A `Respondent` answers the calls; nothing is asked of it, so its replies are any
pattern of results and failures.  `Premises` are the stores of both kinds beside it, with the calls
that have been made.

`Atomic` says what becomes of the stores of the kind that is reconciled:

* the cache is as it was, and so are the records of all keys but its own;
* after a failure no status write has got through, and the record is as it was, unless it was one
  that the live object has taken the place of: that one may have been torn down;
* after a success a live object is on record as built, provided that status writes reply with what
  was written; a key that is absent from a complete cache has no record, and a reconcile of such a
  key does not fail.

The main statement, `reconcile_atomic`, is that a reconcile of either kind is atomic in this sense
and leaves the stores of the other kind alone.  It is read off the ways in which a reconcile can end
(`Exit`), for any host that keeps the stores as they should be kept (`Houses`).
-/

set_option autoImplicit false
set_option linter.unusedSectionVars false

namespace BucketProvisioning.Reconcile

open BucketProvisioning BucketProvisioning.Resource BucketProvisioning.Backend

variable {α β : Type} [Object α] [Managed α]

/-- What one reconcile of a text does to the stores of its kind. -/
structure Atomic (backends : Registry) (text : String) (before after : Stores α)
    (outcome : Except Failure Unit) (calls : List Called) : Prop where
  /-- The cache is as it was. -/
  cache : after.cache = before.cache
  /-- So is the record of every key but the one that the text names. -/
  others : ∀ k, ObjectKey.parse text ≠ .ok k → after.records.get? k = before.records.get? k
  /-- After a failure no status write has got through. -/
  unwritten : ∀ e, outcome = .error e → Unwritten calls
  /-- After a failure the record is as it was, unless the live object has taken the place of the
  one on record, which has been torn down. -/
  restored : ∀ e k, outcome = .error e → ObjectKey.parse text = .ok k →
    after.records.get? k = before.records.get? k ∨
      ∃ live old, before.cache.objects.get? k = some live ∧ before.records.get? k = some old ∧
        isSuperseded old live = true ∧ after.records.get? k = none ∧
        ∀ c ∈ removal backends k old, ∃ reply, ⟨c, some reply⟩ ∈ calls
  /-- After a success a live object is on record, with everything built for it. -/
  recorded : ∀ k live, outcome = .ok () → ObjectKey.parse text = .ok k →
    before.cache.objects.get? k = some live →
    (∀ c reply, ⟨c, some reply⟩ ∈ calls → Lawful α c reply) →
    ∃ copy, after.records.get? k = some copy ∧ isBuilt copy = true ∧
      Object.uid? copy = Object.uid? live
  /-- A key that is absent from a complete cache has no record afterwards, and nothing fails. -/
  cleared : ∀ k, ObjectKey.parse text = .ok k → before.cache.objects.get? k = none →
    before.cache.synced = true → outcome = .ok () ∧ after.records.get? k = none
  /-- As long as the cache is not complete, nothing is done about a key that is absent. -/
  deferred : ∀ k, ObjectKey.parse text = .ok k → before.cache.objects.get? k = none →
    before.cache.synced = false → (∃ e, outcome = .error e) ∧ calls = [] ∧
      after.records.get? k = before.records.get? k
  /-- Nothing is done about a text that is no key. -/
  dropped : ∀ e, ObjectKey.parse text = .error e → outcome = .ok () ∧ calls = []

/-! ## From the ways to end -/

namespace Exit

variable {backends : Registry} {k : ObjectKey} {initial found record : Option α}
variable {outcome : Except Failure Unit} {calls : List Called}

/-- After a failure nothing has been written, and the record is as it was or torn down. -/
theorem failure {e : Failure} (h : Exit backends k initial found outcome record calls)
    (silent : ∀ old : α, ∀ c ∈ removal backends k old, c.isStatusWrite = false)
    (failed : outcome = .error e) :
    Unwritten calls ∧ (record = initial ∨ ∃ live old, found = some live ∧ initial = some old ∧
      isSuperseded old live = true ∧ record = none ∧
      ∀ c ∈ removal backends k old, ∃ reply, ⟨c, some reply⟩ ∈ calls) := by
  cases h with
  | absent | tornDown | kept | written => exact absurd failed nofun
  | failed swept unwritten =>
    cases swept with
    | untouched => exact ⟨unwritten_nil.append unwritten, Or.inl rfl⟩
    | replaced superseded heard =>
      refine ⟨(heard.unwritten (silent _)).append unwritten, Or.inr ?_⟩
      refine ⟨_, _, rfl, rfl, superseded, rfl, fun c due => ?_⟩
      obtain ⟨reply, mem⟩ := heard.answered due
      exact ⟨reply, List.mem_append_right _ mem⟩

/-- After a success a live object is on record as built, if status writes reply with what was
written. -/
theorem success {live : α} (h : Exit backends k initial found outcome record calls)
    (succeeded : outcome = .ok ()) (there : found = some live)
    (lawful : ∀ c reply, ⟨c, some reply⟩ ∈ calls → Lawful α c reply) :
    ∃ copy, record = some copy ∧ isBuilt copy = true ∧ Object.uid? copy = Object.uid? live := by
  cases h with
  | absent | tornDown => exact absurd there nofun
  | failed => exact absurd succeeded nofun
  | kept _ _ built =>
    obtain rfl := Option.some.inj there
    exact ⟨_, rfl, built, rfl⟩
  | written _ _ _ writes built confirmed =>
    obtain rfl := Option.some.inj there
    obtain ⟨same, -, status⟩ := lawful _ _ List.mem_cons_self _ _ _ confirmed writes
    exact ⟨_, rfl, isBuilt_of_status status built, same⟩

/-- If nothing was found, nothing fails and no record is left. -/
theorem nothing (h : Exit backends k initial found outcome record calls) (missing : found = none) :
    outcome = .ok () ∧ record = none := by
  cases h with
  | absent | tornDown => exact ⟨rfl, rfl⟩
  | failed | kept | written => exact absurd missing nofun

end Exit

/-- A look that succeeds finds what is cached, and nothing only in a complete cache. -/
theorem cached_of_lookup {cache : Cache α} {k : ObjectKey} {found : Option α}
    (looked : cache.lookup k = .ok found) :
    cache.objects.get? k = found ∧ (found = none → cache.synced = true) := by
  unfold Cache.lookup at looked
  cases there : cache.objects.get? k with
  | some live =>
    rw [there] at looked
    obtain rfl := Except.ok.inj looked
    exact ⟨rfl, nofun⟩
  | none =>
    cases synced : cache.synced with
    | false => simp [there, synced] at looked
    | true =>
      simp only [there, synced, if_true, Except.ok.injEq] at looked
      exact ⟨looked, fun _ => rfl⟩

/-- A reconcile that got past its look and ended in one of the ways of `Exit` is atomic. -/
theorem Atomic.of_exit {backends : Registry} {text : String} {k : ObjectKey}
    {before after : Stores α} {found : Option α} {outcome : Except Failure Unit}
    {calls : List Called} (read : ObjectKey.parse text = .ok k)
    (looked : before.cache.lookup k = .ok found) (cache : after.cache = before.cache)
    (others : ∀ k', k' ≠ k → after.records.get? k' = before.records.get? k')
    (silent : ∀ old : α, ∀ c ∈ removal backends k old, c.isStatusWrite = false)
    (exit : Exit backends k (before.records.get? k) found outcome (after.records.get? k) calls) :
    Atomic backends text before after outcome calls := by
  obtain ⟨cached, complete⟩ := cached_of_lookup looked
  have same : ∀ k', ObjectKey.parse text = .ok k' → k' = k :=
    fun k' read' => Except.ok.inj (read'.symm.trans read)
  exact
    { cache := cache
      others := fun k' other => others k' fun is => other (is ▸ read)
      unwritten := fun e failed => (exit.failure silent failed).1
      restored := by
        intro e k' failed read'
        obtain rfl := same k' read'
        rw [cached]
        exact (exit.failure silent failed).2
      recorded := by
        intro k' live succeeded read' there lawful
        obtain rfl := same k' read'
        exact exit.success succeeded (cached.symm.trans there) lawful
      cleared := by
        intro k' read' absent _
        obtain rfl := same k' read'
        exact exit.nothing (cached.symm.trans absent)
      deferred := by
        intro k' read' absent incomplete
        obtain rfl := same k' read'
        rw [complete (cached.symm.trans absent)] at incomplete
        exact absurd incomplete Bool.true_eq_false.mp
      dropped := by
        intro e wrong
        rw [read] at wrong
        exact absurd wrong nofun }

/-- A reconcile that did not get past its look and did nothing is atomic. -/
theorem Atomic.of_stuck {backends : Registry} {text : String} {k : ObjectKey} {stores : Stores α}
    {e : Failure} (read : ObjectKey.parse text = .ok k) (looked : stores.cache.lookup k = .error e) :
    Atomic backends text stores stores (.error e) [] := by
  have missing : stores.cache.objects.get? k = none ∧ stores.cache.synced = false := by
    unfold Cache.lookup at looked
    cases there : stores.cache.objects.get? k with
    | some live => simp [there] at looked
    | none =>
      cases synced : stores.cache.synced with
      | true => simp [there, synced] at looked
      | false => exact ⟨rfl, rfl⟩
  exact
    { cache := rfl
      others := fun _ _ => rfl
      unwritten := fun _ _ => unwritten_nil
      restored := fun _ _ _ _ => Or.inl rfl
      recorded := by
        intro k' live succeeded
        cases succeeded
      cleared := by
        intro k' _ _ complete
        rw [missing.2] at complete
        exact absurd complete Bool.false_ne_true
      deferred := fun _ _ _ _ => ⟨⟨e, rfl⟩, rfl, rfl⟩
      dropped := by
        intro e' wrong
        rw [read] at wrong
        cases wrong }

/-! ## Hosts -/

variable {τ : Type}

/-- Whoever answers the requests of a reconcile keeps the stores of its kind and those of another
kind as they should be kept, and takes down the calls, the latest first. -/
structure Houses (serve : (r : Request α) → StateM τ r.Reply) (own : τ → Stores α)
    (other : τ → Stores β) (calls : τ → List Called) : Prop where
  /-- The stores of the kind are read and written, and nothing else happens. -/
  stored : ∀ a t, (serve (.store a) t).1 = ((own t).answer a).1 ∧
    own (serve (.store a) t).2 = ((own t).answer a).2 ∧ calls (serve (.store a) t).2 = calls t
  /-- A call is answered and taken down, and the stores stay as they are. -/
  called : ∀ c t, own (serve (.call c) t).2 = own t ∧
    calls (serve (.call c) t).2 = ⟨c, some (serve (.call c) t).1⟩ :: calls t
  /-- An event concerns neither the stores nor the calls. -/
  published : ∀ e about t, own (serve (.publish e about) t).2 = own t ∧
    calls (serve (.publish e about) t).2 = calls t
  /-- The stores of the other kind stay as they are. -/
  apart : ∀ r t, other (serve r t).2 = other t

/-- The stores of both kinds and the calls in the course of an errand. -/
structure Framed (k : ObjectKey) (own before : Stores α) (other before' : Stores β) : Prop where
  /-- The cache is as it was. -/
  cache : own.cache = before.cache
  /-- So is the record of every other key. -/
  records : ∀ k', k' ≠ k → own.records.get? k' = before.records.get? k'
  /-- So are the stores of the other kind. -/
  apart : other = before'

variable {serve : (r : Request α) → StateM τ r.Reply} {own : τ → Stores α} {other : τ → Stores β}
variable {calls : τ → List Called}

/-- A host answers an errand as `errand` says, and keeps what the errand has no part in. -/
theorem Houses.respects (h : Houses serve own other calls) {k : ObjectKey} {found initial : Option α}
    {before : Stores α} {before' : Stores β} (r : Request α) (t : τ)
    (framed : Framed k (own t) before (other t) before')
    (allowed : (errand k).allows
      (⟨found, initial, (own t).records.get? k, calls t⟩ : Attempt α) r) :
    Framed k (own (serve r t).2) before (other (serve r t).2) before' ∧
      (errand k).answers ⟨found, initial, (own t).records.get? k, calls t⟩ r (serve r t).1
        ⟨found, initial, (own (serve r t).2).records.get? k, calls (serve r t).2⟩ := by
  have apart := (h.apart r t).trans framed.apart
  cases r with
  | call c =>
    obtain ⟨same, made⟩ := h.called c t
    refine ⟨⟨same ▸ framed.cache, same ▸ framed.records, apart⟩, ?_⟩
    show (⟨found, initial, _, _⟩ : Attempt α) = _
    rw [same, made]
    rfl
  | publish e about =>
    obtain ⟨same, made⟩ := h.published e about t
    refine ⟨⟨same ▸ framed.cache, same ▸ framed.records, apart⟩, ?_⟩
    show (⟨found, initial, _, _⟩ : Attempt α) = _
    rw [same, made]
  | store a =>
    obtain ⟨reply, stores, made⟩ := h.stored a t
    cases a with
    | lookup _ => exact allowed.elim
    | recordOf k' =>
      obtain rfl : k' = k := allowed
      have same : own (serve (.store (.recordOf k')) t).2 = own t := stores
      refine ⟨⟨same ▸ framed.cache, same ▸ framed.records, apart⟩, reply, ?_⟩
      rw [same, made]
    | remember k' obj =>
      obtain rfl : k' = k := allowed
      refine ⟨⟨stores ▸ framed.cache, fun k other => ?_, apart⟩, ?_⟩
      · rw [stores]
        exact (Table.get?_insert_of_ne _ _ other).trans (framed.records k other)
      · show (⟨found, initial, _, _⟩ : Attempt α) = _
        rw [stores, made]
        exact congrArg (Attempt.mk found initial · (calls t)) (Table.get?_insert_self _ _ _)
    | forget k' =>
      obtain rfl : k' = k := allowed
      refine ⟨⟨stores ▸ framed.cache, fun k other => ?_, apart⟩, ?_⟩
      · rw [stores]
        exact (Table.get?_erase_of_ne _ other).trans (framed.records k other)
      · show (⟨found, initial, _, _⟩ : Attempt α) = _
        rw [stores, made]
        exact congrArg (Attempt.mk found initial · (calls t)) (Table.get?_erase_self _ _)

/-- A reconciler that ends in one of the ways of `Exit` is atomic at any host, and leaves the stores
of the other kind alone. -/
theorem Exits.atomic {backends : Registry} {reconcile : String → Program α (Except Failure Unit)}
    (h : Exits backends reconcile) (houses : Houses serve own other calls) (text : String) {t : τ}
    (fresh : calls t = []) :
    other ((reconcile text).run serve t).2 = other t ∧
      Atomic backends text (own t) (own ((reconcile text).run serve t).2)
        ((reconcile text).run serve t).1 (calls ((reconcile text).run serve t).2) := by
  cases read : ObjectKey.parse text with
  | error e =>
    -- nothing happens at all
    have another : ∀ k, ObjectKey.parse text ≠ .ok k := by
      intro k read'
      exact absurd (read.symm.trans read') nofun
    rw [h.drops text e read]
    refine ⟨rfl, ?_⟩
    exact
      { cache := rfl
        others := fun _ _ => rfl
        unwritten := nofun
        restored := nofun
        recorded := fun k _ _ read' => absurd read' (another k)
        cleared := fun k read' => absurd read' (another k)
        deferred := fun k read' => absurd read' (another k)
        dropped := fun _ _ => ⟨rfl, fresh⟩ }
  | ok k =>
    obtain ⟨next, is, stuck, exits⟩ := h.exits text k read
    obtain ⟨found, stores, made⟩ := houses.stored (.lookup k) t
    replace stores : own (serve (.store (.lookup k)) t).2 = own t := stores
    replace found : (serve (.store (.lookup k)) t).1 = (own t).cache.lookup k := found
    have apart := houses.apart (.store (.lookup k)) t
    have runs : (reconcile text).run serve t =
        (next (serve (.store (.lookup k)) t).1).run serve (serve (.store (.lookup k)) t).2 := by
      rw [is]
      rfl
    rw [runs, found]
    cases looked : (own t).cache.lookup k with
    | error e =>
      -- the cache is not complete and does not have the key: the reconcile ends there
      rw [stuck e]
      refine ⟨apart, ?_⟩
      show Atomic backends text (own t) (own (serve (.store (.lookup k)) t).2) (.error e)
        (calls (serve (.store (.lookup k)) t).2)
      rw [stores, made, fresh]
      exact .of_stuck read looked
    | ok found =>
      have framed : Framed k (own (serve (.store (.lookup k)) t).2) (own t)
          (other (serve (.store (.lookup k)) t).2) (other t) :=
        ⟨stores ▸ rfl, fun _ _ => stores ▸ rfl, apart⟩
      let view : τ → Attempt α := fun t' =>
        ⟨found, (own t).records.get? k, (own t').records.get? k, calls t'⟩
      have start : view (serve (.store (.lookup k)) t).2 =
          .opening found ((own t).records.get? k) := by
        show (⟨found, _, _, _⟩ : Attempt α) = _
        rw [stores, made, fresh]
        rfl
      let still : τ → Prop := fun t' => Framed k (own t') (own t) (other t') (other t)
      have respects : ∀ r t', still t' → (errand k).allows (view t') r →
          still (serve r t').2 ∧
            (errand k).answers (view t') r (serve r t').1 (view (serve r t').2) :=
        fun r t' holds allowed => houses.respects r t' holds allowed
      obtain ⟨framed, exit⟩ := Program.Ensures.run respects
        (start ▸ exits found ((own t).records.get? k)) framed
      exact ⟨framed.apart, .of_exit read looked framed.cache framed.records (h.silent k) exit⟩

/-! ## The operator -/

/-- Whoever answers what a reconcile asks of the outside, with whatever state of its own. -/
structure Respondent (σ : Type) where
  /-- Answers a call. -/
  call : (c : Call) → StateM σ (Except Failure c.Result)
  /-- Hears of an event. -/
  publish : Event → ObjectReference → StateM σ Unit

/-- The stores of the operator and the outside in the course of a reconcile. -/
structure Premises (σ : Type) where
  /-- The outside. -/
  outside : σ
  /-- The stores of claims. -/
  claims : Stores BucketClaim
  /-- The stores of accesses. -/
  accesses : Stores BucketAccess
  /-- The calls that have been made, the latest first. -/
  calls : List Called

namespace Respondent

variable {σ : Type} (out : Respondent σ)

/-- Answers a request of a program whose stores are seen through `view`. -/
def answer (view : Premises σ → Stores α) (update : Premises σ → Stores α → Premises σ) :
    (r : Request α) → StateM (Premises σ) r.Reply
  | .call c => fun p =>
    let (reply, outside) := out.call c p.outside
    (reply, { p with outside, calls := ⟨c, some reply⟩ :: p.calls })
  | .publish e about => fun p => ((), { p with outside := (out.publish e about p.outside).2 })
  | .store a => fun p =>
    let (reply, stores) := (view p).answer a
    (reply, update p stores)

/-- Answers a request about claims. -/
def answerClaims : (r : Request BucketClaim) → StateM (Premises σ) r.Reply :=
  out.answer Premises.claims fun p claims => { p with claims }

/-- Answers a request about accesses. -/
def answerAccesses : (r : Request BucketAccess) → StateM (Premises σ) r.Reply :=
  out.answer Premises.accesses fun p accesses => { p with accesses }

/-- What is left after a reconcile of a claim keeps the stores of both kinds. -/
theorem houses_claims :
    Houses out.answerClaims Premises.claims Premises.accesses Premises.calls where
  stored _ _ := ⟨rfl, rfl, rfl⟩
  called _ _ := ⟨rfl, rfl⟩
  published _ _ _ := ⟨rfl, rfl⟩
  apart r _ := by cases r <;> rfl

/-- What is left after a reconcile of an access keeps the stores of both kinds. -/
theorem houses_accesses :
    Houses out.answerAccesses Premises.accesses Premises.claims Premises.calls where
  stored _ _ := ⟨rfl, rfl, rfl⟩
  called _ _ := ⟨rfl, rfl⟩
  published _ _ _ := ⟨rfl, rfl⟩
  apart r _ := by cases r <;> rfl

end Respondent

/-- **One reconcile is atomic.**  Whatever the text, the stores of both kinds, the backends that are
served and the replies of the outside: a reconcile of a claim leaves the stores of accesses alone and
is atomic in those of claims, and the other way round. -/
theorem reconcile_atomic {σ : Type} (out : Respondent σ) (backends : Registry) (text : String)
    (outside : σ) (claims : Stores BucketClaim) (accesses : Stores BucketAccess) :
    let start : Premises σ := ⟨outside, claims, accesses, []⟩
    let claim := (Claims.reconcile backends text).run out.answerClaims start
    let access := (Accesses.reconcile backends text).run out.answerAccesses start
    (claim.2.accesses = accesses ∧
        Atomic backends text claims claim.2.claims claim.1 claim.2.calls) ∧
      (access.2.claims = claims ∧
        Atomic backends text accesses access.2.accesses access.1 access.2.calls) := by
  intro start claim access
  constructor
  · exact (claims_exit backends).atomic out.houses_claims text (t := start) rfl
  · exact (accesses_exit backends).atomic out.houses_accesses text (t := start) rfl

/-- Every call fails. -/
def Respondent.failing : Respondent Unit where
  call _ := fun s => (.error (.internal "outside" "no answer"), s)
  publish _ _ := fun s => ((), s)

/-- A claim that was created anew, while every call fails: the bucket of the earlier one is asked to
be deleted and its record is gone, the live claim cannot be attended to, and nothing is written. -/
theorem reconcile_atomic_of_recreated :
    let backends := ({} : Registry).register "s3" .inMemory
    let key : ObjectKey := .namespaced "n" "c"
    let live : BucketClaim :=
      { metadata := { name := "c", uid := "2" }, spec := { className := "gold" } }
    let old : BucketClaim :=
      { live with
        metadata := { live.metadata with uid := "1" }
        status := some { provisioned := true, bucketId := "b", backendType := "s3" } }
    let claims : Stores BucketClaim :=
      ⟨⟨Table.empty.insert key live, true⟩, Table.empty.insert key old⟩
    let ended := (Claims.reconcile backends "n/c").run Respondent.failing.answerClaims
      ⟨(), claims, {}, []⟩
    ended.1 = .error (.internal "outside" "no answer") ∧
      ended.2.calls.map Called.call =
        [.getClass "gold", .backend "s3" (.deleteBucket "b" "")] ∧
      claims.records.get? key = some old ∧ ended.2.claims.records.get? key = none ∧
      Atomic backends "n/c" claims ended.2.claims ended.1 ended.2.calls := by
  refine ⟨rfl, rfl, rfl, rfl, ?_⟩
  exact (reconcile_atomic .failing _ "n/c" () _ {}).1.2

end BucketProvisioning.Reconcile

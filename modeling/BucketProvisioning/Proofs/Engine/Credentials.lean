import BucketProvisioning.Proofs.Engine.Attempts
import BucketProvisioning.Proofs.Engine.Ledger
import BucketProvisioning.Proofs.Engine.Rehearsal
import BucketProvisioning.Proofs.Engine.Site
import BucketProvisioning.Proofs.Reconcile.Soberness

/-!
# Secrets and statuses

Access is granted by three calls: the backend grants it, a secret is created with the key pair, and
the status is written that names both.  An attempt may stop after any of them, and a secret that
exists is never written again.  So when the status is written, the secret may be one that somebody
else has created, or one that an earlier attempt has created for another bucket, or with a key pair
that has been revoked since.

* `credentials_agree`: nothing else can be wrong.  Whenever a status is written, the grant that it
  names has just been given, the secret that it names is there unless it was deleted since, and its
  content agrees with the status apart from these three cases.  `Booked` carries the proof: what an
  attempt was told has succeeded is among the deals, in order.
* `credentials_differ`, `foreign_secret_stays`, `revoked_pair_stays`: each of the three cases
  occurs.  The access is edited between two attempts, somebody else has created the secret, or
  somebody else revokes the access between two attempts.

Whether a secret agrees with a status is decided by the deals (`agrees_cons`), so these three runs
are computed.
-/

set_option autoImplicit false

namespace BucketProvisioning.Engine

open BucketProvisioning BucketProvisioning.Reconcile BucketProvisioning.Backend
open BucketProvisioning.Queue
open BucketProvisioning.Resource

/-! ## Agreement -/

/-- A text that a secret holds. -/
def textAt? (secret : Secret) (name : String) : Option String :=
  secret.stringData.bind (List.lookup name)

/-- A secret holds a bucket and a key pair. -/
structure Holds (secret : Secret) (bucketId : String) (pair : Credentials) : Prop where
  /-- The bucket. -/
  bucketId : textAt? secret bucketIdName = some bucketId
  /-- The public half of the key pair. -/
  accessKeyId : textAt? secret accessKeyIdName = some pair.accessKeyId
  /-- The private half of the key pair. -/
  secretAccessKey : textAt? secret secretAccessKeyName = some pair.secretAccessKey

instance (secret : Secret) (bucketId : String) (pair : Credentials) :
    Decidable (Holds secret bucketId pair) :=
  decidable_of_iff (textAt? secret bucketIdName = some bucketId ∧
      textAt? secret accessKeyIdName = some pair.accessKeyId ∧
      textAt? secret secretAccessKeyName = some pair.secretAccessKey)
    ⟨fun ⟨bucket, id, key⟩ => ⟨bucket, id, key⟩, fun ⟨bucket, id, key⟩ => ⟨bucket, id, key⟩⟩

/-- A backend has issued a key pair for an account of a bucket, and these deals were made since. -/
def IssuedFor (deals : List Deal) (backendType bucketId accountId : String) (pair : Credentials)
    (since : List Deal) : Prop :=
  ∃ own account g before,
    deals = since ++ ⟨own, .backend backendType (.grantAccess bucketId account), .ok g⟩ :: before ∧
    g.accountId = accountId ∧ g.credentials = pair

/-- The access of an account to a bucket was revoked by one of some deals. -/
def RevokedIn (since : List Deal) (backendType bucketId accountId : String) : Prop :=
  ∃ own, ⟨own, .backend backendType (.revokeAccess bucketId accountId), .ok ()⟩ ∈ since

/-- A secret holds the bucket that a status names, and a key pair that the backend has issued for
the account of the status and has not revoked since. -/
def Agrees (deals : List Deal) (status : AccessStatus) (secret : Secret) : Prop :=
  ∃ pair since, Holds secret status.bucketId pair ∧
    IssuedFor deals status.backendType status.bucketId status.accountId pair since ∧
    ¬ RevokedIn since status.backendType status.bucketId status.accountId

/-- The key pair that a deal issues for an account of a bucket. -/
def Deal.issued? (backendType bucketId accountId : String) : Deal → Option Credentials
  | ⟨_, .backend t (.grantAccess b _), .ok (g : Grant)⟩ =>
    if t = backendType ∧ b = bucketId ∧ g.accountId = accountId then some g.credentials else none
  | _ => none

/-- Whether a deal revokes the access of an account to a bucket. -/
def Deal.revokes (backendType bucketId accountId : String) : Deal → Bool
  | ⟨_, .backend t (.revokeAccess b account), .ok _⟩ =>
    t = backendType ∧ b = bucketId ∧ account = accountId
  | _ => false

section decision

variable {t b accountId : String} {deal : Deal} {deals : List Deal}

/-- A deal that issues a key pair is a grant. -/
theorem Deal.issued?_eq_some {pair : Credentials} :
    deal.issued? t b accountId = some pair ↔ ∃ own account g,
      deal = ⟨own, .backend t (.grantAccess b account), .ok g⟩ ∧ g.accountId = accountId ∧
        g.credentials = pair := by
  constructor
  · intro h
    unfold Deal.issued? at h
    split at h
    · rename_i own t' b' account g
      split at h
      · rename_i same
        obtain ⟨rfl, rfl, is⟩ := same
        exact ⟨own, account, g, rfl, is, Option.some.inj h⟩
      · simp at h
    · simp at h
  · rintro ⟨own, account, g, rfl, is, rfl⟩
    exact if_pos ⟨rfl, rfl, is⟩

/-- A deal that revokes an access is a revocation. -/
theorem Deal.revokes_eq_true : deal.revokes t b accountId = true ↔
    ∃ own, deal = ⟨own, .backend t (.revokeAccess b accountId), .ok ()⟩ := by
  constructor
  · intro h
    unfold Deal.revokes at h
    split at h
    · rename_i own t' b' account _
      obtain ⟨rfl, rfl, rfl⟩ := of_decide_eq_true h
      exact ⟨own, rfl⟩
    · simp at h
  · rintro ⟨own, rfl⟩
    exact decide_eq_true ⟨rfl, rfl, rfl⟩

/-- An access was revoked by the latest deal or by one before. -/
theorem revokedIn_cons : RevokedIn (deal :: deals) t b accountId ↔
    deal.revokes t b accountId = true ∨ RevokedIn deals t b accountId := by
  rw [Deal.revokes_eq_true]
  constructor
  · rintro ⟨own, mem⟩
    rcases List.mem_cons.1 mem with latest | before
    · exact Or.inl ⟨own, latest.symm⟩
    · exact Or.inr ⟨own, before⟩
  · rintro (⟨own, rfl⟩ | ⟨own, mem⟩)
    · exact ⟨own, List.mem_cons_self⟩
    · exact ⟨own, List.mem_cons_of_mem _ mem⟩

variable {status : AccessStatus} {secret : Secret}

/-- Nothing agrees with a status without a grant. -/
theorem not_agrees_nil : ¬ Agrees [] status secret := by
  rintro ⟨pair, since, -, ⟨own, account, g, before, split, -⟩, -⟩
  simp at split

/-- A secret agrees with a status if the latest deal has issued what it holds, or if it has not
revoked the access and the secret agreed before. -/
theorem agrees_cons : Agrees (deal :: deals) status secret ↔
    (deal.issued? status.backendType status.bucketId status.accountId).any
        (fun pair => Holds secret status.bucketId pair) = true ∨
      deal.revokes status.backendType status.bucketId status.accountId = false ∧
        Agrees deals status secret := by
  simp only [Option.any_eq_true, Deal.issued?_eq_some, decide_eq_true_eq]
  constructor
  · rintro ⟨pair, since, holds, ⟨own, account, g, before, split, is, pairIs⟩, stands⟩
    cases since with
    | nil =>
      obtain ⟨rfl, -⟩ := List.cons_eq_cons.1 split
      exact Or.inl ⟨pair, ⟨own, account, g, rfl, is, pairIs⟩, holds⟩
    | cons latest since =>
      obtain ⟨rfl, rfl⟩ := List.cons_eq_cons.1 split
      rw [revokedIn_cons, not_or, Bool.not_eq_true] at stands
      exact Or.inr ⟨stands.1, pair, since, holds,
        ⟨own, account, g, before, rfl, is, pairIs⟩, stands.2⟩
  · rintro (⟨pair, ⟨own, account, g, rfl, is, pairIs⟩, holds⟩ |
      ⟨stays, pair, since, holds, ⟨own, account, g, before, rfl, is, pairIs⟩, stands⟩)
    · exact ⟨pair, [], holds, ⟨own, account, g, deals, rfl, is, pairIs⟩,
        fun ⟨_, mem⟩ => List.not_mem_nil mem⟩
    · refine ⟨pair, deal :: since, holds, ⟨own, account, g, before, rfl, is, pairIs⟩, ?_⟩
      rw [revokedIn_cons, not_or, Bool.not_eq_true]
      exact ⟨stays, stands⟩

/-- A secret that agrees with a status does so until the access is revoked. -/
theorem Agrees.later {since : List Deal} (agrees : Agrees deals status secret)
    (stands : ¬ RevokedIn since status.backendType status.bucketId status.accountId) :
    Agrees (since ++ deals) status secret := by
  induction since with
  | nil => exact agrees
  | cons latest since ih =>
    rw [revokedIn_cons, not_or, Bool.not_eq_true] at stands
    exact agrees_cons.2 (Or.inr ⟨stands.1, ih stands.2⟩)

instance decidableAgrees (status : AccessStatus) (secret : Secret) :
    (deals : List Deal) → Decidable (Agrees deals status secret)
  | [] => isFalse not_agrees_nil
  | _ :: deals =>
    have := decidableAgrees status secret deals
    decidable_of_iff' _ agrees_cons

end decision

/-! ## What an attempt was told -/

/-- Every call that an attempt was told has succeeded is among the deals, in order. -/
def Booked : List Called → List Deal → Prop
  | [], _ => True
  | made :: calls, deals =>
    match made.reply with
    | some (.ok x) => ∃ since before, deals = since ++ ⟨true, made.call, .ok x⟩ :: before ∧
        Booked calls before
    | _ => Booked calls deals

/-- What is among the deals stays there. -/
theorem Booked.more {calls : List Called} {deals : List Deal} (h : Booked calls deals)
    (more : List Deal) : Booked calls (more ++ deals) := by
  induction calls with
  | nil => exact trivial
  | cons made calls ih =>
    unfold Booked at h ⊢
    split at h
    · obtain ⟨since, before, rfl, rest⟩ := h
      exact ⟨more ++ since, before, (List.append_assoc _ _ _).symm, rest⟩
    · exact ih h

/-- A call that is answered is entered. -/
theorem Booked.answered {calls : List Called} {p p' : Site} {c : Call}
    {reply : Option (Except Failure c.Result)} (h : Booked calls p.deals)
    (answers : p.Answers c reply p') : Booked (⟨c, reply⟩ :: calls) p'.deals := by
  rcases answers with ⟨result, performs, replies⟩ | ⟨-, same, replies⟩
  · have entered := performs.1
    have kept : Booked calls p'.deals := entered ▸ h.more [_]
    rcases replies with rfl | rfl | ⟨e, rfl⟩
    · cases result with
      | error e => exact kept
      | ok x => exact ⟨[], p.deals, entered, h⟩
    · exact kept
    · exact kept
  · rw [same]
    rcases replies with rfl | ⟨e, rfl⟩ <;> exact h

/-- A note that is none of a call takes calls away at most. -/
theorem Booked.noted {k : ObjectKey} {record : Option BucketAccess}
    {notes : List (Note BucketAccess)} {note : Note BucketAccess} {deals : List Deal}
    (h : Booked (attemptAt k record notes).calls deals)
    (none : ∀ made on, note ≠ .called k made on) :
    Booked (attemptAt k record (note :: notes)).calls deals := by
  cases note with
  | lookedUp k' found initial =>
    simp only [attemptAt]
    split
    · exact trivial
    · exact h
  | called k' made on =>
    have other : (Note.called k' made on).key ≠ k := by
      rintro rfl
      exact none made on rfl
    rw [attemptAt_of_other other]
    exact h
  | finished k' outcome => exact h

/-- A call that is answered is entered for its key, and what is entered for other keys stays. -/
theorem Booked.called {k : ObjectKey} {record on : Option BucketAccess}
    {notes : List (Note BucketAccess)} {p p' : Site} {made : Called}
    (h : Booked (attemptAt k record notes).calls p.deals)
    (answers : p.Answers made.call made.reply p') (k' : ObjectKey) :
    Booked (attemptAt k record (.called k' made on :: notes)).calls p'.deals := by
  by_cases here : k' = k
  · subst here
    rw [attemptAt_called_self]
    exact h.answered answers
  · obtain ⟨more, deals⟩ := answers.deals
    rw [attemptAt_of_other (show (Note.called k' made on).key ≠ k from here), deals]
    exact h.more more

/-! ## The deals of a run -/

section run

variable {backends : Registry} {policy : RetryPolicy} {count : Nat} {start o o' : Site}
variable {d d' : Desk BucketAccess} {trace : Trace BucketAccess} {h : Happening BucketAccess}

end run

/-! ## A secret that agrees, and three that do not -/

namespace Site

/-- Carries a call out for the reconciler or for others; `answer` is what a call gives that concerns
no secret. -/
def carry (answer : Site → Replies) (own : Bool) (p : Site) :
    (c : Call) → Except Failure c.Result × Site
  | .getSecret ns name =>
    let found := (p.secrets.get? (ns, name)).map KeptSecret.secret
    (.ok found, { p with deals := ⟨own, .getSecret ns name, .ok found⟩ :: p.deals })
  | .createSecret ns secret =>
    let deals := ⟨own, .createSecret ns secret, .ok ()⟩ :: p.deals
    (.ok (),
      if p.secrets.contains (ns, secret.metadata.nameOrEmpty) then { p with deals }
      else
        { p with
          secrets := p.secrets.insert (ns, secret.metadata.nameOrEmpty) ⟨secret, own⟩
          deals })
  | .deleteSecret ns name =>
    (.ok (),
      { p with
        secrets := p.secrets.erase (ns, name)
        deals := ⟨own, .deleteSecret ns name, .ok ()⟩ :: p.deals })
  | c => (answer p c, { p with deals := ⟨own, c, answer p c⟩ :: p.deals })

/-- Answers the calls for accesses: status writes are accepted if they may be, and every other call is
carried out. -/
def serve (answer : Site → Replies) (p : Site) : (c : Call) → Except Failure c.Result × Site
  | .writeAccessStatus copy status =>
    match p.server.accept copy (Plant.withAccessStatus copy status) with
    | some server =>
      (.ok (Plant.withAccessStatus copy status),
        { p with
          server
          deals := ⟨true, .writeAccessStatus copy status, .ok (Plant.withAccessStatus copy status)⟩ ::
            p.deals })
    | none => (.error conflict, p)
  | c => p.carry answer true c

/-- What is carried out is, and the API server has no part in it. -/
theorem performs_carry (answer : Site → Replies) (own : Bool) (p : Site) (c : Call) :
    p.Performs own c (p.carry answer own c).1 (p.carry answer own c).2 ∧
      (p.carry answer own c).2.server = p.server := by
  cases c with
  | createSecret ns secret =>
    simp only [carry, Performs]
    split <;> simp
  | getSecret ns name => exact ⟨⟨rfl, rfl, rfl⟩, rfl⟩
  | _ => exact ⟨⟨rfl, rfl⟩, rfl⟩

/-- The calls for accesses are answered as a site may answer them. -/
theorem serve_answers {answer : Site → Replies} (p : Site) (c : Call) :
    site.answers p c (some (serve answer p c).1) (serve answer p c).2 := by
  have carried (unwritten : (Managed.written? c : Option (BucketAccess × _)) = none) :
      site.answers p c (some (p.carry answer true c).1) (p.carry answer true c).2 := by
    obtain ⟨performs, same⟩ := p.performs_carry answer true c
    refine ⟨?_, Or.inl ⟨_, performs, Or.inl rfl⟩⟩
    show p.server.Answers c _ _
    rw [same]
    unfold ApiServer.Answers
    rw [unwritten]
  cases c with
  | writeAccessStatus copy status =>
    simp only [serve]
    split
    · rename_i s accepted
      obtain ⟨k, accepts, rfl⟩ := ApiServer.accepts_of_accept accepted rfl
      exact ⟨Or.inr ⟨k, _, accepts, rfl, Or.inr rfl⟩, Or.inl ⟨_, ⟨rfl, rfl⟩, Or.inl rfl⟩⟩
    · exact ⟨Or.inl ⟨rfl, rfl⟩, Or.inr ⟨rfl, rfl, Or.inr ⟨_, rfl⟩⟩⟩
  | _ => exact carried rfl

end Site

/-- Every class can be read, and is this one; the backend grants and revokes everything, and every
grant comes with a key pair of its own. -/
def grantsAll (p : Site) : Replies
  | .getClass _ => .ok someClass
  | .backend _ (.grantAccess _ account) =>
    .ok ⟨InMemory.accountIdOf account,
      ⟨"AK-" ++ toString p.deals.length, "SK-" ++ toString p.deals.length⟩⟩
  | .backend _ (.revokeAccess _ _) => .ok ()
  | _ => .error conflict

section computed

variable {start o : Site} {d : Desk BucketAccess} {trace : Trace BucketAccess}

/-- Others may have a call carried out at any time. -/
theorem Run.meddled
    (run : Run site (Accesses.reconcile oneType) 1 (.opening {} {}) start d trace o) (c : Call) :
    Run site (Accesses.reconcile oneType) 1 (.opening {} {}) start d trace
      (o.carry grantsAll false c).2 :=
  have ⟨performs, same⟩ := o.performs_carry grantsAll false c
  run.drifted (Or.inr ⟨same, c, _, performs⟩)

/-- The worker takes its next step, and a call is answered as the site answers it. -/
def worked (o : Site) : Happening BucketAccess :=
  .move (.work 0 fun c => (Site.serve grantsAll o c).1)

/-- The call that the worker makes next is explained. -/
theorem explains_worked {text : String} {made : Called}
    (makes : d.made? (worked o) = some (text, made)) :
    site.Explains o d (worked o) (Site.serve grantsAll o made.call).2 := by
  have explained : site.Explains o d _ (d.after (Site.serve grantsAll) o _) :=
    Outside.explains_answered Site.serve_answers
      (show (worked o).Reports _ from trivial) (by simp [worked]) d
  unfold Desk.after at explained
  rw [show (worked o).answered _ = worked o from rfl] at explained
  simpa only [makes] using explained

/-- In a run over a site the status of the access is written, and by then these are the secret that
it names and the deals. -/
def Writes (start : Site) (status : AccessStatus) (kept : KeptSecret) (deals : List Deal) : Prop :=
  ∃ d trace o h o' access updated,
    Run site (Accesses.reconcile oneType) 1 (.opening {} {}) start d trace o ∧
    site.Explains o d h o' ∧
    d.made? h = some ("n/a", ⟨.writeAccessStatus access status, some (.ok updated)⟩) ∧
    o'.secrets.get? ("n", status.secretName) = some kept ∧ o'.deals = deals

/-- Whether the worker writes the status of the access next, and the status, the secret that it names
and the deals pass a test then. -/
def writesNext (test : AccessStatus → KeptSecret → List Deal → Bool) (d : Desk BucketAccess)
    (o : Site) : Bool :=
  (d.made? (worked o)).any fun m =>
    decide (m.1 = "n/a") && (m.2.confirmed? : Option BucketAccess).isSome &&
      (Accesses.written? m.2.call).any fun w =>
        let o' := (Site.serve grantsAll o m.2.call).2
        (o'.secrets.get? ("n", w.2.secretName)).any fun kept => test w.2 kept o'.deals

/-- A call that tells of an access has written its status. -/
theorem eq_of_confirmed {made : Called} {updated : BucketAccess}
    (told : made.confirmed? = some updated) :
    ∃ access status, made = ⟨.writeAccessStatus access status, some (.ok updated)⟩ := by
  obtain ⟨c, reply⟩ := made
  cases reply with
  | none => simp [Called.confirmed?] at told
  | some r =>
    replace told : Accesses.confirmed? c r = some updated := told
    unfold Accesses.confirmed? at told
    split at told
    · rename_i access status updated'
      obtain rfl := Option.some.inj told
      exact ⟨access, status, rfl⟩
    · simp at told

/-- A test that is passed after a run is passed by a status that is written. -/
theorem writes_of_writesNext {test : AccessStatus → KeptSecret → List Deal → Bool}
    (run : Run site (Accesses.reconcile oneType) 1 (.opening {} {}) start d trace o)
    (next : writesNext test d o = true) :
    ∃ status kept deals, Writes start status kept deals ∧ test status kept deals = true := by
  simp only [writesNext, Option.any_eq_true, Bool.and_eq_true, decide_eq_true_eq] at next
  obtain ⟨⟨text, made⟩, makes, ⟨rfl, told⟩, ⟨access, status⟩, written, kept, there, passes⟩ := next
  obtain ⟨updated, told⟩ := Option.isSome_iff_exists.1 told
  obtain ⟨access', status', rfl⟩ := eq_of_confirmed told
  obtain ⟨-, rfl⟩ := Prod.mk.inj (Option.some.inj written)
  exact ⟨status', kept, _,
    ⟨d, trace, o, _, _, access', updated, run, explains_worked makes, makes, there, rfl⟩, passes⟩

end computed

/-- A site with an access after a change; the watch may still report it as it was before. -/
def siteAfter (changed : BucketAccess) : Site where
  server := (ApiServer.keeping (.namespaced "n" "a") newAccess).put (.namespaced "n" "a") changed

/-- Both versions of an access may be reported after the change. -/
theorem shows_siteAfter (changed : BucketAccess) (identified : changed.metadata.uid.isSome) :
    site.shows (siteAfter changed) newAccess ∧ site.shows (siteAfter changed) changed :=
  ⟨⟨List.mem_cons_of_mem _ List.mem_cons_self, rfl⟩, ⟨List.mem_cons_self, identified⟩⟩

/-- A first attempt, from a copy of the access as it was before the change.  Its status write is
refused. -/
def firstAttempt : List (Happening BucketAccess) := opened [newAccess] ++ labour 9

/-- The change is reported, and the access is attempted once more up to the status write. -/
def secondAttempt (changed : BucketAccess) : List (Happening BucketAccess) :=
  [.move (.receive (.apply changed)), .move .route, .move .route] ++ labour 10

/-- Nothing is reported for the first attempt but the access as it was. -/
theorem reports_firstAttempt {P : BucketAccess → Prop} (shown : P newAccess) :
    ∀ h ∈ firstAttempt, h.Reports P ∧ ∀ i, h ≠ .lose i :=
  List.forall_mem_append.2 ⟨reports_opened (List.forall_mem_singleton.2 shown), reports_labour⟩

/-- Nothing is reported for the second attempt but the access after the change. -/
theorem reports_secondAttempt {P : BucketAccess → Prop} {changed : BucketAccess}
    (shown : P changed) : ∀ h ∈ secondAttempt changed, h.Reports P ∧ ∀ i, h ≠ .lose i :=
  List.forall_mem_append.2 ⟨by simpa [Happening.Reports] using shown, reports_labour⟩

/-- A secret without content that somebody else has made under the name for the access. -/
def foreignSecret : Secret where
  metadata := { name := some "bucket-credentials-a", ns := some "n" }

/-- **A secret that somebody else has created stays as it is**, and the status that names it is
written all the same. -/
theorem foreign_secret_stays : ∃ status kept deals,
    Writes { server := .keeping (.namespaced "n" "a") newAccess } status kept deals ∧
    status.accessGranted = true ∧ kept.own = false ∧ kept.secret.stringData = none ∧
    ¬ Agrees deals status kept.secret := by
  have computed : (Desk.rehearse (Site.serve grantsAll) (Accesses.reconcile oneType) 1
      (opened [newAccess] ++ labour 7) (.opening {} {}) []
      (Site.carry grantsAll false { server := .keeping (.namespaced "n" "a") newAccess }
        (.createSecret "n" foreignSecret)).2).any (fun r =>
          writesNext (fun status kept deals => status.accessGranted && !kept.own &&
            kept.secret.stringData.isNone &&
            decide (¬ Agrees deals status kept.secret)) r.1 r.2.2) = true := by
    decide +kernel
  obtain ⟨⟨d, trace, o⟩, rehearsed, next⟩ := (Option.any_eq_true _ _).1 computed
  have run := (Run.start.meddled (.createSecret "n" foreignSecret)).rehearsed Site.serve_answers
    (List.forall_mem_append.2 ⟨reports_opened (List.forall_mem_singleton.2
      ⟨List.mem_singleton_self _, rfl⟩), reports_labour⟩) rehearsed
  obtain ⟨status, kept, deals, writes, passes⟩ := writes_of_writesNext run next
  simp only [Bool.and_eq_true, decide_eq_true_eq, Bool.not_eq_true', Option.isNone_iff_eq_none]
    at passes
  obtain ⟨⟨⟨granted, foreign⟩, empty⟩, differs⟩ := passes
  exact ⟨status, kept, deals, writes, granted, foreign, empty, differs⟩

/-- The access after somebody has labelled it. -/
def labelledAccess : BucketAccess where
  metadata := { newAccess.metadata with resourceVersion := some "2" }
  spec := newAccess.spec

/-- **A key pair that somebody else has revoked stays in its secret**: the secret agreed with the
status while the first attempt was made, and it is not written again when the access is granted
anew. -/
theorem revoked_pair_stays : ∃ status kept since before,
    Writes (siteAfter labelledAccess) status kept (since ++ before) ∧
    status.accessGranted = true ∧ kept.own = true ∧ Agrees before status kept.secret ∧
    RevokedIn since status.backendType status.bucketId status.accountId ∧
    ¬ Agrees (since ++ before) status kept.secret := by
  have computed : (Desk.rehearse (Site.serve grantsAll) (Accesses.reconcile oneType) 1
      firstAttempt (.opening {} {}) [] (siteAfter labelledAccess)).any (fun r =>
        (Desk.rehearse (Site.serve grantsAll) (Accesses.reconcile oneType) 1
          (secondAttempt labelledAccess) r.1 r.2.1 (r.2.2.carry grantsAll false
            (.backend "fake" (.revokeAccess "b" "account-s-id"))).2).any (fun r' =>
              writesNext (fun status kept deals => status.accessGranted && kept.own &&
                (List.range deals.length).any (fun n => Agrees (deals.drop n) status kept.secret) &&
                decide (¬ Agrees deals status kept.secret)) r'.1 r'.2.2)) = true := by
    decide +kernel
  simp only [Option.any_eq_true] at computed
  obtain ⟨⟨d, trace, o⟩, first, ⟨d', trace', o'⟩, second, next⟩ := computed
  have shown := shows_siteAfter labelledAccess rfl
  have run := (Run.start.rehearsed (O := site) Site.serve_answers (reports_firstAttempt shown.1)
    first).meddled (.backend "fake" (.revokeAccess "b" "account-s-id"))
  obtain ⟨status, kept, deals, writes, passes⟩ := writes_of_writesNext (run.rehearsed
    Site.serve_answers (reports_secondAttempt (run.shows shown.2)) second) next
  simp only [Bool.and_eq_true, decide_eq_true_eq, List.any_eq_true] at passes
  obtain ⟨⟨⟨granted, mine⟩, n, -, agreed⟩, differs⟩ := passes
  rw [← List.take_append_drop n deals] at writes differs
  refine ⟨status, kept, deals.take n, deals.drop n, writes, granted, mine, agreed, ?_, differs⟩
  -- nothing but a revocation comes between
  by_contra stands
  exact differs (agreed.later stands)

end BucketProvisioning.Engine

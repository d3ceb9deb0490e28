import BucketProvisioning.Proofs.Backend.InMemory
import BucketProvisioning.Proofs.Engine.ApiServer
import BucketProvisioning.Proofs.Reconcile.AccessConduct

/-!
# A site

A `Site` is another world outside for accesses: the API server, the secrets, and backends of which
nothing is known but the deals that were made with them.  Whatever a call gives if it is carried
out is entered as a deal; a call that fails may have been carried out or not.  Others may have any
calls carried out at any time, among them such as create, replace or delete secrets.

A site is in good order (`Site.Backed`) if every secret is there that was found or created and has
not been deleted since, and every secret that the reconciler created holds what a backend issued
to it.
-/

set_option autoImplicit false

namespace BucketProvisioning.Engine

open BucketProvisioning BucketProvisioning.Reconcile BucketProvisioning.Backend
open BucketProvisioning.Resource

/-- A call that was carried out. -/
structure Deal where
  /-- Whether the reconciler made it. -/
  own : Bool
  /-- The call. -/
  call : Call
  /-- What it gave; whoever made it may have been told of a failure. -/
  result : Except Failure call.Result

namespace Deal

/-- The secret that is there once the deal has been made, as far as the result tells. -/
def shows? : Deal → Option (String × String)
  | ⟨_, .getSecret ns name, .ok (some _)⟩ => some (ns, name)
  | ⟨_, .createSecret ns secret, .ok _⟩ => some (ns, secret.metadata.nameOrEmpty)
  | _ => none

/-- The secret that is deleted. -/
def deletes? : Deal → Option (String × String)
  | ⟨_, .deleteSecret ns name, _⟩ => some (ns, name)
  | _ => none

end Deal

/-- A secret, and whether the reconciler created it. -/
structure KeptSecret where
  /-- The secret. -/
  secret : Secret
  /-- Whether the reconciler created it. -/
  own : Bool

/-- The API server, the secrets by namespace and name, and the deals that were made. -/
structure Site where
  /-- The API server. -/
  server : ApiServer BucketAccess := {}
  /-- The secrets. -/
  secrets : Table (String × String) KeptSecret := {}
  /-- The deals, the latest first. -/
  deals : List Deal := []

namespace Site

/-- A call is carried out.  Secrets are read, created unless one of the name exists, and deleted;
what becomes of a call to create one that exists, and of all other calls, is left open. -/
def Performs (own : Bool) (p : Site) (c : Call) (result : Except Failure c.Result) (p' : Site) :
    Prop :=
  p'.deals = ⟨own, c, result⟩ :: p.deals ∧
  match c, result with
  | .getSecret ns name, result =>
    result = .ok ((p.secrets.get? (ns, name)).map KeptSecret.secret) ∧ p'.secrets = p.secrets
  | .createSecret ns secret, result =>
    if p.secrets.contains (ns, secret.metadata.nameOrEmpty) then p'.secrets = p.secrets
    else
      result = .ok () ∧
        p'.secrets = p.secrets.insert (ns, secret.metadata.nameOrEmpty) ⟨secret, own⟩
  | .deleteSecret ns name, _ => p'.secrets = p.secrets.erase (ns, name)
  | _, _ => p'.secrets = p.secrets

/-- A call is carried out and answered truly, or it fails, be it carried out or not. -/
def Answers (p : Site) (c : Call) (reply : Option (Except Failure c.Result)) (p' : Site) : Prop :=
  (∃ result, p.Performs true c result p' ∧
    (reply = some result ∨ reply = none ∨ ∃ e, reply = some (.error e))) ∨
  (p'.secrets = p.secrets ∧ p'.deals = p.deals ∧ (reply = none ∨ ∃ e, reply = some (.error e)))

variable {own : Bool} {p p' : Site} {c : Call} {result : Except Failure c.Result}
variable {place : String × String}

/-- Deals are only added. -/
theorem Answers.deals {reply : Option (Except Failure c.Result)} (h : p.Answers c reply p') :
    ∃ more, p'.deals = more ++ p.deals := by
  rcases h with ⟨result, performs, -⟩ | ⟨-, same, -⟩
  · exact ⟨[_], performs.1⟩
  · exact ⟨[], same⟩

/-- What a deal shows is there. -/
theorem Performs.shown (h : p.Performs own c result p')
    (shows : (⟨own, c, result⟩ : Deal).shows? = some place) : p'.secrets.contains place = true := by
  obtain ⟨-, h⟩ := h
  cases c with
  | getSecret ns name =>
    obtain ⟨rfl, same⟩ := h
    cases there : p.secrets.get? (ns, name) with
    | none => simp [Deal.shows?, there] at shows
    | some kept =>
      obtain rfl : (ns, name) = place := by simpa [Deal.shows?, there] using shows
      simp [same, Table.contains, there]
  | createSecret ns secret =>
    cases result with
    | error e => simp [Deal.shows?] at shows
    | ok =>
      obtain rfl : (ns, secret.metadata.nameOrEmpty) = place := by
        simpa [Deal.shows?] using shows
      dsimp only at h
      split at h
      · rwa [h]
      · simp [h.2, Table.contains_insert]
  | _ => simp [Deal.shows?] at shows

/-- Only its deletion takes a secret away. -/
theorem Performs.stands (h : p.Performs own c result p')
    (stays : (⟨own, c, result⟩ : Deal).deletes? ≠ some place)
    (there : p.secrets.contains place = true) : p'.secrets.contains place = true := by
  obtain ⟨-, h⟩ := h
  cases c with
  | getSecret ns name => rwa [h.2]
  | createSecret ns secret =>
    dsimp only at h
    split at h
    · rwa [h]
    · simp [h.2, Table.contains_insert, there]
  | deleteSecret ns name =>
    have other : place ≠ (ns, name) := by
      rintro rfl
      exact stays rfl
    have same : p'.secrets = p.secrets.erase (ns, name) := h
    simp [same, Table.contains_erase, other, there]
  | _ => rwa [show p'.secrets = p.secrets from h]

/-- Only its creation brings a secret about. -/
theorem Performs.brought (h : p.Performs own c result p') {kept : KeptSecret}
    (there : p'.secrets.get? place = some kept) :
    p.secrets.get? place = some kept ∨ c = .createSecret place.1 kept.secret ∧
      kept.secret.metadata.nameOrEmpty = place.2 ∧ kept.own = own := by
  obtain ⟨-, h⟩ := h
  cases c with
  | getSecret ns name => exact Or.inl (h.2 ▸ there)
  | createSecret ns secret =>
    dsimp only at h
    split at h
    · exact Or.inl (h ▸ there)
    · rw [h.2, Table.get?_insert] at there
      split at there
      · rename_i same
        obtain rfl := Option.some.inj there
        exact Or.inr ⟨by rw [same], by rw [same], rfl⟩
      · exact Or.inl there
  | deleteSecret ns name =>
    have same : p'.secrets = p.secrets.erase (ns, name) := h
    rw [same, Table.get?_erase] at there
    split at there
    · simp at there
    · exact Or.inl there
  | _ => exact Or.inl ((show p'.secrets = p.secrets from h) ▸ there)

/-- A secret of a name holds what a backend has issued to the reconciler for an access. -/
def Issue (deals : List Deal) (name : String) (secret : Secret) : Prop :=
  ∃ t b account g access endpoint,
    ⟨true, .backend t (.grantAccess b account), .ok g⟩ ∈ deals ∧
    secret = credentialsSecret access name b endpoint g.credentials

/-- The secrets are as the deals say. -/
structure Backed (p : Site) : Prop where
  /-- A secret is there that was found or created and has not been deleted since. -/
  standing : ∀ place since deal before, p.deals = since ++ deal :: before →
    deal.shows? = some place → (∀ later ∈ since, later.deletes? ≠ some place) →
    p.secrets.contains place = true
  /-- A secret that the reconciler created holds what was issued to it. -/
  issued : ∀ place kept, p.secrets.get? place = some kept → kept.own = true →
    Issue p.deals place.2 kept.secret

/-- Only the secrets and the deals tell whether a site is in good order. -/
theorem Backed.congr (backed : p.Backed) (secrets : p'.secrets = p.secrets)
    (deals : p'.deals = p.deals) : p'.Backed where
  standing := by
    rw [secrets, deals]
    exact backed.standing
  issued := by
    rw [secrets, deals]
    exact backed.issued

/-- A call may be carried out as long as the reconciler creates only secrets that hold what was
issued to it. -/
theorem Backed.performs (backed : p.Backed) (h : p.Performs own c result p')
    (issues : own = true → ∀ ns secret, c = .createSecret ns secret →
      Issue p.deals secret.metadata.nameOrEmpty secret) : p'.Backed where
  standing place since deal before split shows stays := by
    rw [h.1] at split
    cases since with
    | nil =>
      obtain ⟨rfl, rfl⟩ := List.cons_eq_cons.1 split
      exact h.shown shows
    | cons first since =>
      obtain ⟨rfl, rest⟩ := List.cons_eq_cons.1 split
      rw [List.forall_mem_cons] at stays
      exact h.stands stays.1 (backed.standing place since deal before rest shows stays.2)
  issued place kept there mine := by
    have more {name : String} {secret : Secret} (issue : Issue p.deals name secret) :
        Issue p'.deals name secret := by
      obtain ⟨t, b, account, g, access, endpoint, mem, rest⟩ := issue
      exact ⟨t, b, account, g, access, endpoint, h.1 ▸ List.mem_cons_of_mem _ mem, rest⟩
    rcases h.brought there with before | ⟨rfl, named, rfl⟩
    · exact more (backed.issued place kept before mine)
    · rw [← named]
      exact more (issues mine place.1 kept.secret rfl)

/-- A call may be answered likewise, whether it is carried out or not. -/
theorem Backed.answered {reply : Option (Except Failure c.Result)} (backed : p.Backed)
    (answers : p.Answers c reply p')
    (issues : ∀ ns secret, c = .createSecret ns secret →
      Issue p.deals secret.metadata.nameOrEmpty secret) : p'.Backed := by
  rcases answers with ⟨result, performs, -⟩ | ⟨secrets, deals, -⟩
  · exact backed.performs performs fun _ => issues
  · exact backed.congr secrets deals

end Site

/-- The world outside that is a site. -/
def site : Outside BucketAccess Site where
  shows p obj := (apiServer BucketAccess).shows p.server obj
  answers p c reply p' := p.server.Answers c reply p'.server ∧ p.Answers c reply p'
  drifts p p' :=
    (p.server.Changes p'.server ∧ p'.secrets = p.secrets ∧ p'.deals = p.deals) ∨
      (p'.server = p.server ∧ ∃ c result, p.Performs false c result p')
  identified shown := (apiServer BucketAccess).identified shown
  lawful answered := (apiServer BucketAccess).lawful answered.1
  shows_confirmed answered told := (apiServer BucketAccess).shows_confirmed answered.1 told
  shows_answers answered shown := (apiServer BucketAccess).shows_answers answered.1 shown
  shows_drifts drifts shown := by
    rcases drifts with ⟨changes, -⟩ | ⟨same, -⟩
    · exact (apiServer BucketAccess).shows_drifts changes shown
    · rwa [same]

end BucketProvisioning.Engine

import BucketProvisioning.Cluster.Edit
import BucketProvisioning.Proofs.Backend.InMemory

/-!
# Calls that fail without effect

An order to make calls fail is *mild* if these calls take no effect.  `serve_of_mild` says that
under such orders a call is either carried out as by a cluster in which no call is made to fail, or
fails and leaves that cluster as it is.

`runBackend_again` says that creating a bucket and granting access can be repeated: asked again for
the same, a cluster gives the same answer and stays as it is.
-/

set_option autoImplicit false

namespace BucketProvisioning.Cluster

open BucketProvisioning BucketProvisioning.Backend BucketProvisioning.Reconcile
open BucketProvisioning.Resource

/-! ## Mild orders -/

/-- The calls that are made to fail take no effect. -/
def Mild (faults : List Fault) : Prop := ∀ f ∈ faults, f.afterEffect = false

/-- The cluster without any order to make calls fail. -/
def calm (c : Cluster) : Cluster := { c with faults := [] }

/-- An order without faults is mild. -/
theorem mild_nil : Mild [] := fun _ mem => absurd mem List.not_mem_nil

/-- A cluster without faults is calm already. -/
theorem calm_of_nil {c : Cluster} (none : c.faults = []) : c.calm = c := by
  unfold calm
  rw [← none]

/-- Obeying a mild order leaves mild ones. -/
theorem mild_of_takeFault {name : String} {faults rest : List Fault} {f : Fault}
    (mild : Mild faults) (taken : takeFault name faults = some (f, rest)) :
    f.afterEffect = false ∧ Mild rest := by
  induction faults generalizing rest with
  | nil => simp [takeFault] at taken
  | cons first others ih =>
    obtain ⟨here, there⟩ := List.forall_mem_cons.1 mild
    unfold takeFault at taken
    split at taken
    · obtain ⟨rfl, rfl⟩ := Prod.mk.inj (Option.some.inj taken)
      exact ⟨here, List.forall_mem_cons.2 ⟨here, there⟩⟩
    · obtain ⟨⟨f', rest'⟩, taken', is⟩ := Option.map_eq_some_iff.1 taken
      obtain ⟨rfl, rfl⟩ := Prod.mk.inj is
      obtain ⟨mildHere, mildThere⟩ := ih there taken'
      exact ⟨mildHere, List.forall_mem_cons.2 ⟨here, mildThere⟩⟩

/-- What a call does has nothing to do with the orders. -/
theorem act_withFaults (c : Cluster) (faults : List Fault) (call : Call) :
    ({ c with faults } : Cluster).act call =
      ((c.act call).1, { (c.act call).2 with faults }) := by
  cases call with
  | getClass | getClaim | getSecret => rfl
  | writeClaimStatus claim status =>
    simp only [act]
    cases findStored c.claims claim <;> rfl
  | writeAccessStatus access status =>
    simp only [act]
    cases findStored c.accesses access <;> rfl
  | createSecret ns secret | deleteSecret ns name =>
    simp only [act]
    split <;> rfl
  | backend backendType op =>
    simp only [act, runBackend]
    cases c.backends.get? backendType <;> rfl

/-- A calm cluster acts as it would with its faults, which have no part in what is carried out. -/
theorem act_calm (c : Cluster) (call : Call) :
    c.calm.act call = ((c.act call).1, (c.act call).2.calm) :=
  act_withFaults c [] call

/-- Carrying a call out gives no order. -/
theorem faults_act (c : Cluster) (call : Call) : (c.act call).2.faults = c.faults :=
  (congrArg (fun r => r.2.faults) (act_withFaults c c.faults call) :)

/-- What whoever is no worker hears of a call. -/
def Outcome.heard {β : Type} : Outcome β → Except Failure β
  | .answered r => r
  | .crashed => .error Session.brokenDown

/-- A class is read in clusters with the same classes alike. -/
theorem act_getClass {c c' : Cluster} (same : c'.classes = c.classes) (name : String) :
    c'.act (.getClass name) = ((c.act (.getClass name)).1, c') := by
  unfold act
  rw [same]

/-- A claim is read in clusters with the same claims alike. -/
theorem act_getClaim {c c' : Cluster} (same : c'.claims = c.claims) (ns name : String) :
    c'.act (.getClaim ns name) = ((c.act (.getClaim ns name)).1, c') := by
  unfold act
  rw [same]

/-- A secret that is not there is created. -/
theorem act_createSecret {c : Cluster} {ns : String} {secret : Secret}
    (absent : c.secrets.get? (.namespaced ns secret.metadata.nameOrEmpty) = none) :
    c.act (.createSecret ns secret) = (.ok (),
      { c with secrets := c.secrets.insert (.namespaced ns secret.metadata.nameOrEmpty) secret }) := by
  simp [act, Table.contains, absent]

/-- Under mild orders a call is carried out, or it fails and nothing else happens. -/
theorem serve_of_mild {c : Cluster} (mild : Mild c.faults) (call : Call) :
    Mild (c.serve call).2.faults ∧
      ((c.faults ≠ [] ∧ (∃ e, (c.serve call).1.heard = .error e) ∧
          (c.serve call).2.calm = c.calm) ∨
        (c.serve call).1.heard = (c.calm.act call).1 ∧
          (c.serve call).2.calm = (c.calm.act call).2 ∧ (c.serve call).2.faults = c.faults) := by
  unfold serve
  cases taken : takeFault call.name c.faults with
  | none =>
    refine ⟨(faults_act c call).symm ▸ mild, Or.inr ?_⟩
    rw [act_calm]
    exact ⟨rfl, rfl, faults_act c call⟩
  | some obeyed =>
    obtain ⟨f, rest⟩ := obeyed
    obtain ⟨harmless, mild'⟩ := mild_of_takeFault mild taken
    have ordered : c.faults ≠ [] := by
      intro none
      rw [none] at taken
      simp [takeFault] at taken
    simp only [harmless, Bool.false_and, Bool.false_eq_true, if_false]
    refine ⟨mild', Or.inl ⟨ordered, ?_, rfl⟩⟩
    cases f.trouble with
    | failure e => exact ⟨e, rfl⟩
    | crash => exact ⟨_, rfl⟩

/-! ## Calls that are made again -/

/-- A bucket is created, or an access granted. -/
def Builds : Operation → Prop
  | .createBucket _ _ => True
  | .grantAccess _ _ => True
  | _ => False

/-- What a backend does to a cluster concerns the backends and the key pairs that were issued. -/
theorem runBackend_eq (c : Cluster) (backendType : String) (op : Operation) :
    ∃ backends issued, (c.runBackend backendType op).2 = { c with backends, issued } := by
  unfold runBackend
  cases c.backends.get? backendType with
  | none => exact ⟨c.backends, c.issued, rfl⟩
  | some b => exact ⟨_, _, rfl⟩

/-- A backend that is there carries an operation out with a key pair of its own. -/
theorem runBackend_of_get {c : Cluster} {backendType : String} {b : InMemory}
    (there : c.backends.get? backendType = some b) (op : Operation) :
    (c.runBackend backendType op).1 = (InMemory.run c.freshCredentials op b).1 ∧
      (c.runBackend backendType op).2.backends.get? backendType =
        some (InMemory.run c.freshCredentials op b).2 := by
  unfold runBackend
  rw [there]
  exact ⟨rfl, Table.get?_insert_self _ _ _⟩

/-- What a backend does has nothing to do with the secrets. -/
theorem runBackend_withSecrets (c : Cluster) (secrets : Store Secret) (backendType : String)
    (op : Operation) :
    ({ c with secrets } : Cluster).runBackend backendType op =
      ((c.runBackend backendType op).1, { (c.runBackend backendType op).2 with secrets }) := by
  unfold runBackend
  cases c.backends.get? backendType <;> rfl

/-- Asked again for a bucket or a grant, a cluster gives the same answer and stays as it is. -/
theorem runBackend_again (c : Cluster) (backendType : String) {op : Operation}
    (builds : Builds op) :
    (c.runBackend backendType op).2.runBackend backendType op = c.runBackend backendType op := by
  unfold runBackend
  cases is : c.backends.get? backendType with
  | none => simp only [is]
  | some b =>
    simp only [Table.get?_insert_self, Table.insert_insert]
    cases op with
    | createBucket name region => simp [InMemory.run]
    | grantAccess bucketId account => simp [InMemory.run]
    | deleteBucket | revokeAccess => exact builds.elim

end BucketProvisioning.Cluster

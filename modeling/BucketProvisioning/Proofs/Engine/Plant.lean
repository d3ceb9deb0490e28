import BucketProvisioning.Proofs.Backend.InMemory
import BucketProvisioning.Proofs.Engine.Removal

/-!
# A plant

A `Plant` is a whole world outside: the API server, a backend in memory for every type, and the
secrets.  A call is carried out and answered truly, or it fails, in which case it may have been
carried out nevertheless; which calls can fail is a matter of the plant.  Others may work with the
facilities too; what they may do is a matter of the plant as well.

`Story.lacking` says how something that a call has removed can come back.
-/

set_option autoImplicit false
set_option linter.unusedSectionVars false

namespace BucketProvisioning.Engine

open BucketProvisioning BucketProvisioning.Reconcile BucketProvisioning.Backend
open BucketProvisioning.Resource

/-- Backends and secrets. -/
structure Facilities where
  /-- The backend of each type. -/
  backends : String → InMemory := fun _ => {}
  /-- The secrets, by namespace and name. -/
  secrets : Table (String × String) Secret := {}

namespace Facilities

/-- The facilities with another backend of a type. -/
def setBackend (f : Facilities) (backendType : String) (b : InMemory) : Facilities :=
  { f with backends := Function.update f.backends backendType b }

/-- A call is carried out with a result and leaves the facilities behind in a state. -/
def Carries (f : Facilities) : (c : Call) → Except Failure c.Result → Facilities → Prop
  | .backend t op, result, f' => ∃ fresh,
    result = (InMemory.run fresh op (f.backends t)).1 ∧
      f' = f.setBackend t (InMemory.run fresh op (f.backends t)).2
  | .getSecret ns name, result, f' => result = .ok (f.secrets.get? (ns, name)) ∧ f' = f
  | .createSecret ns secret, result, f' =>
    if f.secrets.contains (ns, secret.metadata.nameOrEmpty) then
      (∃ e, result = .error e) ∧ f' = f
    else
      result = .ok () ∧
        f' = { f with secrets := f.secrets.insert (ns, secret.metadata.nameOrEmpty) secret }
  | .deleteSecret ns name, result, f' =>
    (if f.secrets.contains (ns, name) then result = .ok ()
      else ∃ e : Failure, e.isNotFound = true ∧ result = .error e) ∧
      f' = { f with secrets := f.secrets.erase (ns, name) }
  | _, _, f' => f' = f

/-- A call is carried out and answered truly, or it fails if it can, be it carried out or not. -/
def Answers (fails : Call → Prop) (f : Facilities) (c : Call)
    (reply : Option (Except Failure c.Result)) (f' : Facilities) : Prop :=
  (∃ result, f.Carries c result f' ∧
    (reply = some result ∨ reply = none ∨ (fails c ∧ ∃ e, reply = some (.error e)))) ∨
  (f' = f ∧ (reply = none ∨ (fails c ∧ ∃ e, reply = some (.error e))))

variable {fails : Call → Prop} {f f' : Facilities} {c : Call}

/-- A call leaves the facilities as they are or is carried out. -/
theorem Answers.carried {reply : Option (Except Failure c.Result)} (h : f.Answers fails c reply f') :
    f' = f ∨ ∃ result, f.Carries c result f' :=
  h.symm.imp And.left fun ⟨result, carried, _⟩ => ⟨result, carried⟩

/-- A call that cannot fail is carried out if it is answered. -/
theorem Answers.carried_of_sure {reply : Except Failure c.Result}
    (h : f.Answers fails c (some reply) f') (sure : ¬ fails c) : f.Carries c reply f' := by
  rcases h with ⟨result, carried, true | silent | ⟨fails, -⟩⟩ | ⟨-, silent | ⟨fails, -⟩⟩
  · rwa [Option.some.inj true]
  · simp at silent
  · exact absurd fails sure
  · simp at silent
  · exact absurd fails sure

/-- A backend that is replaced leaves the others as they are. -/
@[simp] theorem backends_setBackend (f : Facilities) (t t' : String) (b : InMemory) :
    (f.setBackend t b).backends t' = if t' = t then b else f.backends t' := by
  unfold setBackend
  by_cases here : t' = t
  · subst here
    simp
  · simp [here]

/-- A call changes a backend only by an operation of that backend. -/
theorem Carries.backend {result : Except Failure c.Result} (h : f.Carries c result f') (t : String) :
    f'.backends t = f.backends t ∨ ∃ op fresh, c = .backend t op ∧
      f'.backends t = (InMemory.run fresh op (f.backends t)).2 := by
  cases c with
  | backend t' op =>
    obtain ⟨fresh, -, rfl⟩ := h
    by_cases here : t = t'
    · subst here
      exact Or.inr ⟨op, fresh, rfl, by simp⟩
    · exact Or.inl (by simp [here])
  | createSecret ns secret =>
    simp only [Carries] at h
    split at h <;> exact Or.inl (by rw [h.2])
  | getSecret ns name => exact Or.inl (by rw [h.2])
  | deleteSecret ns name => exact Or.inl (by rw [h.2])
  | _ => exact Or.inl (by rw [show f' = f from h])

/-- Only its creation brings a bucket about. -/
theorem Carries.created {result : Except Failure c.Result} (h : f.Carries c result f')
    {t bucketId : String} (absent : (f.backends t).hasBucket bucketId = false)
    (there : (f'.backends t).hasBucket bucketId = true) :
    ∃ name region, c = .backend t (.createBucket name region) ∧
      InMemory.bucketIdOf name = bucketId := by
  rcases h.backend t with same | ⟨op, fresh, rfl, same⟩
  · simp [same, absent] at there
  · rw [same] at there
    obtain ⟨name, region, rfl, named⟩ := InMemory.created_of_hasBucket absent there
    exact ⟨name, region, rfl, named⟩

/-- Only a grant brings a grant about. -/
theorem Carries.granted {result : Except Failure c.Result} (h : f.Carries c result f')
    {t bucketId accountId : String} (absent : (f.backends t).hasGrant bucketId accountId = false)
    (there : (f'.backends t).hasGrant bucketId accountId = true) :
    ∃ account, c = .backend t (.grantAccess bucketId account) ∧
      InMemory.accountIdOf account = accountId := by
  rcases h.backend t with same | ⟨op, fresh, rfl, same⟩
  · simp [same, absent] at there
  · rw [same] at there
    obtain ⟨account, rfl, named⟩ := InMemory.granted_of_hasGrant absent there
    exact ⟨account, rfl, named⟩

/-- Only its revocation and the deletion of the bucket take a grant away. -/
theorem Carries.lost {result : Except Failure c.Result} (h : f.Carries c result f')
    {t bucketId accountId : String} (there : (f.backends t).hasGrant bucketId accountId = true)
    (absent : (f'.backends t).hasGrant bucketId accountId = false) :
    c = .backend t (.revokeAccess bucketId accountId) ∨
      ∃ region, c = .backend t (.deleteBucket bucketId region) := by
  rcases h.backend t with same | ⟨op, fresh, rfl, same⟩
  · simp [same, there] at absent
  · rw [same] at absent
    rcases InMemory.lost_of_hasGrant there absent with rfl | ⟨region, rfl⟩
    · exact Or.inl rfl
    · exact Or.inr ⟨region, rfl⟩

/-- Only its deletion takes a secret away. -/
theorem Carries.lost_secret {result : Except Failure c.Result} (h : f.Carries c result f')
    {ns name : String} (there : f.secrets.contains (ns, name) = true)
    (absent : f'.secrets.contains (ns, name) = false) : c = .deleteSecret ns name := by
  cases c with
  | deleteSecret ns' name' =>
    rw [h.2] at absent
    simp only [Table.contains_erase, there, Bool.and_true, Bool.not_eq_false', decide_eq_true_eq,
      Prod.mk.injEq] at absent
    rw [absent.1, absent.2]
  | createSecret ns' secret =>
    simp only [Carries] at h
    split at h <;> rw [h.2] at absent
    · simp [there] at absent
    · simp [Table.contains_insert, there] at absent
  | backend t op =>
    obtain ⟨_, -, rfl⟩ := h
    exact absurd (there.symm.trans absent) (by simp)
  | getSecret ns' name' => simp [h.2, there] at absent
  | _ => simp [show f' = f from h, there] at absent

end Facilities

/-- A world outside. -/
structure Plant (α : Type) where
  /-- The API server. -/
  server : ApiServer α := {}
  /-- Backends and secrets. -/
  facilities : Facilities := {}

variable {α : Type} [Object α] [Managed α]

/-- The plant in which some calls can fail and others may make some calls. -/
def plant (α : Type) [Object α] [Managed α] (fails others : Call → Prop) : Outside α (Plant α) where
  shows p obj := obj ∈ p.server.past ∧ (Object.uid? obj).isSome
  answers p c reply p' :=
    p.server.Answers c reply p'.server ∧ p.facilities.Answers fails c reply p'.facilities
  drifts p p' :=
    (p.server.Changes p'.server ∧ p'.facilities = p.facilities) ∨
      (p'.server = p.server ∧ ∃ c result, others c ∧ p.facilities.Carries c result p'.facilities)
  identified shown := shown.2
  lawful answered := (apiServer α).lawful answered.1
  shows_confirmed answered told := (apiServer α).shows_confirmed answered.1 told
  shows_answers answered shown := shown.imp_left fun mem => answered.1.past mem
  shows_drifts drifts shown := by
    rcases drifts with ⟨changes, -⟩ | ⟨same, -⟩
    · exact shown.imp_left fun mem => changes.past mem
    · rwa [same]

variable {fails others : Call → Prop} {backends : Registry}

/-- A plant hosts its API server. -/
theorem plant_hosts : (plant α fails others).Hosts Plant.server where
  answers answered := answered.1
  drifts := Or.symm ∘ Or.imp And.left And.left
  shows shown := shown.1

/-- If others may do more, every run is still possible. -/
theorem Run.widened {others' : Call → Prop} {reconcile : String → Program α (Except Failure Unit)}
    {count : Nat} {first d : Desk α} {trace : Trace α} {start p : Plant α}
    (run : Run (plant α fails others) reconcile count first start d trace p)
    (more : ∀ c, others c → others' c) :
    Run (plant α fails others') reconcile count first start d trace p :=
  run.seen id (fun shown => shown) (fun answered => answered) fun drifts =>
    Or.inr (drifts.imp_right fun ⟨same, c, result, may, carried⟩ =>
      ⟨same, c, result, more c may, carried⟩)

/-- Every version that was ever stored is remembered. -/
theorem Run.past {reconcile : String → Program α (Except Failure Unit)} {count : Nat}
    {first d : Desk α} {trace : Trace α} {start p : Plant α}
    (run : Run (plant α fails others) reconcile count first start d trace p) :
    start.server.past ⊆ p.server.past := by
  induction run with
  | start => exact List.Subset.refl _
  | @happened d _ _ _ _ h run happens explained ih =>
    cases is : d.made? h with
    | none => rwa [explained.same is]
    | some made => exact List.Subset.trans ih (explained.answered is).1.past
  | drifted run drifts ih =>
    rcases drifts with ⟨changes, -⟩ | ⟨same, -⟩
    · exact List.Subset.trans ih changes.past
    · rwa [same]
  | closed run ih => exact ih

/-- What a call has removed is still lacking, or a later call has restored it. -/
theorem Story.lacking {start p : Plant α} {records : Records α} {later earlier : List (Note α)}
    {k : ObjectKey} {c : Call} {reply : Except Failure c.Result} {on : Option α}
    (lacks : Facilities → Prop)
    (story : Story (plant α fails others) backends start records
      (later ++ .called k ⟨c, some reply⟩ on :: earlier) p)
    (removes : ∀ f f' : Facilities, f.Answers fails c (some reply) f' → lacks f')
    (apart : ∀ (f : Facilities) c result f', others c → f.Carries c result f' → lacks f → lacks f') :
    lacks p.facilities ∨ ∃ after k' made on' before, later = after ++ .called k' made on' :: before ∧
      ∃ (f f' : Facilities) (result : _), lacks f ∧ ¬ lacks f' ∧ f.Carries made.call result f' := by
  generalize all : later ++ .called k ⟨c, some reply⟩ on :: earlier = notes at story
  induction story generalizing later with
  | start => simp at all
  | @noted records notes note p p' story entry ih =>
    cases later with
    | nil =>
      obtain ⟨rfl, rfl⟩ := List.cons_eq_cons.1 all
      cases entry with
      | called k made kept may answered => exact Or.inl (removes _ _ answered.2)
    | cons first later =>
      obtain ⟨rfl, rest⟩ := List.cons_eq_cons.1 all
      rcases ih rest with still | ⟨after, k', made, on', before, rfl, restored⟩
      · cases entry with
        | lookedUp k found wellFormed shown rests => exact Or.inl still
        | finished k outcome ends => exact Or.inl still
        | called k made kept may answered =>
          by_cases there : lacks p'.facilities
          · exact Or.inl there
          rcases answered.2.carried with same | ⟨result, carried⟩
          · exact absurd (same ▸ still) there
          · exact Or.inr ⟨[], k, made, _, later, rfl, _, _, result, still, there, carried⟩
      · exact Or.inr ⟨first :: after, k', made, on', before, rfl, restored⟩
  | remembered story may ih => exact ih all
  | forgotten story may ih => exact ih all
  | drifted story drifts ih =>
    refine (ih all).imp_left fun still => ?_
    rcases drifts with ⟨-, same⟩ | ⟨-, c', result, may, carried⟩
    · rwa [same]
    · exact apart _ _ _ _ may carried still

end BucketProvisioning.Engine

import BucketProvisioning.Api.Request
import BucketProvisioning.Proofs.Json.Merging
import BucketProvisioning.Proofs.Resource.RoundTrip

/-!
# What a written status leaves behind

The status of an object is written as a merge patch.  A writer leaves out what is empty or absent,
and a patch keeps what it does not mention; so where a status has nothing to say, what an earlier
one has said stays in force.

* `ClaimStatus.onTop` and `AccessStatus.onTop`: a status on top of an earlier one.
* `status_write`: what the object shows after a write, and when that is just the status written.
* `status_write_keeps_earlier`: it need not be.
-/

set_option autoImplicit false

namespace BucketProvisioning.Resource

open BucketProvisioning Decoder

/-! ## Any status -/

section status

variable {ρ : Type}

/-- An object's fields after a status has been written, as read in a version. -/
def afterStatusWrite (version : Option String) (status : Json) (stored : List (String × Json)) :
    Json :=
  (Api.Request.statusChange version status).merge (.obj stored)

/-- A document shows a status. -/
def ShowsStatus (d : Decoder ρ) (j : Json) (s : ρ) : Prop :=
  ∃ st, j.field? "status" = some st ∧ d.ofJson st = .ok s

/-- The status that the fields of an object show, if they show one. -/
inductive EarlierStatus (d : Decoder ρ) (stored : List (String × Json)) : Option ρ → Prop
  /-- There is none. -/
  | missing (there : Json.lookup stored "status" = none) : EarlierStatus d stored none
  /-- It is the absent value. -/
  | null (there : Json.lookup stored "status" = some .null) : EarlierStatus d stored none
  /-- There is one, whose fields have distinct names. -/
  | given {fields : List (String × Json)} {e : ρ}
      (there : Json.lookup stored "status" = some (.obj fields))
      (distinct : (fields.map Prod.fst).Nodup) (read : d.ofJson (.obj fields) = .ok e) :
      EarlierStatus d stored (some e)

/-- A document that shows a status shows no other. -/
theorem ShowsStatus.iff_eq {d : Decoder ρ} {j : Json} {s : ρ} (h : ShowsStatus d j s) (s' : ρ) :
    ShowsStatus d j s' ↔ s = s' := by
  constructor
  · intro h'
    obtain ⟨st, there, read⟩ := h
    obtain ⟨st', there', read'⟩ := h'
    obtain rfl := Option.some.inj (there.symm.trans there')
    exact Except.ok.inj (read.symm.trans read')
  · rintro rfl
    exact h

variable {name : String} {start r : ρ} {fs : List (Field ρ)}

/-- What a document is after a write of its status, up to its metadata. -/
theorem afterStatusWrite_eq (version : Option String) (changes stored : List (String × Json)) :
    ∃ metadata, afterStatusWrite version (.obj changes) stored =
      .obj ((stored.filter fun f => f.1 ∉ ["metadata", "status"]) ++ [("metadata", metadata),
        ("status", .obj (Json.mergeFields changes
          ((Json.lookup stored "status").getD .null).members))]) := by
  have status : Json.merge (.obj changes) ((Json.lookup stored "status").getD .null) =
      .obj (Json.mergeFields changes ((Json.lookup stored "status").getD .null).members) := by
    rw [Json.merge]
  refine ⟨Json.merge (.obj [("resourceVersion", Json.orNull Json.str version)])
    ((Json.lookup stored "metadata").getD .null), ?_⟩
  rw [← status, afterStatusWrite, Api.Request.statusChange, Json.merge,
    Json.mergeFields_eq (by simp) (by simp [Json.isNull])]
  rfl

/-- A status that is written on top of an earlier one. -/
theorem EarlierStatus.ofFields_merged (h : (Layout.plain start fs).Orderless)
    {stored : List (String × Json)} {e : Option ρ}
    (earlier : EarlierStatus (structured name (.plain start fs)) stored e)
    {changes : List (String × Json)} (change : Layout.Changes fs (e.getD start) changes r) :
    (Layout.plain start fs).ofFields false (Json.mergeFields changes
      ((Json.lookup stored "status").getD .null).members) = .ok r := by
  have distinct : (([] : List (String × Json)).map Prod.fst).Nodup := List.nodup_nil
  have nothing : (Layout.plain start fs).ofFields false [] = .ok start :=
    (h.ofFields_iff distinct).mpr rfl
  cases earlier with
  | missing there | null there =>
    rw [there]
    exact Layout.ofFields_merged h distinct nothing change
  | given there distinct read =>
    rw [there]
    exact Layout.ofFields_merged h distinct read change

/-- **What an object shows after a write.** Its specification is what it was, and its status is what
is written on top of what the status was; so it is the status that was written exactly if that is
the same. -/
theorem shows_after_write (h : (Layout.plain start fs).Orderless) {stored : List (String × Json)}
    {e : Option ρ} (earlier : EarlierStatus (structured name (.plain start fs)) stored e)
    {status : Json} (written : ∃ changes, status = .obj changes ∧
      Layout.Changes fs (e.getD start) changes r) (version : Option String) :
    (afterStatusWrite version status stored).field? "spec" = Json.lookup stored "spec" ∧
      ShowsStatus (structured name (.plain start fs)) (afterStatusWrite version status stored) r ∧
      ∀ s, ShowsStatus (structured name (.plain start fs))
        (afterStatusWrite version status stored) s ↔ r = s := by
  obtain ⟨changes, rfl, change⟩ := written
  obtain ⟨metadata, after⟩ := afterStatusWrite_eq version changes stored
  have kept := Json.lookup_filter (fun n => decide (n ∉ ["metadata", "status"])) stored
  have shows : ShowsStatus (structured name (.plain start fs))
      (afterStatusWrite version (.obj changes) stored) r := by
    refine ⟨.obj _, ?_, earlier.ofFields_merged h change⟩
    rw [after, Json.field?, Json.lookup_append, kept, if_neg (by decide)]
    rfl
  refine ⟨?_, shows, shows.iff_eq⟩
  rw [after, Json.field?, Json.lookup_append, kept, if_pos (by decide)]
  simp [Json.lookup]

end status

/-! ## The status of a claim -/

/-- A text stays as it is if it is not empty, or if the earlier one is. -/
theorem text_onTop_eq_iff (s earlier : String) :
    (if s.isEmpty then earlier else s) = s ↔ (s = "" → earlier = "") := by
  by_cases empty : s = ""
  · subst empty
    simp
  · have some : ¬ s.isEmpty = true := by simpa using empty
    rw [if_neg some]
    simp [empty]

/-- A value stays as it is if it is there, or if the earlier one is not. -/
theorem option_onTop_eq_iff {α : Type} (o earlier : Option α) :
    (o <|> earlier) = o ↔ (o = none → earlier = none) := by
  cases o with
  | none => simp
  | some a => simp

/-- A policy is written as a text. -/
theorem DeletionPolicy.isWhole_encode (p : DeletionPolicy) : p.encode.isWhole = true := by
  cases p <;> rfl

namespace ClaimStatus

/-- Every field of a status has a place of its own, and may be missing. -/
theorem orderless : (Layout.plain {} fields).Orderless where
  distinct := by decide
  free := by simp [Layout.plain, fields, Field.of, Field.stored]
  commute := by simp [Layout.plain, fields, Field.of, Field.commutes_stored]
  settle := by simp [Layout.plain, fields, Field.of, Field.settles_stored]
  quiet := rfl

/-- A status on top of an earlier one, which stays in force where the later one says nothing. -/
def onTop (s earlier : ClaimStatus) : ClaimStatus where
  provisioned := s.provisioned
  bucketId := if s.bucketId.isEmpty then earlier.bucketId else s.bucketId
  region := if s.region.isEmpty then earlier.region else s.region
  deletionPolicy := s.deletionPolicy
  backendType := if s.backendType.isEmpty then earlier.backendType else s.backendType
  endpoint := s.endpoint <|> earlier.endpoint

/-- What is written of a status goes on top of an earlier one. -/
theorem changes_onTop (s earlier : ClaimStatus) : ∃ changes, s.encode = .obj changes ∧
    Layout.Changes fields earlier changes (s.onTop earlier) := by
  refine ⟨_, rfl, ?_⟩
  simp only [List.append_assoc]
  apply Layout.Changes.cons (.always rfl rfl)
  apply Layout.Changes.cons (.text rfl)
  apply Layout.Changes.cons (.text rfl)
  apply Layout.Changes.cons (.always (DeletionPolicy.isWhole_encode _)
    (DeletionPolicy.decode_encode _))
  apply Layout.Changes.cons (.text rfl)
  exact .last (.option (fun _ => rfl) rfl fun _ _ => rfl)

/-- A status has something to say wherever an earlier one has. -/
def Covers (s earlier : ClaimStatus) : Prop :=
  (s.bucketId = "" → earlier.bucketId = "") ∧ (s.region = "" → earlier.region = "") ∧
    (s.backendType = "" → earlier.backendType = "") ∧
    (s.endpoint = none → earlier.endpoint = none)

instance (s earlier : ClaimStatus) : Decidable (s.Covers earlier) :=
  inferInstanceAs (Decidable (_ ∧ _))

/-- A status is left as it is by an earlier one that it covers, and by no other. -/
theorem onTop_eq_self_iff (s earlier : ClaimStatus) : s.onTop earlier = s ↔ s.Covers earlier := by
  obtain ⟨provisioned, bucketId, region, deletionPolicy, backendType, endpoint⟩ := s
  simp only [onTop, Covers, ClaimStatus.mk.injEq, text_onTop_eq_iff, option_onTop_eq_iff, true_and]

end ClaimStatus

/-! ## The status of an access -/

namespace AccessStatus

/-- Every field of a status has a place of its own, and may be missing. -/
theorem orderless : (Layout.plain {} fields).Orderless where
  distinct := by decide
  free := by simp [Layout.plain, fields, Field.of, Field.stored]
  commute := by simp [Layout.plain, fields, Field.of, Field.commutes_stored]
  settle := by simp [Layout.plain, fields, Field.of, Field.settles_stored]
  quiet := rfl

/-- A status on top of an earlier one, which stays in force where the later one says nothing. -/
def onTop (s earlier : AccessStatus) : AccessStatus where
  accessGranted := s.accessGranted
  accountId := if s.accountId.isEmpty then earlier.accountId else s.accountId
  bucketId := if s.bucketId.isEmpty then earlier.bucketId else s.bucketId
  backendType := if s.backendType.isEmpty then earlier.backendType else s.backendType
  secretName := if s.secretName.isEmpty then earlier.secretName else s.secretName

/-- What is written of a status goes on top of an earlier one. -/
theorem changes_onTop (s earlier : AccessStatus) : ∃ changes, s.encode = .obj changes ∧
    Layout.Changes fields earlier changes (s.onTop earlier) := by
  refine ⟨_, rfl, ?_⟩
  simp only [List.append_assoc]
  apply Layout.Changes.cons (.always rfl rfl)
  apply Layout.Changes.cons (.text rfl)
  apply Layout.Changes.cons (.text rfl)
  apply Layout.Changes.cons (.text rfl)
  exact .last (.text rfl)

/-- A status has something to say wherever an earlier one has. -/
def Covers (s earlier : AccessStatus) : Prop :=
  (s.accountId = "" → earlier.accountId = "") ∧ (s.bucketId = "" → earlier.bucketId = "") ∧
    (s.backendType = "" → earlier.backendType = "") ∧ (s.secretName = "" → earlier.secretName = "")

instance (s earlier : AccessStatus) : Decidable (s.Covers earlier) :=
  inferInstanceAs (Decidable (_ ∧ _))

/-- A status is left as it is by an earlier one that it covers, and by no other. -/
theorem onTop_eq_self_iff (s earlier : AccessStatus) : s.onTop earlier = s ↔ s.Covers earlier := by
  obtain ⟨accessGranted, accountId, bucketId, backendType, secretName⟩ := s
  simp only [onTop, Covers, AccessStatus.mk.injEq, text_onTop_eq_iff, true_and]

end AccessStatus

/-! ## What a write leaves behind -/

/-- **A written status goes on top of the one before.**  Whatever the status of an object was, a
write leaves its specification alone, and its status is the written one where that says something
and the earlier one where it does not; so it is the written one exactly if that says something
wherever the earlier one does. -/
theorem status_write (version : Option String) (stored : List (String × Json)) :
    (∀ (s : ClaimStatus) (e : Option ClaimStatus),
      EarlierStatus ClaimStatus.decode stored e →
      (afterStatusWrite version s.encode stored).field? "spec" = Json.lookup stored "spec" ∧
        ShowsStatus ClaimStatus.decode (afterStatusWrite version s.encode stored)
          (s.onTop (e.getD {})) ∧
        (ShowsStatus ClaimStatus.decode (afterStatusWrite version s.encode stored) s ↔
          s.Covers (e.getD {}))) ∧
      ∀ (s : AccessStatus) (e : Option AccessStatus),
        EarlierStatus AccessStatus.decode stored e →
        (afterStatusWrite version s.encode stored).field? "spec" = Json.lookup stored "spec" ∧
          ShowsStatus AccessStatus.decode (afterStatusWrite version s.encode stored)
            (s.onTop (e.getD {})) ∧
          (ShowsStatus AccessStatus.decode (afterStatusWrite version s.encode stored) s ↔
            s.Covers (e.getD {})) := by
  constructor
  · intro s e earlier
    obtain ⟨spec, shows, only⟩ := shows_after_write ClaimStatus.orderless earlier
      (s.changes_onTop (e.getD {})) version
    exact ⟨spec, shows, (only s).trans (s.onTop_eq_self_iff _)⟩
  · intro s e earlier
    obtain ⟨spec, shows, only⟩ := shows_after_write AccessStatus.orderless earlier
      (s.changes_onTop (e.getD {})) version
    exact ⟨spec, shows, (only s).trans (s.onTop_eq_self_iff _)⟩

/-- The fields of a claim that names an endpoint of before it was provisioned. -/
def claimOfOldEndpoint : List (String × Json) :=
  [("apiVersion", .str storageVersion), ("kind", .str BucketClaim.kind),
    ("metadata", .obj [("name", .str "logs"), ("resourceVersion", .str "7")]),
    ("spec", .obj [("bucketClassName", .str "gold")]),
    ("status", .obj [("provisioned", .bool false), ("endpoint", .str "http://old")])]

/-- The fields of an access that names an account of before it was granted. -/
def accessOfOldAccount : List (String × Json) :=
  [("apiVersion", .str storageVersion), ("kind", .str BucketAccess.kind),
    ("metadata", .obj [("name", .str "reader"), ("resourceVersion", .str "7")]),
    ("spec", .obj [("bucketClassName", .str "gold"), ("existingBucketId", .str "b-1")]),
    ("status", .obj [("accessGranted", .bool false), ("accountId", .str "old-id")])]

/-- The status of a bucket of a class without an endpoint. -/
def statusWithoutEndpoint : ClaimStatus :=
  .ofProvisioned { spec := { region := "r1" } } "fake-uid-1" "fake"

/-- The status of a grant by a backend that does not name the account. -/
def statusWithoutAccount : AccessStatus where
  accessGranted := true
  bucketId := "b-1"
  backendType := "fake"
  secretName := "bucket-credentials-reader"

/-- A write that says everything is shown as it is. -/
theorem status_write_shown : ShowsStatus ClaimStatus.decode
    (afterStatusWrite (some "7") { statusWithoutEndpoint with endpoint := some "http://new" }.encode
      claimOfOldEndpoint) { statusWithoutEndpoint with endpoint := some "http://new" } := by
  have earlier : EarlierStatus ClaimStatus.decode claimOfOldEndpoint
      (some { endpoint := some "http://old" }) := .given rfl (by decide) rfl
  have written := ((status_write (some "7") claimOfOldEndpoint).1
    { statusWithoutEndpoint with endpoint := some "http://new" } _ earlier).2.2
  rw [written]
  decide

/-- **An earlier status outlives the write of a later one.**  A bucket of a class without an
endpoint shows the endpoint of before; an access shows the account of before. -/
theorem status_write_keeps_earlier :
    EarlierStatus ClaimStatus.decode claimOfOldEndpoint (some { endpoint := some "http://old" }) ∧
      EarlierStatus AccessStatus.decode accessOfOldAccount (some { accountId := "old-id" }) ∧
      ¬ ShowsStatus ClaimStatus.decode
        (afterStatusWrite (some "7") statusWithoutEndpoint.encode claimOfOldEndpoint)
        statusWithoutEndpoint ∧
      ¬ ShowsStatus AccessStatus.decode
        (afterStatusWrite (some "7") statusWithoutAccount.encode accessOfOldAccount)
        statusWithoutAccount := by
  have kept : ShowsStatus ClaimStatus.decode
      (afterStatusWrite (some "7") statusWithoutEndpoint.encode claimOfOldEndpoint)
      { statusWithoutEndpoint with endpoint := some "http://old" } := ⟨_, rfl, rfl⟩
  have kept' : ShowsStatus AccessStatus.decode
      (afterStatusWrite (some "7") statusWithoutAccount.encode accessOfOldAccount)
      { statusWithoutAccount with accountId := "old-id" } := ⟨_, rfl, rfl⟩
  rw [kept.iff_eq, kept'.iff_eq]
  exact ⟨.given rfl (by decide) rfl, .given rfl (by decide) rfl, by decide, by decide⟩

end BucketProvisioning.Resource

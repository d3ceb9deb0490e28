import BucketProvisioning.Proofs.Json.Records
import BucketProvisioning.Resource.Access
import BucketProvisioning.Resource.Claim

/-!
# Writing a resource and reading it back

A resource travels to the API server and back as a document, and a writer may leave fields out: an
absent one, an empty text, parameters of which there are none.  Nothing is lost by that if what the
reader takes for a missing field is just what the writer leaves out.  `Lossless` says so of one
type, together with what else a reader accepts: fields that it does not know, and an array of the
fields in their order, which may end where every further field has a default.

* `resources_lossless`: the three kinds of resources, their specifications and their statuses are
  read back as they were written.  Of an object this holds if its metadata is read back, which
  `Metadata.survives` says of all metadata but for times of a fraction of a second and numbers that
  do not fit.
-/

set_option autoImplicit false

namespace BucketProvisioning.Resource

open BucketProvisioning Decoder

variable {α ρ : Type}

/-! ## Values of single fields -/

/-- A value that is there is read as one that may be absent. -/
theorem optional_of_value {d : Decoder α} {j : Json} {a : α} (there : j ≠ .null)
    (back : d.ofJson j = .ok a) : d.optional.ofJson j = .ok (some a) := by
  cases j with
  | null => exact absurd rfl there
  | _ =>
    show (d.ofJson _).map some = _
    rw [back]
    rfl

/-- A policy is read back. -/
theorem DeletionPolicy.decode_encode (p : DeletionPolicy) : decode.ofJson p.encode = .ok p := by
  cases p <;> rfl

/-- Texts by name are read back. -/
theorem Labels.decode_encode (l : Labels) : decode.ofJson l.encode = .ok l := by
  show (l.map fun f => (f.1, Json.str f.2)).mapM (m := Except DecodeError)
    (fun f => (text.ofJson f.2).map fun a => (f.1, a)) = _
  induction l with
  | nil => rfl
  | cons f l ih =>
    rw [List.map_cons, List.mapM_cons, ih]
    rfl

/-- A list of values is read back if each of them is. -/
theorem list_of_values {d : Decoder α} {encode : α → Json} {l : List α}
    (back : ∀ a ∈ l, d.ofJson (encode a) = .ok a) :
    d.list.ofJson (.arr (l.map encode)) = .ok l := by
  show (l.map encode).mapM d.ofJson = _
  induction l with
  | nil => rfl
  | cons a l ih =>
    rw [List.map_cons, List.mapM_cons, back a List.mem_cons_self,
      ih fun b hb => back b (List.mem_cons_of_mem a hb)]
    rfl

/-! ## Specifications and statuses -/

/-- A record that is complete as it is built is read back from what is written of it. -/
theorem structured_of_written {name : String} {start r : ρ} {fields : List (Field ρ)}
    {written : List (String × Json)} (distinct : (fields.map Field.name).Nodup)
    (h : Layout.Written fields start written r) :
    (structured name (.plain start fields)).ofJson (.obj written) = .ok r :=
  Layout.ofFields_of_written (l := .plain start fields) distinct h

/-- What a class offers is read back. -/
theorem ClassSpec.decode_encode (s : ClassSpec) : decode.ofJson s.encode = .ok s := by
  rw [decode, encode]
  apply structured_of_written
  · decide
  show Layout.Written _ _ ([_] ++ ([_] ++ if _ then [] else [_])) _
  apply Layout.Written.cons (.always rfl)
  apply Layout.Written.cons (.always (DeletionPolicy.decode_encode _))
  apply Layout.Written.last
  apply Field.Written.unless (by decide) _ (Labels.decode_encode _)
  intro none_given
  rw [List.isEmpty_iff.mp none_given]

/-- What a claim asks for is read back. -/
theorem ClaimSpec.decode_encode (s : ClaimSpec) : decode.ofJson s.encode = .ok s := by
  rw [decode, encode]
  apply structured_of_written
  · decide
  exact .last (.option (by decide) rfl fun _ _ => rfl)

/-- What is known of a claim's bucket is read back. -/
theorem ClaimStatus.decode_encode (s : ClaimStatus) : decode.ofJson s.encode = .ok s := by
  rw [decode, encode]
  apply structured_of_written
  · decide
  simp only [List.append_assoc]
  apply Layout.Written.cons (.always rfl)
  apply Layout.Written.cons (.text rfl)
  apply Layout.Written.cons (.text rfl)
  apply Layout.Written.cons (.always (DeletionPolicy.decode_encode _))
  apply Layout.Written.cons (.text rfl)
  exact .last (.option (by decide) rfl fun _ _ => rfl)

/-- What an access asks for is read back. -/
theorem AccessSpec.decode_encode (s : AccessSpec) : decode.ofJson s.encode = .ok s := by
  rw [decode, encode]
  apply structured_of_written
  · decide
  rw [List.append_assoc]
  apply Layout.Written.cons (.option (by decide) rfl fun _ _ => rfl)
  apply Layout.Written.cons (.option (by decide) rfl fun _ _ => rfl)
  exact .last (.option (by decide) rfl fun _ _ => rfl)

/-- What is known of a grant is read back. -/
theorem AccessStatus.decode_encode (s : AccessStatus) : decode.ofJson s.encode = .ok s := by
  rw [decode, encode]
  apply structured_of_written
  · decide
  simp only [List.append_assoc]
  apply Layout.Written.cons (.always rfl)
  apply Layout.Written.cons (.text rfl)
  apply Layout.Written.cons (.text rfl)
  apply Layout.Written.cons (.text rfl)
  exact .last (.text rfl)

/-! ## Metadata -/

/-- Whether metadata is read back as it was written. -/
def Metadata.Survives (m : Metadata) : Prop := decode.ofJson m.encode = .ok m

/-- Whether a time is read back from its text, which has whole seconds only. -/
def Punctual (t : Instant) : Prop := Instant.read t.toSecondText = .ok t

/-- A time is read back. -/
theorem Punctual.decode_encode {t : Instant} (h : Punctual t) :
    instant.ofJson (.str t.toSecondText) = .ok t := by
  have read : Instant.read t.toSecondText = .ok t := h
  simp only [instant, ofTexts, ofJson_scalar, Found.of, read]

/-- A number of 64 bits is read back. -/
theorem int64_of_bounds {n : Int}
    (h : -9223372036854775808 ≤ n ∧ n ≤ 9223372036854775807) : int64.ofJson (.int n) = .ok n :=
  if_pos h

/-- A record whose fields may be repeated is read back from what is written of it. -/
theorem openRecord_of_written {name : String} {start r : ρ} {fields : List (Field ρ)}
    {written : List (String × Json)} (distinct : (fields.map Field.name).Nodup)
    (h : Layout.Written fields start written r) :
    (openRecord name (.plain start fields)).ofJson (.obj written) = .ok r :=
  Layout.ofFields_of_written (l := .plain start fields) distinct h

/-- An owner is read back. -/
theorem OwnerReference.decode_encode (r : OwnerReference) : decode.ofJson r.encode = .ok r := by
  rw [decode, encode]
  apply openRecord_of_written
  · decide
  simp only [List.append_assoc]
  show Layout.Written _ _ ([_] ++ (_ ++ (_ ++ ([_] ++ ([_] ++ [_]))))) _
  apply Layout.Written.cons (.always rfl)
  apply Layout.Written.cons (.option (by decide) rfl fun _ _ => rfl)
  apply Layout.Written.cons (.option (by decide) rfl fun _ _ => rfl)
  apply Layout.Written.cons (.always rfl)
  apply Layout.Written.cons (.always rfl)
  exact .last (.always rfl)

/-- A record of managed fields is read back, if its time is and if it is not a record of
nothing. -/
theorem ManagedFields.decode_encode {m : ManagedFields} (time : ∀ t, m.time = some t → Punctual t)
    (fields : m.fields ≠ some .null) : decode.ofJson m.encode = .ok m := by
  rw [decode, encode]
  apply openRecord_of_written
  · decide
  simp only [List.append_assoc]
  apply Layout.Written.cons (.option (by decide) rfl fun _ _ => rfl)
  apply Layout.Written.cons (.option (by decide) rfl fun _ _ => rfl)
  apply Layout.Written.cons (.option (by decide) rfl fun j given =>
    optional_of_value (fun absent => fields (absent ▸ given)) rfl)
  apply Layout.Written.cons (.option (by decide) rfl fun _ _ => rfl)
  apply Layout.Written.cons (.option (by decide) rfl fun _ _ => rfl)
  apply Layout.Written.cons (.option (by decide) rfl fun _ _ => rfl)
  exact .last (.option (by decide) rfl fun t given =>
    optional_of_value (by simp) (time t given).decode_encode)

/-- **What metadata is read back.** All of it, if its times have whole seconds, its numbers fit into
64 bits, and no record of managed fields is a record of nothing. -/
theorem Metadata.survives {m : Metadata}
    (created : ∀ t, m.creationTimestamp = some t → Punctual t)
    (deleted : ∀ t, m.deletionTimestamp = some t → Punctual t)
    (generation : ∀ n, m.generation = some n →
      -9223372036854775808 ≤ n ∧ n ≤ 9223372036854775807)
    (grace : ∀ n, m.deletionGracePeriodSeconds = some n →
      -9223372036854775808 ≤ n ∧ n ≤ 9223372036854775807)
    (managed : ∀ l, m.managedFields = some l → ∀ f ∈ l,
      (∀ t, f.time = some t → Punctual t) ∧ f.fields ≠ some .null) : m.Survives := by
  rw [Survives, decode, encode]
  apply openRecord_of_written
  · decide
  simp only [List.append_assoc]
  apply Layout.Written.cons (.option (by decide) rfl fun l _ =>
    optional_of_value (by simp [Labels.encode, Json.ofTexts]) (Labels.decode_encode l))
  apply Layout.Written.cons (.option (by decide) rfl fun t given =>
    optional_of_value (by simp) (created t given).decode_encode)
  apply Layout.Written.cons (.option (by decide) rfl fun n given =>
    optional_of_value (by simp) (int64_of_bounds (grace n given)))
  apply Layout.Written.cons (.option (by decide) rfl fun t given =>
    optional_of_value (by simp) (deleted t given).decode_encode)
  apply Layout.Written.cons (.option (by decide) rfl fun l _ =>
    optional_of_value (by simp) (list_of_values fun _ _ => rfl))
  apply Layout.Written.cons (.option (by decide) rfl fun _ _ => rfl)
  apply Layout.Written.cons (.option (by decide) rfl fun n given =>
    optional_of_value (by simp) (int64_of_bounds (generation n given)))
  apply Layout.Written.cons (.option (by decide) rfl fun l _ =>
    optional_of_value (by simp [Labels.encode, Json.ofTexts]) (Labels.decode_encode l))
  apply Layout.Written.cons (.option (by decide) rfl fun l given =>
    optional_of_value (by simp) (list_of_values fun f hf =>
      ManagedFields.decode_encode (managed l given f hf).1 (managed l given f hf).2))
  apply Layout.Written.cons (.option (by decide) rfl fun _ _ => rfl)
  apply Layout.Written.cons (.option (by decide) rfl fun _ _ => rfl)
  apply Layout.Written.cons (.option (by decide) rfl fun l _ =>
    optional_of_value (by simp) (list_of_values fun r _ => OwnerReference.decode_encode r))
  apply Layout.Written.cons (.option (by decide) rfl fun _ _ => rfl)
  apply Layout.Written.cons (.option (by decide) rfl fun _ _ => rfl)
  exact .last (.option (by decide) rfl fun _ _ => rfl)

/-! ## Objects -/

/-- What a document begins with is not known to the reader of its object, which reads it as if it
began with the metadata. -/
theorem structured_of_envelope {kind name : String} {start r : ρ} {fields : List (Field ρ)}
    {written : List (String × Json)} (distinct : (fields.map Field.name).Nodup)
    (apart : "apiVersion" ∉ fields.map Field.name ∧ "kind" ∉ fields.map Field.name)
    (h : Layout.Written fields start written r) :
    (structured name (.plain start fields)).ofJson (.obj (envelope kind ++ written)) = .ok r := by
  have known := Layout.ofFields_known (l := .plain start fields) rfl false
  show (Layout.plain start fields).ofFields false _ = _
  rw [known, envelope, List.filter_append,
    List.filter_cons_of_neg (by simpa [Layout.plain] using apart.1),
    List.filter_cons_of_neg (by simpa [Layout.plain] using apart.2), List.filter_nil,
    List.nil_append, ← known]
  exact Layout.ofFields_of_written (l := .plain start fields) distinct h

/-- A class is read back if its metadata is. -/
theorem BucketClass.decode_encode {c : BucketClass} (h : c.metadata.Survives) :
    decode.ofJson c.encode = .ok c := by
  rw [decode, encode]
  apply structured_of_envelope
  · decide
  · decide
  show Layout.Written _ _ ([_] ++ [_]) _
  apply Layout.Written.cons (.always h)
  exact .last (.always (ClassSpec.decode_encode _))

/-- A claim is read back if its metadata is. -/
theorem BucketClaim.decode_encode {c : BucketClaim} (h : c.metadata.Survives) :
    decode.ofJson c.encode = .ok c := by
  rw [decode, encode, List.append_assoc]
  apply structured_of_envelope
  · decide
  · decide
  show Layout.Written _ _ ([_] ++ ([_] ++ _)) _
  apply Layout.Written.cons (.always h)
  apply Layout.Written.cons (.always (ClaimSpec.decode_encode _))
  exact .last (.option (by decide) rfl fun s _ =>
    optional_of_value (by simp [ClaimStatus.encode]) (ClaimStatus.decode_encode s))

/-- An access is read back if its metadata is. -/
theorem BucketAccess.decode_encode {a : BucketAccess} (h : a.metadata.Survives) :
    decode.ofJson a.encode = .ok a := by
  rw [decode, encode, List.append_assoc]
  apply structured_of_envelope
  · decide
  · decide
  show Layout.Written _ _ ([_] ++ ([_] ++ _)) _
  apply Layout.Written.cons (.always h)
  apply Layout.Written.cons (.always (AccessSpec.decode_encode _))
  exact .last (.option (by decide) rfl fun s _ =>
    optional_of_value (by simp [AccessStatus.encode]) (AccessStatus.decode_encode s))

/-! ## Nothing is lost -/

/-- What is owed by the reader and the writer of one type.  `names` are its fields in their order,
of which an array has to have the first `least`; `Sound` are the values that are written as they
are. -/
structure Lossless (d : Decoder α) (encode : α → Json) (names : List String) (least : Nat)
    (Sound : α → Prop) : Prop where
  /-- A value is read back as it was written. -/
  decode_encode : ∀ a, Sound a → d.ofJson (encode a) = .ok a
  /-- Whatever document a value is read from: it is written as a document that is read as the same
  value, and which is written again once it has been read. -/
  settles : ∀ j a, d.ofJson j = .ok a → Sound a →
    d.ofJson (encode a) = .ok a ∧ (d.ofJson (encode a)).map encode = .ok (encode a)
  /-- A document of a value is an object, or an array that has what it has to have. -/
  forms : ∀ j a, d.ofJson j = .ok a →
    (∃ fields, j = .obj fields) ∨
      ∃ items, j = .arr items ∧ least ≤ items.length ∧ items.length ≤ names.length
  /-- Of an object only the fields of the known names count, wherever they stand. -/
  known : ∀ fields, d.ofJson (.obj fields) = d.ofJson (.obj (fields.filter (·.1 ∈ names)))
  /-- An array is read as the object that names its elements; the fields beyond its end are left
  out. -/
  positions : ∀ items, least ≤ items.length → items.length ≤ names.length →
    d.ofJson (.arr items) = d.ofJson (.obj (names.zip items))

/-- A record that is read back is lossless, if an array may end just where every further field has a
default. -/
theorem Lossless.of_decode_encode {name : String} {start : α} {fields : List (Field α)}
    {encode : α → Json} {least : Nat} {Sound : α → Prop}
    (distinct : (fields.map Field.name).Nodup)
    (ends : ∀ n ≤ fields.length, (∀ f ∈ fields.drop n, f.need = .defaulted) ↔ least ≤ n)
    (back : ∀ a, Sound a → (structured name (.plain start fields)).ofJson (encode a) = .ok a) :
    Lossless (structured name (.plain start fields)) encode (fields.map Field.name) least
      Sound where
  decode_encode := back
  settles j a _ sound := by
    rw [back a sound]
    exact ⟨rfl, rfl⟩
  forms j a h := by
    cases j with
    | obj fields => exact .inl ⟨fields, rfl⟩
    | arr items =>
      obtain ⟨fits, rest⟩ := Layout.length_of_ofItems (l := .plain start fields) h
      rw [List.length_map]
      exact .inr ⟨items, rfl, (ends _ fits).mp rest, fits⟩
    | _ => cases h
  known given := Layout.ofFields_known (l := .plain start fields) rfl false given
  positions items reached fits := by
    rw [List.length_map] at fits
    exact Layout.ofItems_eq_ofFields (l := .plain start fields) distinct fits
      ((ends _ fits).mpr reached)

/-- **Resources are read back as they were written.** A specification and a status always are, and
an object is if its metadata is, whatever texts are empty and whatever parts are absent; and of what
a reader accepts beyond that, unknown fields and arrays, it makes a value that is read back too. -/
theorem resources_lossless :
    Lossless ClassSpec.decode ClassSpec.encode ["region", "deletionPolicy", "parameters"] 0
      (fun _ => True) ∧
    Lossless ClaimSpec.decode ClaimSpec.encode ["bucketClassName"] 0 (fun _ => True) ∧
    Lossless ClaimStatus.decode ClaimStatus.encode
      ["provisioned", "bucketId", "region", "deletionPolicy", "backendType", "endpoint"] 0
      (fun _ => True) ∧
    Lossless AccessSpec.decode AccessSpec.encode
      ["bucketClassName", "bucketClaimName", "existingBucketId"] 0 (fun _ => True) ∧
    Lossless AccessStatus.decode AccessStatus.encode
      ["accessGranted", "accountId", "bucketId", "backendType", "credentialsSecretName"] 0
      (fun _ => True) ∧
    Lossless BucketClass.decode BucketClass.encode ["metadata", "spec"] 2
      (fun c => c.metadata.Survives) ∧
    Lossless BucketClaim.decode BucketClaim.encode ["metadata", "spec", "status"] 3
      (fun c => c.metadata.Survives) ∧
    Lossless BucketAccess.decode BucketAccess.encode ["metadata", "spec", "status"] 3
      (fun a => a.metadata.Survives) := by
  refine ⟨?_, ?_, ?_, ?_, ?_, ?_, ?_, ?_⟩
  · exact .of_decode_encode (by decide) (by decide) fun s _ => ClassSpec.decode_encode s
  · exact .of_decode_encode (by decide) (by decide) fun s _ => ClaimSpec.decode_encode s
  · exact .of_decode_encode (by decide) (by decide) fun s _ => ClaimStatus.decode_encode s
  · exact .of_decode_encode (by decide) (by decide) fun s _ => AccessSpec.decode_encode s
  · exact .of_decode_encode (by decide) (by decide) fun s _ => AccessStatus.decode_encode s
  · exact .of_decode_encode (by decide) (by decide) fun _ => BucketClass.decode_encode
  · exact .of_decode_encode (by decide) (by decide) fun _ => BucketClaim.decode_encode
  · exact .of_decode_encode (by decide) (by decide) fun _ => BucketAccess.decode_encode

/-- A claim with a time in its metadata, an empty text in its status and no endpoint. -/
def plainClaim : BucketClaim where
  metadata := { name := some "a", creationTimestamp := some ⟨1700000000, 0⟩ }
  spec := { className := some "" }
  status := some { provisioned := true, region := "r1", deletionPolicy := .retain }

/-- A document of the claim in which the specification and the status are arrays, the latter without
its last two fields, and a field stands that nobody knows. -/
def plainDocument : Json :=
  .obj [("status", .arr [.bool true, .str "", .str "r1", .str "Retain"]), ("extra", .null),
    ("spec", .arr [.str ""]),
    ("metadata", .obj [("name", .str "a"), ("creationTimestamp", .str "2023-11-14T22:13:20Z")])]

/-- The document is read, and what is read of it is written and read again. -/
theorem resources_lossless_of_plainDocument :
    BucketClaim.decode.ofJson plainDocument = .ok plainClaim ∧
    BucketClaim.decode.ofJson plainClaim.encode = .ok plainClaim ∧
    (BucketClaim.decode.ofJson plainClaim.encode).map BucketClaim.encode
      = .ok plainClaim.encode := by
  obtain ⟨-, -, -, -, -, -, claims, -⟩ := resources_lossless
  have read : BucketClaim.decode.ofJson plainDocument = .ok plainClaim := rfl
  have sound : plainClaim.metadata.Survives := by
    apply Metadata.survives
    · intro t given
      cases given
      exact (rfl : Instant.read "2023-11-14T22:13:20Z" = _)
    all_goals
      intro _ given
      cases given
  exact ⟨read, claims.settles plainDocument plainClaim read sound⟩

end BucketProvisioning.Resource

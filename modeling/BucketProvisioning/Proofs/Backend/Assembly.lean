import BucketProvisioning.Backend.Registry

/-!
# Putting a registry together

A configuration asks for entries: types that are kept in memory, and endpoints.  They are served one
after the other, and the first that cannot be served ends the assembly with its failure.  What a
registry has after some entries is exactly those entries, in their order (`serving`), so whether the
next one can be served depends on the entries before it alone.

What counts as an address is left open throughout.

* `enrol_serving` and `enrol_offending`: one entry after others.
* `assemble_serving` and `assemble_offending`: any entries, up to the first that offends.
* `backendTypes_strict`: the types of a registry are listed strictly in order.
* `registry_assembled`: which configurations have a registry, what the failure is where there is
  none, and which class is served by what where there is one.
-/

set_option autoImplicit false

namespace BucketProvisioning.Backend.Registry

open BucketProvisioning.Resource BucketProvisioning.Text

/-! ## Entries -/

/-- What a configuration asks a registry to serve. -/
inductive Entry where
  /-- A type that is kept in memory. -/
  | inMemory (backendType : String)
  /-- A type that a remote backend serves. -/
  | remote (e : Endpoint)

namespace Entry

/-- The type that is to be served. -/
def backendType : Entry → String
  | inMemory t => t
  | remote e => e.backendType

/-- How it is to be served. -/
def service : Entry → Service
  | inMemory _ => .inMemory
  | remote e => .remote e.address

/-- Whether it can be served: what is remote needs an address. -/
def isUsable (isAddress : String → Bool) : Entry → Bool
  | inMemory _ => true
  | remote e => isAddress e.address

end Entry

/-- The entries of a configuration: the types that are not blank, trimmed, and then the
endpoints. -/
def entries (inMemory : List String) (endpoints : List Endpoint) : List Entry :=
  ((inMemory.map trim).filter (!·.isEmpty)).map .inMemory ++ endpoints.map .remote

/-- Entries that can all be served, each for a type of its own. -/
structure Servable (isAddress : String → Bool) (es : List Entry) : Prop where
  /-- Every address can be used. -/
  usable : ∀ e ∈ es, e.isUsable isAddress = true
  /-- No type occurs twice. -/
  distinct : (es.map Entry.backendType).Nodup

/-- An entry cannot be served after others, and this is why.  Its address is looked at before its
type. -/
inductive Offends (isAddress : String → Bool) (earlier : List Entry) : Entry → Failure → Prop where
  /-- The address cannot be used. -/
  | address (e : Endpoint) (useless : isAddress e.address = false) :
    Offends isAddress earlier (.remote e) (.backend e.backendType
      ("invalid endpoint " ++ quoted e.address ++ ": invalid URI"))
  /-- The type is served already. -/
  | again (e : Entry) (usable : e.isUsable isAddress = true)
      (taken : e.backendType ∈ earlier.map Entry.backendType) :
    Offends isAddress earlier e (.invalid "config"
      ("backend type " ++ quoted e.backendType ++ " is configured more than once"))

variable {isAddress : String → Bool} {es earlier later : List Entry} {e : Entry} {f : Failure}

/-- An entry can be served after others if it is usable and its type is free, or else there is a
reason why not. -/
theorem fits_or_offends (isAddress : String → Bool) (earlier : List Entry) (e : Entry) :
    (e.isUsable isAddress = true ∧ e.backendType ∉ earlier.map Entry.backendType) ∨
      ∃ f, Offends isAddress earlier e f := by
  by_cases usable : e.isUsable isAddress = true
  · by_cases taken : e.backendType ∈ earlier.map Entry.backendType
    · exact Or.inr ⟨_, .again e usable taken⟩
    · exact Or.inl ⟨usable, taken⟩
  · cases e with
    | inMemory t => exact absurd rfl usable
    | remote e => exact Or.inr ⟨_, .address e (by simpa [Entry.isUsable] using usable)⟩

/-- An empty list of entries can be served. -/
theorem servable_nil : Servable isAddress [] :=
  ⟨List.forall_mem_nil _, List.nodup_nil⟩

/-- What can be served can be served without its last entries. -/
theorem Servable.of_append (servable : Servable isAddress (earlier ++ later)) :
    Servable isAddress earlier where
  usable e mem := servable.usable e (List.mem_append_left _ mem)
  distinct := by
    have distinct := servable.distinct
    rw [List.map_append, List.nodup_append] at distinct
    exact distinct.1

/-- Entries can be served with one more exactly if that one fits. -/
theorem servable_concat : Servable isAddress (earlier ++ [e]) ↔
    Servable isAddress earlier ∧ e.isUsable isAddress = true ∧
      e.backendType ∉ earlier.map Entry.backendType := by
  constructor
  · intro servable
    refine ⟨servable.of_append, servable.usable e (by simp), ?_⟩
    intro taken
    have distinct := servable.distinct
    rw [List.map_append, List.nodup_append] at distinct
    exact distinct.2.2 _ taken _ (by simp) rfl
  · rintro ⟨servable, usable, free⟩
    constructor
    · intro d mem
      rcases List.mem_append.1 mem with before | last
      · exact servable.usable d before
      · rw [List.mem_singleton.1 last]
        exact usable
    · rw [List.map_append, List.nodup_append]
      refine ⟨servable.distinct, by simp, ?_⟩
      rintro t before t' last rfl
      rw [List.map_singleton, List.mem_singleton] at last
      exact free (last ▸ before)

/-- After entries that can be served, all others can be served too, or there is a first one that
cannot. -/
theorem servable_or_offends_after (servable : Servable isAddress earlier) (es : List Entry) :
    Servable isAddress (earlier ++ es) ∨ ∃ between e later f,
      es = between ++ e :: later ∧ Servable isAddress (earlier ++ between) ∧
        Offends isAddress (earlier ++ between) e f := by
  induction es generalizing earlier with
  | nil => exact Or.inl (by simpa using servable)
  | cons e es ih =>
    rcases fits_or_offends isAddress earlier e with fits | ⟨f, offends⟩
    · rcases ih (servable_concat.2 ⟨servable, fits⟩) with all | ⟨between, d, later, f, rfl, rest⟩
      · exact Or.inl (by simpa using all)
      · exact Or.inr ⟨e :: between, d, later, f, rfl, by simpa using rest⟩
    · exact Or.inr ⟨[], e, es, f, rfl, by simpa using servable, by simpa using offends⟩

/-- Entries can all be served, or there is a first one that cannot. -/
theorem servable_or_offends (isAddress : String → Bool) (es : List Entry) :
    Servable isAddress es ∨ ∃ earlier e later f,
      es = earlier ++ e :: later ∧ Servable isAddress earlier ∧ Offends isAddress earlier e f :=
  servable_or_offends_after servable_nil es

/-! ## Serving entries -/

/-- A registry with these entries. -/
def serving (es : List Entry) : Registry := ⟨⟨es.map fun e => (e.backendType, e.service)⟩⟩

/-- Serves an entry after others. -/
def enrol (isAddress : String → Bool) (r : Registry) : Entry → Except Failure Registry
  | .inMemory t => r.registerUnique t .inMemory
  | .remote e => do r.registerUnique e.backendType (← e.connect isAddress)

/-- A registry is put together entry by entry. -/
theorem ofConfig_eq_foldlM (inMemory : List String) (endpoints : List Endpoint) :
    ofConfig inMemory endpoints isAddress =
      (entries inMemory endpoints).foldlM (enrol isAddress) (serving []) := by
  unfold entries ofConfig registerAll connectAll typeNames
  rw [List.foldlM_append, List.foldlM_map]
  simp only [List.foldlM_map]
  rfl

/-- The types that are served are those of the entries, in their order. -/
@[simp] theorem keys_serving (es : List Entry) :
    (serving es).services.keys = es.map Entry.backendType := by
  simp [serving, Table.keys]

/-- A registry serves the types of its entries and no others. -/
theorem serves_serving {t : String} :
    (serving es).serves t = true ↔ t ∈ es.map Entry.backendType := by
  rw [serves, ← Table.mem_keys, keys_serving]

/-- A service for a type that is free is added behind all others. -/
theorem registerUnique_serving (free : e.backendType ∉ earlier.map Entry.backendType) :
    (serving earlier).registerUnique e.backendType e.service = .ok (serving (earlier ++ [e])) := by
  have unserved : ¬ (serving earlier).serves e.backendType = true := fun served =>
    free (serves_serving.1 served)
  have untouched : (serving earlier).services.erase e.backendType = (serving earlier).services := by
    have others : ∀ d ∈ earlier, d.backendType ≠ e.backendType := by
      intro d mem same
      exact free (List.mem_map.2 ⟨d, mem, same⟩)
    simpa [serving, Table.erase] using others
  rw [registerUnique, if_neg unserved]
  simp only [register, Table.insert, untouched]
  simp [serving]

/-- A usable entry of a new type is added at the end. -/
theorem enrol_serving (usable : e.isUsable isAddress = true)
    (free : e.backendType ∉ earlier.map Entry.backendType) :
    enrol isAddress (serving earlier) e = .ok (serving (earlier ++ [e])) := by
  cases e with
  | inMemory t => exact registerUnique_serving (e := .inMemory t) free
  | remote e =>
    have connected : e.connect isAddress = .ok (.remote e.address) := if_pos usable
    rw [enrol, connected]
    exact registerUnique_serving (e := .remote e) free

/-- An entry that offends is answered with its failure. -/
theorem enrol_offending (offends : Offends isAddress earlier e f) :
    enrol isAddress (serving earlier) e = .error f := by
  cases offends with
  | address e useless =>
    have refused : e.connect isAddress = .error (.backend e.backendType
        ("invalid endpoint " ++ quoted e.address ++ ": invalid URI")) := by
      rw [Endpoint.connect, useless]
      rfl
    rw [enrol, refused]
    rfl
  | again _ usable taken =>
    have served := serves_serving.2 taken
    cases e with
    | inMemory t => exact if_pos served
    | remote e =>
      have connected : e.connect isAddress = .ok (.remote e.address) := if_pos usable
      rw [enrol, connected]
      exact if_pos served

/-- Entries that can be served after others are added to those. -/
theorem assemble_serving_after (earlier es : List Entry)
    (servable : Servable isAddress (earlier ++ es)) :
    es.foldlM (enrol isAddress) (serving earlier) = .ok (serving (earlier ++ es)) := by
  induction es generalizing earlier with
  | nil => simp [pure, Except.pure]
  | cons e es ih =>
    rw [List.append_cons] at servable ⊢
    have fits := (servable_concat.1 servable.of_append).2
    rw [List.foldlM_cons, enrol_serving fits.1 fits.2]
    exact ih _ servable

/-- **Entries that can be served** make the registry that has them. -/
theorem assemble_serving (servable : Servable isAddress es) :
    es.foldlM (enrol isAddress) (serving []) = .ok (serving es) :=
  assemble_serving_after [] es servable

/-- **The first entry that cannot be served** decides the failure. -/
theorem assemble_offending (servable : Servable isAddress earlier)
    (offends : Offends isAddress earlier e f) (later : List Entry) :
    (earlier ++ e :: later).foldlM (enrol isAddress) (serving []) = .error f := by
  have failed := enrol_offending offends
  rw [List.foldlM_append, assemble_serving servable]
  simp only [bind, Except.bind, List.foldlM_cons, failed]

/-- There is a registry with some entries, and only that one, if they can all be served. -/
theorem assemble_eq_ok {r : Registry} :
    es.foldlM (enrol isAddress) (serving []) = .ok r ↔ Servable isAddress es ∧ r = serving es := by
  constructor
  · intro made
    rcases servable_or_offends isAddress es with
      servable | ⟨earlier, e, later, f, rfl, before, offends⟩
    · rw [assemble_serving servable, Except.ok.injEq] at made
      exact ⟨servable, made.symm⟩
    · rw [assemble_offending before offends later] at made
      cases made
  · rintro ⟨servable, rfl⟩
    exact assemble_serving servable

/-- Otherwise the failure is that of the first entry that cannot be served after those before it. -/
theorem assemble_eq_error :
    es.foldlM (enrol isAddress) (serving []) = .error f ↔ ∃ earlier e later,
      es = earlier ++ e :: later ∧ Servable isAddress earlier ∧ Offends isAddress earlier e f := by
  constructor
  · intro failed
    rcases servable_or_offends isAddress es with
      servable | ⟨earlier, e, later, g, rfl, before, offends⟩
    · rw [assemble_serving servable] at failed
      cases failed
    · rw [assemble_offending before offends later, Except.error.injEq] at failed
      subst failed
      exact ⟨earlier, e, later, rfl, before, offends⟩
  · rintro ⟨earlier, e, later, rfl, before, offends⟩
    exact assemble_offending before offends later

/-! ## What a registry serves -/

/-- The comparison by which types are sorted is the order of texts. -/
theorem noLater_iff {s t : String} : Json.noLater s t = true ↔ s ≤ t := by
  rw [Json.noLater, Bool.not_eq_true', decide_eq_false_iff_not, String.not_lt]

/-- The served types are listed strictly in order. -/
theorem backendTypes_strict {r : Registry} (distinct : r.services.keys.Nodup) :
    r.backendTypes.Pairwise (· < ·) := by
  have sorted : r.backendTypes.Pairwise fun s t => Json.noLater s t = true := by
    apply List.pairwise_mergeSort
    · intro s t u st tu
      exact noLater_iff.2 (String.le_trans (noLater_iff.1 st) (noLater_iff.1 tu))
    · intro s t
      rw [Bool.or_eq_true, noLater_iff, noLater_iff]
      exact String.le_total s t
  have apart : r.backendTypes.Nodup := (List.mergeSort_perm _ _).nodup_iff.2 distinct
  refine (sorted.and apart).imp ?_
  rintro s t ⟨st, other⟩
  apply String.not_le.1
  intro ts
  exact other (String.le_antisymm (noLater_iff.1 st) ts)

/-- The list of types names those of the entries and no others. -/
theorem mem_backendTypes_serving {t : String} :
    t ∈ (serving es).backendTypes ↔ t ∈ es.map Entry.backendType := by
  rw [backendTypes, List.mem_mergeSort, keys_serving]

/-- Where no type occurs twice, every entry is served as it asks. -/
theorem get?_serving (distinct : (es.map Entry.backendType).Nodup) (mem : e ∈ es) :
    (serving es).get? e.backendType = some e.service := by
  induction es with
  | nil => cases mem
  | cons d es ih =>
    rw [List.map_cons, List.nodup_cons] at distinct
    rcases List.mem_cons.1 mem with rfl | mem
    · simp [get?, serving, Table.get?]
    · have other : d.backendType ≠ e.backendType := by
        intro same
        exact distinct.1 (same ▸ List.mem_map_of_mem mem)
      have rest := ih distinct.2 mem
      simp only [get?, serving, Table.get?, List.map_cons] at rest ⊢
      rw [List.find?_cons_of_neg (by simpa using other)]
      exact rest

/-- The types that a configuration asks for. -/
theorem map_backendType_entries (inMemory : List String) (endpoints : List Endpoint) :
    (entries inMemory endpoints).map Entry.backendType =
      (inMemory.map trim).filter (!·.isEmpty) ++ endpoints.map Endpoint.backendType := by
  simp [entries, Function.comp_def, Entry.backendType]

/-- The endpoints of a configuration decide which of its entries are usable. -/
theorem usable_entries {inMemory : List String} {endpoints : List Endpoint} :
    (∀ e ∈ entries inMemory endpoints, e.isUsable isAddress = true) ↔
      ∀ e ∈ endpoints, isAddress e.address = true := by
  simp only [entries, List.forall_mem_append, List.forall_mem_map, Entry.isUsable, implies_true,
    true_and]

/-- A class that chooses a type that is served is resolved to it. -/
theorem forClass_of_serves {r : Registry} {c : BucketClass} {t : String}
    (chosen : c.spec.backendType? = some t) (served : r.serves t = true) :
    r.forClass c = .ok t := by
  rw [forClass, chosen]
  exact if_pos served

/-- A class without a backend type, or with one that is not served, is refused for good, by its
name. -/
theorem forClass_of_not_serves {r : Registry} {c : BucketClass}
    (unserved : ∀ t, c.spec.backendType? = some t → ¬ r.serves t = true) :
    ∃ message, r.forClass c = .error (.invalid c.metadata.nameOrEmpty message) := by
  rw [forClass]
  cases chosen : c.spec.backendType? with
  | none => exact ⟨_, rfl⟩
  | some t => exact ⟨_, if_neg (unserved t chosen)⟩

/-- **How a registry is put together, and what it answers.**  Whatever counts as an address:

* a configuration has a registry exactly if all its endpoints have addresses and no type occurs
  twice among the trimmed types that are not blank and those of the endpoints;
* otherwise the failure is that of the first entry that cannot be served after those before it, the
  types that are kept in memory coming first; an endpoint without an address fails for that even if
  its type is taken;
* the registry lists exactly these types, strictly in order;
* a class that sets one of these types is served as the entry of that type asks, and any other class
  (one that sets an empty type sets none) is refused by its name, with a failure that does not
  pass. -/
theorem registry_assembled (isAddress : String → Bool) (inMemory : List String)
    (endpoints : List Endpoint) :
    let types := (inMemory.map trim).filter (!·.isEmpty) ++ endpoints.map Endpoint.backendType
    ((∃ r, ofConfig inMemory endpoints isAddress = .ok r) ↔
      (∀ e ∈ endpoints, isAddress e.address = true) ∧ types.Nodup) ∧
    (∀ f, ofConfig inMemory endpoints isAddress = .error f ↔ ∃ earlier e later,
      entries inMemory endpoints = earlier ++ e :: later ∧
        Servable isAddress earlier ∧ Offends isAddress earlier e f) ∧
    (∀ r, ofConfig inMemory endpoints isAddress = .ok r →
      r.backendTypes.Pairwise (· < ·) ∧ (∀ t, t ∈ r.backendTypes ↔ t ∈ types) ∧
      ∀ c : BucketClass,
        (∀ e ∈ entries inMemory endpoints, c.spec.backendType? = some e.backendType →
          r.forClass c = .ok e.backendType ∧ r.get? e.backendType = some e.service) ∧
        ((∀ t, c.spec.backendType? = some t → t ∉ types) → ∃ f, r.forClass c = .error f ∧
          f.isRetryable = false ∧ ∃ message, f = .invalid c.metadata.nameOrEmpty message)) := by
  intro types
  have names : (entries inMemory endpoints).map Entry.backendType = types :=
    map_backendType_entries inMemory endpoints
  rw [ofConfig_eq_foldlM]
  refine ⟨?_, fun f => assemble_eq_error, ?_⟩
  · constructor
    · rintro ⟨r, made⟩
      obtain ⟨⟨usable, distinct⟩, -⟩ := assemble_eq_ok.1 made
      exact ⟨usable_entries.1 usable, names ▸ distinct⟩
    · rintro ⟨usable, distinct⟩
      exact ⟨_, assemble_serving ⟨usable_entries.2 usable, names ▸ distinct⟩⟩
  · intro r made
    obtain ⟨⟨-, distinct⟩, rfl⟩ := assemble_eq_ok.1 made
    refine ⟨backendTypes_strict (by rwa [keys_serving]), ?_, ?_⟩
    · intro t
      rw [mem_backendTypes_serving, names]
    · intro c
      constructor
      · intro e mem chosen
        have served := serves_serving.2 (List.mem_map.2 ⟨e, mem, rfl⟩)
        exact ⟨forClass_of_serves chosen served, get?_serving distinct mem⟩
      · intro unlisted
        have unserved : ∀ t, c.spec.backendType? = some t →
            ¬ (serving (entries inMemory endpoints)).serves t = true := by
          intro t chosen
          rw [serves_serving, names]
          exact unlisted t chosen
        obtain ⟨message, refused⟩ := forClass_of_not_serves unserved
        exact ⟨_, refused, rfl, message, rfl⟩

/-- A remote backend of the type `s3`. -/
def remoteStore : Endpoint := ⟨"s3", "http://127.0.0.1:1"⟩

/-- A class with a name and a backend type. -/
def classOf (name backendType : String) : BucketClass where
  metadata := { name := some name }
  spec := { parameters := [(backendTypeParameter, backendType)] }

/-- A type in memory and a remote one are served, and a class of a third type is not; a type that is
taken is refused, but not before its address has been looked at. -/
theorem registry_assembled_of_two :
    ofConfig [" fake ", " "] [remoteStore] = .ok (serving [.inMemory "fake", .remote remoteStore]) ∧
    (serving [.inMemory "fake", .remote remoteStore]).forClass (classOf "gold" "s3") = .ok "s3" ∧
    (serving [.inMemory "fake", .remote remoteStore]).get? "s3" =
      some (.remote "http://127.0.0.1:1") ∧
    (∃ f, (serving [.inMemory "fake", .remote remoteStore]).forClass (classOf "lead" "tape") =
      .error f ∧ f.isRetryable = false ∧ ∃ message, f = .invalid "lead" message) ∧
    ofConfig ["s3"] [remoteStore] =
      .error (.invalid "config" "backend type \"s3\" is configured more than once") ∧
    ofConfig ["s3"] [⟨"s3", ""⟩] =
      .error (.backend "s3" "invalid endpoint \"\": invalid URI") := by
  have made : ofConfig [" fake ", " "] [remoteStore] =
      .ok (serving [.inMemory "fake", .remote remoteStore]) := rfl
  obtain ⟨-, -, served⟩ := registry_assembled Uri.isValid [" fake ", " "] [remoteStore]
  obtain ⟨-, -, classes⟩ := served _ made
  have remote := (classes (classOf "gold" "s3")).1 (.remote remoteStore)
    (List.mem_append_right _ (List.mem_singleton.2 rfl)) rfl
  have other := (classes (classOf "lead" "tape")).2 (by rintro _ ⟨⟩; decide)
  have first : Servable Uri.isValid [.inMemory "s3"] := ⟨by simp [Entry.isUsable], by simp⟩
  obtain ⟨-, taken, -⟩ := registry_assembled Uri.isValid ["s3"] [remoteStore]
  obtain ⟨-, useless, -⟩ := registry_assembled Uri.isValid ["s3"] [⟨"s3", ""⟩]
  refine ⟨made, remote.1, remote.2, other, (taken _).2 ?_, (useless _).2 ?_⟩
  · exact ⟨[.inMemory "s3"], .remote remoteStore, [], rfl, first, .again _ rfl (by decide)⟩
  · exact ⟨[.inMemory "s3"], .remote ⟨"s3", ""⟩, [], rfl, first, .address _ rfl⟩

end BucketProvisioning.Backend.Registry

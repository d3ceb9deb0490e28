import BucketProvisioning.Proofs.Key
import BucketProvisioning.Resource.Claim
import BucketProvisioning.Watch.Notification

/-!
# What a report queues

Caches hold keys as they are, and a queue holds their texts: a report about an object queues the
text of the object's key, and who takes the text from the queue reads a key from it.  That this is
the same key is a matter of slashes.  A text is read as a key if it is one segment or two with a
slash between them, and the key of an object whose name and namespace hold no slash has such a text.

* `ObjectKey.exists_parse_iff`: which texts are read as keys.
* `ObjectKey.wellFormed_of_addressable`: the key of an object without slashes is well-formed.
* `Notification.queued_of_concerns`: a report about an object queues the text of its key and nothing
  else.
* `keys_survive_queue`: a key that is queued is the key that is taken, and no two keys are queued
  as one item.
-/

set_option autoImplicit false

namespace BucketProvisioning

open BucketProvisioning.Resource (Object BucketClaim BucketClass)

namespace ObjectKey

/-! ## Texts of keys -/

/-- A segment is not empty and holds no slash. -/
def IsSegment (w : String) : Prop := w ≠ "" ∧ '/' ∉ w.toList

/-- The parts of a key, the namespace first. -/
def segments (k : ObjectKey) : List String := k.ns.toList ++ [k.name]

/-- A key is written with slashes between its parts. -/
theorem text_eq_intercalate (k : ObjectKey) : k.text = "/".intercalate k.segments := by
  obtain ⟨space, name⟩ := k
  cases space with
  | none => simp [text, segments]
  | some ns => simp [text, segments]

/-- A key is well-formed if all its parts are segments. -/
theorem wellFormed_iff {k : ObjectKey} : k.WellFormed ↔ ∀ w ∈ k.segments, IsSegment w := by
  constructor
  · rintro ⟨⟨name, ns⟩, ⟨nameFree, nsFree⟩⟩ w part
    rcases List.mem_append.1 part with space | last
    · rw [Option.mem_toList] at space
      exact ⟨ns w space, nsFree w space⟩
    · rw [List.mem_singleton.1 last]
      exact ⟨name, nameFree⟩
  · intro all
    have name : IsSegment k.name := all _ (by simp [segments])
    have ns : ∀ ns, k.ns = some ns → IsSegment ns := by
      intro ns space
      exact all ns (by simp [segments, space])
    exact ⟨⟨name.1, fun w space => (ns w space).1⟩, ⟨name.2, fun w space => (ns w space).2⟩⟩

/-- One or two texts are the parts of a key. -/
theorem exists_segments {ws : List String} (few : ws.length = 1 ∨ ws.length = 2) :
    ∃ k : ObjectKey, k.segments = ws := by
  rcases few with one | two
  · obtain ⟨name, rfl⟩ := List.length_eq_one_iff.1 one
    exact ⟨cluster name, rfl⟩
  · match ws, two with
    | [ns, name], _ => exact ⟨namespaced ns name, rfl⟩

/-- A key has a name, or a namespace and a name. -/
theorem length_segments (k : ObjectKey) : k.segments.length = 1 ∨ k.segments.length = 2 := by
  obtain ⟨space, name⟩ := k
  cases space with
  | none => exact Or.inl rfl
  | some ns => exact Or.inr rfl

/-- **What is read as a key**: one or two segments with a slash between them. -/
theorem exists_parse_iff {s : String} :
    (∃ k, parse s = .ok k) ↔ ∃ ws : List String, (ws.length = 1 ∨ ws.length = 2) ∧
      (∀ w ∈ ws, IsSegment w) ∧ s = "/".intercalate ws := by
  constructor
  · rintro ⟨k, read⟩
    obtain ⟨formed, written⟩ := parse_eq_ok.1 read
    refine ⟨k.segments, k.length_segments, wellFormed_iff.1 formed, ?_⟩
    rw [← written, text_eq_intercalate]
  · rintro ⟨ws, few, all, rfl⟩
    obtain ⟨k, rfl⟩ := exists_segments few
    exact ⟨k, parse_eq_ok.2 ⟨wellFormed_iff.2 all, text_eq_intercalate k⟩⟩

/-! ## Keys of objects -/

/-- An object can be told from others by its key: it has a name, and there is no slash in its name
or its namespace. -/
structure Addressable {α : Type} [Object α] (obj : α) : Prop where
  /-- The name is a segment. -/
  name : ∃ name, (Object.metadata obj).name = some name ∧ IsSegment name
  /-- The namespace holds no slash; it may be empty or absent. -/
  ns : ∀ ns, (Object.metadata obj).ns = some ns → '/' ∉ ns.toList

/-- An object that can be addressed has a key. -/
theorem ofObject?_of_addressable {α : Type} [Object α] {obj : α} (plain : Addressable obj) :
    ∃ k, ofObject? obj = some k ∧ k.WellFormed := by
  obtain ⟨⟨name, named, nonempty, nameFree⟩, nsFree⟩ := plain
  have found : ofObject? obj = some ⟨(Object.metadata obj).ns.filter (!·.isEmpty), name⟩ := by
    simp [ofObject?, named, nonempty]
  refine ⟨_, found, named_of_ofObject? found, ⟨nameFree, ?_⟩⟩
  intro ns kept
  exact nsFree ns (Option.filter_eq_some_iff.1 kept).1

end ObjectKey

namespace Watch

/-! ## Items of a queue -/

variable {α : Type} [Object α]

/-- A report is about an object: it brings the object itself, or the last copy of it. -/
inductive Notification.Concerns : Notification α → α → Prop where
  /-- The object is new. -/
  | added (obj : α) : Concerns (.added obj) obj
  /-- The object has changed. -/
  | modified (obj : α) : Concerns (.modified obj) obj
  /-- The object has gone. -/
  | deleted (obj : α) : Concerns (.deleted (.object obj)) obj
  /-- The object has vanished unseen. -/
  | vanished (key : String) (obj : α) : Concerns (.deleted (.unseen key (some obj))) obj

/-- The items that a report adds to the queue. -/
def Notification.queued (n : Notification α) : List String := n.effects.filterMap Effect.queued?

/-- A report about an object queues the text of its key. -/
theorem Notification.queued_of_concerns {n : Notification α} {obj : α} (about : n.Concerns obj)
    {k : ObjectKey} (key : ObjectKey.ofObject? obj = some k) : n.queued = [k.text] := by
  have put : [Effect.put k obj, .enqueue k].filterMap Effect.queued? = [k.text] := rfl
  have drop : [Effect.drop (α := α) k, .enqueue k].filterMap Effect.queued? = [k.text] := rfl
  cases about with
  | added => simpa only [queued, effects, key] using put
  | modified => simpa only [queued, effects, key] using put
  | deleted => simpa only [queued, effects, Deleted.key?, key] using drop
  | vanished => simpa only [queued, effects, Deleted.key?, key] using drop

/-- **Keys survive the queue.**  The texts that are read as keys are those of one or two segments,
and each is the text of the key that is read.  A report about an object whose name and namespace
hold no slash queues one item, from which the object's key is read; and reports about two such
objects, of whatever kinds, queue one item in common only if the objects have the same key. -/
theorem keys_survive_queue :
    (∀ s, (∃ k, ObjectKey.parse s = .ok k) ↔ ∃ ws : List String,
      (ws.length = 1 ∨ ws.length = 2) ∧ (∀ w ∈ ws, w ≠ "" ∧ '/' ∉ w.toList) ∧
        s = "/".intercalate ws) ∧
    (∀ s k, ObjectKey.parse s = .ok k → k.text = s) ∧
    (∀ {α : Type} [Object α] (obj : α), ObjectKey.Addressable obj →
      ∃ k, ObjectKey.ofObject? obj = some k ∧ ObjectKey.parse k.text = .ok k ∧
        ∀ n : Notification α, n.Concerns obj → n.queued = [k.text]) ∧
    (∀ {α β : Type} [Object α] [Object β] (a : α) (b : β),
      ObjectKey.Addressable a → ObjectKey.Addressable b →
      ObjectKey.ofObject? a ≠ ObjectKey.ofObject? b →
      ∀ (n : Notification α) (m : Notification β), n.Concerns a → m.Concerns b →
        ∀ item ∈ n.queued, item ∉ m.queued) := by
  refine ⟨fun s => ObjectKey.exists_parse_iff, fun s k => ObjectKey.text_of_parse, ?_, ?_⟩
  · intro α _ obj plain
    obtain ⟨k, key, formed⟩ := ObjectKey.ofObject?_of_addressable plain
    refine ⟨k, key, ObjectKey.parse_text formed, ?_⟩
    intro n about
    exact Notification.queued_of_concerns about key
  · intro α β _ _ a b plainA plainB other n m aboutA aboutB item here there
    obtain ⟨k, keyA, formedA⟩ := ObjectKey.ofObject?_of_addressable plainA
    obtain ⟨k', keyB, formedB⟩ := ObjectKey.ofObject?_of_addressable plainB
    rw [Notification.queued_of_concerns aboutA keyA, List.mem_singleton] at here
    rw [Notification.queued_of_concerns aboutB keyB, List.mem_singleton] at there
    -- Both keys are read from the item.
    have same : ObjectKey.parse k.text = .ok k' := by
      rw [← here, there]
      exact ObjectKey.parse_text formedB
    rw [ObjectKey.parse_text formedA, Except.ok.injEq] at same
    exact other (by rw [keyA, keyB, same])

/-- A claim in a namespace. -/
def spacedClaim : BucketClaim := { metadata := { name := some "logs", ns := some "team-a" } }

/-- A class of the same name, with an empty namespace. -/
def namesakeClass : BucketClass := { metadata := { name := some "logs", ns := some "" } }

/-- The item of the claim is read as its key, and is no item of the class. -/
theorem keys_survive_queue_of_namesakes :
    ObjectKey.parse "team-a/logs" = .ok (.namespaced "team-a" "logs") ∧
    (ObjectKey.namespaced "team-a" "logs").text = "team-a/logs" ∧
    (∃ k, ObjectKey.ofObject? spacedClaim = some k ∧ ObjectKey.parse k.text = .ok k ∧
      (Notification.added spacedClaim).queued = [k.text]) ∧
    "team-a/logs" ∈ (Notification.added spacedClaim).queued ∧
    "team-a/logs" ∉ (Notification.modified namesakeClass).queued := by
  obtain ⟨-, texts, survive, apart⟩ := keys_survive_queue
  have read : ObjectKey.parse "team-a/logs" = .ok (.namespaced "team-a" "logs") := rfl
  have plain : ObjectKey.Addressable spacedClaim :=
    ⟨⟨"logs", rfl, by decide, by decide⟩, by rintro _ ⟨⟩; decide⟩
  have plain' : ObjectKey.Addressable namesakeClass :=
    ⟨⟨"logs", rfl, by decide, by decide⟩, by rintro _ ⟨⟩; decide⟩
  have other : ObjectKey.ofObject? spacedClaim ≠ ObjectKey.ofObject? namesakeClass := by decide
  have queued : "team-a/logs" ∈ (Notification.added spacedClaim).queued := by decide
  obtain ⟨k, key, again, items⟩ := survive spacedClaim plain
  refine ⟨read, texts _ _ read, ⟨k, key, again, items _ (.added _)⟩, queued, ?_⟩
  exact apart spacedClaim namesakeClass plain plain' other _ _ (.added _) (.modified _) _ queued

end Watch

end BucketProvisioning

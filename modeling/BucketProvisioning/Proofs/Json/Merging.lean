import Mathlib.Data.List.Pairwise
import BucketProvisioning.Proofs.Json.Records

/-!
# Merging a change into a document

A merge patch is a document of what is to change: a field with a value replaces the field of that
name, a field with the absent value takes it away, and objects are merged into objects.  Whatever a
patch does not mention stays.

* `Json.mergeFields_eq`: what becomes of the fields of an object.
* `Layout.Orderless`: what makes a record independent of the order in which its fields are read, and
  of all but the last value of each.
* `Layout.ofFields_merged`: an object that a patch has been merged into is read as if the fields of
  the patch were read after the object, on top of the record that it was read as.
-/

set_option autoImplicit false

namespace BucketProvisioning

/-! ## The patch of a document -/

namespace Json

/-- The fields of an object; anything else has none. -/
def members : Json → List (String × Json)
  | .obj fields => fields
  | _ => []

/-- Whether a document is the absent value. -/
def isNull : Json → Bool
  | .null => true
  | _ => false

/-- Whether a document has no fields of its own to merge: it is no object, and not absent. -/
def isWhole : Json → Bool
  | .null => false
  | .obj _ => false
  | _ => true

mutual

/-- A document after a merge patch (RFC 7386). -/
def merge : (patch : Json) → (target : Json) → Json
  | .obj changes, target => .obj (mergeFields changes target.members)
  | j, _ => j

/-- The fields of an object after the fields of a merge patch. -/
def mergeFields : (changes : List (String × Json)) → (fields : List (String × Json)) →
    List (String × Json)
  | [], fields => fields
  | (name, j) :: changes, fields =>
    mergeFields changes
      (if j.isNull then without fields name
        else setField fields name (merge j ((lookup fields name).getD .null)))

end

/-- A value that is a whole replaces what it is merged into. -/
theorem merge_of_whole {j : Json} (whole : j.isWhole = true) (target : Json) :
    merge j target = j := by
  cases j with
  | null => cases whole
  | obj fields => cases whole
  | _ => rw [merge]; simp

/-- A text is written as a whole. -/
theorem isWhole_textField (name s : String) : ∀ c ∈ textField name s, c.2.isWhole = true := by
  intro c member
  unfold textField at member
  split at member
  · cases member
  · rw [List.mem_singleton.mp member]
    rfl

/-- A value that may be absent is written as a whole if it is written so. -/
theorem isWhole_optField {α : Type} {encode : α → Json} (whole : ∀ a, (encode a).isWhole = true)
    (name : String) (o : Option α) : ∀ c ∈ optField name encode o, c.2.isWhole = true := by
  intro c member
  cases o with
  | none => cases member
  | some a =>
    rw [List.mem_singleton.mp member]
    exact whole a

/-- Of fields that are sorted out by their names the others are found as before. -/
theorem lookup_filter (keep : String → Bool) (fields : List (String × Json)) (name : String) :
    lookup (fields.filter fun f => keep f.1) name =
      if keep name then lookup fields name else none := by
  induction fields with
  | nil => simp [lookup_nil]
  | cons f fs ih =>
    by_cases here : f.1 = name
    · by_cases kept : keep name = true
      · rw [List.filter_cons_of_pos (by rwa [here]), lookup_cons, lookup_cons, if_pos here,
          if_pos here, if_pos kept]
      · rw [List.filter_cons_of_neg (by rwa [here]), ih, if_neg kept, if_neg kept]
    · by_cases kept : keep f.1 = true
      · rw [List.filter_cons_of_pos (by exact kept), lookup_cons, lookup_cons, if_neg here,
          if_neg here, ih]
      · rw [List.filter_cons_of_neg (by exact kept), lookup_cons, if_neg here, ih]

/-- Fields of other names are found as before. -/
theorem lookup_setField_of_ne (fields : List (String × Json)) {name other : String} (value : Json)
    (ne : name ≠ other) : lookup (setField fields name value) other = lookup fields other := by
  have kept := lookup_filter (fun n => decide (n ≠ name)) fields other
  rw [if_pos (by simpa using ne.symm)] at kept
  rw [setField, without, lookup_append, kept, lookup_cons, if_neg ne, lookup_nil, Option.or_none]

/-- **The fields of an object after a patch** without absent values: those that the patch does not
mention, and what the patch makes of the others. -/
theorem mergeFields_eq {changes : List (String × Json)} (distinct : (changes.map Prod.fst).Nodup)
    (there : ∀ c ∈ changes, c.2.isNull = false) (fields : List (String × Json)) :
    mergeFields changes fields = (fields.filter fun f => f.1 ∉ changes.map Prod.fst) ++
      changes.map fun c => (c.1, merge c.2 ((lookup fields c.1).getD .null)) := by
  induction changes generalizing fields with
  | nil =>
    have all : fields.filter (fun _ => true) = fields := List.filter_eq_self.mpr fun _ _ => rfl
    simp [mergeFields, all]
  | cons c changes ih =>
    obtain ⟨name, j⟩ := c
    rw [List.map_cons, List.nodup_cons] at distinct
    have value : j.isNull = false := there _ List.mem_cons_self
    have others : ∀ c ∈ changes, name ≠ c.1 := by
      rintro c member rfl
      exact distinct.1 (List.mem_map.mpr ⟨c, member, rfl⟩)
    rw [mergeFields, value, if_neg Bool.false_ne_true,
      ih distinct.2 (fun c member => there c (List.mem_cons_of_mem _ member))]
    have kept : (changes.map fun c => (c.1, merge c.2
        ((lookup (setField fields name (merge j ((lookup fields name).getD .null))) c.1).getD
          .null))) = changes.map fun c => (c.1, merge c.2 ((lookup fields c.1).getD .null)) := by
      apply List.map_congr_left
      intro c member
      rw [lookup_setField_of_ne _ _ (others c member)]
    rw [kept, setField, List.filter_append, without, List.filter_filter, List.map_cons,
      List.map_cons, List.filter_cons_of_pos (by simpa using distinct.1), List.filter_nil,
      List.append_assoc, List.singleton_append]
    congr 1
    apply List.filter_congr
    intro f _
    by_cases here : f.1 = name <;> simp [here]

end Json

/-! ## What an object with a patch is read as -/

variable {α ρ : Type}

namespace Field

variable {name : String} {d : Decoder α} {r : ρ}

/-- What is written of a field changes a record: the field is left out or written as a whole. -/
structure Changes (f : Field ρ) (r : ρ) (part : List (String × Json)) (r' : ρ) : Prop where
  /-- It is read on top of the record. -/
  written : f.Written r part r'
  /-- There is nothing in it to be merged. -/
  whole : ∀ c ∈ part, c.2.isWhole = true

/-- A field that is always written. -/
theorem Changes.always {store : α → ρ → ρ} {j : Json} {a : α} (whole : j.isWhole = true)
    (back : d.ofJson j = .ok a) : (of name d store).Changes r [(name, j)] (store a r) :=
  ⟨.always back, List.forall_mem_singleton.2 whole⟩

/-- A text that is left out when it is empty leaves the record the text that it has. -/
theorem Changes.text {store : String → ρ → ρ} {s old : String} (same : store old r = r) :
    (of name .text store).Changes r (Json.textField name s)
      (store (if s.isEmpty then old else s) r) := by
  refine ⟨?_, Json.isWhole_textField name s⟩
  unfold Json.textField
  split
  · rw [same]
    exact .nothing Need.noConfusion
  · exact .always rfl

/-- A value that is left out when it is absent leaves the record the value that it has. -/
theorem Changes.option {store : Option α → ρ → ρ} {encode : α → Json} {o old : Option α}
    (whole : ∀ a, (encode a).isWhole = true) (same : store old r = r)
    (back : ∀ a, o = some a → d.optional.ofJson (encode a) = .ok (some a)) :
    (of name d.optional store).Changes r (Json.optField name encode o) (store (o <|> old) r) := by
  refine ⟨?_, Json.isWhole_optField whole name o⟩
  cases o with
  | none =>
    change (of name d.optional store).Written r [] (store old r)
    rw [same]
    exact .nothing Need.noConfusion
  | some a => exact .always (back a rfl)

end Field

/-- A record with one more field, if that can be read. -/
def Field.took (f : Field ρ) (j : Json) (r : ρ) : Option ρ := ((f.read r).ofJson j).toOption

namespace Field

variable {name : String} {need : Need} {d : Decoder α} {store : α → ρ → ρ}

/-- A stored field is read in the same way whatever the record. -/
theorem took_stored (j : Json) : (stored name need d store).took j =
    fun r => (d.ofJson j).toOption.map fun a => store a r := by
  funext r
  show ((d.ofJson j).bind fun a => .ok (store a r)).toOption = _
  cases d.ofJson j <;> rfl

/-- Which of two fields is read first makes no difference. -/
def Commutes (f g : Field ρ) : Prop :=
  ∀ j j' r, (f.took j r).bind (g.took j') = (g.took j' r).bind (f.took j)

instance : Std.Symm (Field.Commutes (ρ := ρ)) where
  symm _ _ commute j j' r := (commute j' j r).symm

/-- Fields that are stored in different places commute. -/
theorem commutes_stored {β : Type} {name' : String} {need' : Need} {d' : Decoder β}
    {store' : β → ρ → ρ} (apart : ∀ a b r, store' b (store a r) = store a (store' b r)) :
    Commutes (stored name need d store) (stored name' need' d' store') := by
  intro j j' r
  simp only [took_stored]
  cases (d.ofJson j).toOption with
  | none => cases (d'.ofJson j').toOption <;> rfl
  | some a =>
    cases (d'.ofJson j').toOption with
    | none => rfl
    | some b => exact congrArg some (apart a b r)

/-- Only the last value of a field counts, and whether it can be read does not depend on the
record. -/
structure Settles (f : Field ρ) : Prop where
  /-- The last value counts. -/
  last : ∀ j j' r x, f.took j r = some x → f.took j' x = f.took j' r
  /-- Whether a value can be read does not depend on the record. -/
  steady : ∀ j r r', (f.took j r).isSome = (f.took j r').isSome

/-- A field that is stored in one place settles. -/
theorem settles_stored (again : ∀ a b r, store b (store a r) = store b r) :
    Settles (stored name need d store) where
  last j j' r x read := by
    rw [took_stored] at read ⊢
    obtain ⟨a, -, rfl⟩ := Option.map_eq_some_iff.mp read
    dsimp only
    simp only [again]
  steady j r r' := by
    rw [took_stored]
    dsimp only
    cases (d.ofJson j).toOption <;> rfl

end Field

namespace Layout

variable (l : Layout ρ α)

/-- The record that fields of an object add up to, if they can be read; what is not known is left
out, and names may be repeated. -/
def took (fields : List (String × Json)) (r : ρ) : Option ρ :=
  fields.foldlM (fun r c => match l.field? c.1 with
    | some f => f.took c.2 r
    | none => some r) r

/-- A record that does not depend on the order of its fields, nor on any but the last value of
each, and that no field is required of. -/
structure Orderless : Prop where
  /-- Names are distinct. -/
  distinct : (l.fields.map Field.name).Nodup
  /-- No field is required. -/
  free : ∀ f ∈ l.fields, f.need ≠ .required
  /-- Fields commute. -/
  commute : l.fields.Pairwise Field.Commutes
  /-- The last value of each counts. -/
  settle : ∀ f ∈ l.fields, f.Settles
  /-- Nothing is made of fields that are not known. -/
  quiet : l.other = none

variable {l}

/-- Fields are taken up one after the other. -/
theorem took_cons (c : String × Json) (fields : List (String × Json)) (r : ρ) :
    l.took (c :: fields) r = (match l.field? c.1 with
      | some f => f.took c.2 r
      | none => some r).bind (l.took fields) := rfl

/-- Written fields that stand in the order of the layout are read as what they add up to. -/
theorem took_of_written {fs : List (Field ρ)} {r r' : ρ} {written : List (String × Json)}
    (h : Written fs r written r') (known : ∀ f ∈ fs, l.field? f.name = some f) :
    l.took written r = some r' := by
  induction h with
  | nil => rfl
  | @cons f fs r r₁ r₂ part rest first _ ih =>
    have later := ih fun g member => known g (List.mem_cons_of_mem f member)
    cases first with
    | nothing _ => exact later
    | @value j _ back =>
      have here : f.took j r = some r₁ := by rw [Field.took, back]; rfl
      rw [List.singleton_append, took_cons, known f List.mem_cons_self]
      dsimp only
      rw [here]
      exact later

/-- What is found under a name is a field of that name. -/
theorem mem_of_field? {name : String} {f : Field ρ} (known : l.field? name = some f) :
    f ∈ l.fields ∧ f.name = name :=
  ⟨List.mem_of_find?_eq_some known, by simpa using List.find?_some known⟩

namespace Orderless

/-- Two known fields of different names commute. -/
theorem commutes (h : l.Orderless) {f g : Field ρ} (hf : f ∈ l.fields) (hg : g ∈ l.fields)
    (ne : f.name ≠ g.name) : Field.Commutes f g := by
  apply h.commute.forall hf hg
  rintro rfl
  exact ne rfl

/-- **A field that is read again later need not be read before.** -/
theorem absorb (h : l.Orderless) {f : Field ρ} (hf : f ∈ l.fields) {j : Json}
    {fields : List (String × Json)} (again : f.name ∈ fields.map Prod.fst) {r x : ρ}
    (read : f.took j r = some x) : l.took fields x = l.took fields r := by
  induction fields generalizing r x with
  | nil => cases again
  | cons c rest ih =>
    rw [took_cons, took_cons]
    by_cases here : c.1 = f.name
    · rw [here, l.field?_name h.distinct hf]
      dsimp only
      rw [(h.settle f hf).last _ _ _ _ read]
    · have later : f.name ∈ rest.map Prod.fst := by
        rcases List.mem_cons.mp again with same | later
        · exact absurd same.symm here
        · exact later
      cases known : l.field? c.1 with
      | none => exact ih later read
      | some g =>
        obtain ⟨hg, named⟩ := mem_of_field? known
        have swapped := h.commutes hf hg (fun same => here (named ▸ same.symm)) j c.2 r
        rw [read] at swapped
        change g.took c.2 x = (g.took c.2 r).bind (f.took j) at swapped
        dsimp only
        rw [swapped]
        cases g.took c.2 r with
        | none => rfl
        | some y =>
          -- the field is read after the other one as well, since that does not depend on the record
          have steady := (h.settle f hf).steady j r y
          rw [read] at steady
          obtain ⟨x', read'⟩ := Option.isSome_iff_exists.mp steady.symm
          change (f.took j y).bind (l.took rest) = l.took rest y
          rw [read']
          exact ih later read'

/-- **Reading on top**: what is left of an object and the changes are read as the changes on top of
the object. -/
theorem took_overlay (h : l.Orderless) (changes : List (String × Json))
    {fields : List (String × Json)} {r e : ρ} (read : l.took fields r = some e) :
    l.took ((fields.filter fun f => f.1 ∉ changes.map Prod.fst) ++ changes) r =
      l.took changes e := by
  induction fields generalizing r with
  | nil =>
    obtain rfl := Option.some.inj read
    rfl
  | cons c rest ih =>
    rw [took_cons] at read
    cases known : l.field? c.1 with
    | none =>
      rw [known] at read
      by_cases changed : c.1 ∈ changes.map Prod.fst
      · rw [List.filter_cons_of_neg (by simpa using changed)]
        exact ih read
      · rw [List.filter_cons_of_pos (by simpa using changed), List.cons_append, took_cons, known]
        exact ih read
    | some f =>
      rw [known] at read
      obtain ⟨x, first, later⟩ := Option.bind_eq_some_iff.mp read
      by_cases changed : c.1 ∈ changes.map Prod.fst
      · obtain ⟨hf, named⟩ := mem_of_field? known
        rw [List.filter_cons_of_neg (by simpa using changed), ← ih later]
        apply (h.absorb hf _ first).symm
        rw [named, List.map_append]
        exact List.mem_append_right _ changed
      · rw [List.filter_cons_of_pos (by simpa using changed), List.cons_append, took_cons, known]
        dsimp only at first ⊢
        rw [first]
        exact ih later

/-- What the fields of an object with distinct names make of a record in the making. -/
theorem foldlM_addJson (h : l.Orderless) {fields : List (String × Json)}
    (distinct : (fields.map Prod.fst).Nodup) (s : Filling ρ)
    (fresh : ∀ name ∈ fields.map Prod.fst, name ∉ s.seen) :
    (fields.foldlM (l.addJson false) s).toOption.map Filling.record = l.took fields s.record := by
  induction fields generalizing s with
  | nil => rfl
  | cons c rest ih =>
    rw [List.map_cons, List.nodup_cons] at distinct
    rw [List.foldlM_cons, took_cons]
    have fresh' : ∀ name ∈ rest.map Prod.fst, name ∉ s.seen := fun name member =>
      fresh name (List.mem_cons_of_mem _ member)
    cases known : l.field? c.1 with
    | none =>
      rw [show c = (c.1, c.2) from rfl, addJson_unknown h.quiet known]
      exact ih distinct.2 s fresh'
    | some f =>
      obtain ⟨-, named⟩ := mem_of_field? known
      rw [← named] at known
      have unseen : f.name ∉ s.seen := by
        rw [named]
        exact fresh c.1 List.mem_cons_self
      rw [show c = (f.name, c.2) by rw [named], addJson_known known unseen]
      dsimp only [Field.took]
      cases (f.read s.record).ofJson c.2 with
      | error e => rfl
      | ok r =>
        apply ih distinct.2 ⟨r, f.name :: s.seen⟩
        intro name member
        rw [List.mem_cons, not_or]
        refine ⟨?_, fresh' name member⟩
        rintro rfl
        exact distinct.1 (named ▸ member)

/-- **An object with distinct names** is read as what its fields add up to. -/
theorem ofFields_iff {start r : ρ} {fs : List (Field ρ)} (h : (plain start fs).Orderless)
    {fields : List (String × Json)} (distinct : (fields.map Prod.fst).Nodup) :
    (plain start fs).ofFields false fields = .ok r ↔
      (plain start fs).took fields start = some r := by
  have filled := h.foldlM_addJson distinct ⟨start, []⟩ (fun _ _ => List.not_mem_nil)
  rw [← filled, ofFields]
  change (fields.foldlM ((plain start fs).addJson false) ⟨start, []⟩).bind
    (plain start fs).close = _ ↔ _
  cases fields.foldlM ((plain start fs).addJson false) ⟨start, []⟩ with
  | error e =>
    constructor
    · intro failed
      cases failed
    · intro failed
      cases failed
  | ok s =>
    have closed : (plain start fs).close s = .ok s.record := by
      rw [close_of_required]
      · rfl
      · intro f hf needed
        exact absurd needed (h.free f hf)
    change (plain start fs).close s = _ ↔ some s.record = some r
    rw [closed, Except.ok.injEq, Option.some.injEq]

end Orderless

/-- What is written of some fields in their order changes a record. -/
structure Changes (fs : List (Field ρ)) (r : ρ) (changes : List (String × Json)) (r' : ρ) :
    Prop where
  /-- It is read on top of the record. -/
  written : Written fs r changes r'
  /-- There is nothing in it to be merged. -/
  whole : ∀ c ∈ changes, c.2.isWhole = true

/-- One more field. -/
theorem Changes.cons {f : Field ρ} {fs : List (Field ρ)} {r r₁ r₂ : ρ}
    {part rest : List (String × Json)} (first : f.Changes r part r₁)
    (later : Changes fs r₁ rest r₂) : Changes (f :: fs) r (part ++ rest) r₂ :=
  ⟨.cons first.written later.written, List.forall_mem_append.2 ⟨first.whole, later.whole⟩⟩

/-- The last field. -/
theorem Changes.last {f : Field ρ} {r r' : ρ} {part : List (String × Json)}
    (h : f.Changes r part r') : Changes [f] r part r' :=
  ⟨.last h.written, h.whole⟩

/-- What is written in the order of a layout has its names. -/
theorem Written.sublist {fs : List (Field ρ)} {r r' : ρ} {written : List (String × Json)}
    (h : Written fs r written r') : (written.map Prod.fst).Sublist (fs.map Field.name) := by
  induction h with
  | nil => exact List.Sublist.refl _
  | @cons f fs r r₁ r₂ part rest first _ ih =>
    cases first with
    | nothing _ => exact ih.cons _
    | value _ => exact ih.cons_cons _

/-- **An object into which a patch has been merged** is read as if the patch were read after the
object, on top of what the object is read as. -/
theorem ofFields_merged {start e r : ρ} {fs : List (Field ρ)} (h : (plain start fs).Orderless)
    {fields changes : List (String × Json)} (distinct : (fields.map Prod.fst).Nodup)
    (read : (plain start fs).ofFields false fields = .ok e) (change : Changes fs e changes r) :
    (plain start fs).ofFields false (Json.mergeFields changes fields) = .ok r := by
  obtain ⟨written, whole⟩ := change
  have names : (changes.map Prod.fst).Nodup := written.sublist.nodup h.distinct
  have there : ∀ c ∈ changes, c.2.isNull = false := by
    intro c member
    have value := whole c member
    cases json : c.2 with
    | null => rw [json] at value; cases value
    | _ => rfl
  have replaced : (changes.map fun c =>
      (c.1, Json.merge c.2 ((Json.lookup fields c.1).getD .null))) = changes := by
    rw [List.map_congr_left, List.map_id]
    intro c member
    rw [Json.merge_of_whole (whole c member)]
    rfl
  rw [Json.mergeFields_eq names there, replaced]
  have merged : (((fields.filter fun f => f.1 ∉ changes.map Prod.fst) ++ changes).map
      Prod.fst).Nodup := by
    rw [List.map_append, List.nodup_append]
    refine ⟨(List.filter_sublist.map Prod.fst).nodup distinct, names, ?_⟩
    rintro name kept _ changed rfl
    obtain ⟨f, member, rfl⟩ := List.mem_map.mp kept
    exact absurd changed (by simpa using (List.mem_filter.mp member).2)
  rw [h.ofFields_iff merged, h.took_overlay changes ((h.ofFields_iff distinct).mp read)]
  exact took_of_written written fun f member => (plain start fs).field?_name h.distinct member

end Layout

end BucketProvisioning

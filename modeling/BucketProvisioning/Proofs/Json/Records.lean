import BucketProvisioning.Json.Record

/-!
# Records, field by field

A record is read one field after the other, and three things can be said of any record before its
fields are known.

* `Layout.ofFields_of_written`: fields that stand in the order of the layout, some of them left
  out, give the record that each of them contributes to in its turn.  `Field.Written` says what one
  field contributes; there is one rule for each way in which a writer treats a field: it is always
  written, left out when it is absent, or left out when it is empty.
* `Layout.ofFields_known`: fields that the layout does not know make no difference, wherever they
  stand.
* `Layout.ofItems_eq_ofFields`: an array is read as the object that names its elements in the order
  of the layout, and `Layout.length_of_ofItems` says which arrays are read at all.
-/

set_option autoImplicit false

namespace BucketProvisioning

variable {α ρ : Type}

/-! ## One field -/

namespace Field

/-- What is written of the field `f` takes the record from `r` to its second argument: nothing is
written and nothing changes, or a value is written that is read. -/
inductive Written (f : Field ρ) (r : ρ) : List (String × Json) → ρ → Prop
  /-- The field is left out. -/
  | nothing : f.need ≠ .required → Written f r [] r
  /-- The field is there. -/
  | value {j : Json} {r' : ρ} : (f.read r).ofJson j = .ok r' → Written f r [(f.name, j)] r'

section Rules

variable {name : String} {need : Need} {d : Decoder α} {store : α → ρ → ρ} {r : ρ}

/-- A value that is read back is stored. -/
theorem read_stored {j : Json} {a : α} (back : d.ofJson j = .ok a) :
    ((stored name need d store).read r).ofJson j = .ok (store a r) := by
  show ((d.ofJson j).bind fun a => .ok (store a r)) = _
  rw [back]
  rfl

/-- A field that is always written. -/
theorem Written.always {j : Json} {a : α} (back : d.ofJson j = .ok a) :
    (stored name need d store).Written r [(name, j)] (store a r) :=
  .value (read_stored back)

/-- A field that is left out on a condition under which its value is the one that the record has
already. -/
theorem Written.unless {j : Json} {a : α} {blank : Bool} (free : need ≠ .required)
    (same : blank = true → store a r = r) (back : d.ofJson j = .ok a) :
    (stored name need d store).Written r (if blank then [] else [(name, j)]) (store a r) := by
  cases blank with
  | true =>
    rw [same rfl]
    exact .nothing free
  | false => exact .always back

/-- A text that is left out when it is empty, of a record that has the empty text already. -/
theorem Written.text {store : String → ρ → ρ} {s : String} (same : store "" r = r) :
    (of name .text store).Written r (Json.textField name s) (store s r) := by
  refine .unless (by decide) (fun blank => ?_) rfl
  rw [String.isEmpty_iff.mp blank]
  exact same

/-- A value that is left out when it is absent, of a record that has none already. -/
theorem Written.option {store : Option α → ρ → ρ} {encode : α → Json} {o : Option α}
    (free : need ≠ .required) (same : store none r = r)
    (back : ∀ a, o = some a → d.optional.ofJson (encode a) = .ok (some a)) :
    (stored name need d.optional store).Written r (Json.optField name encode o) (store o r) := by
  cases o with
  | none =>
    rw [same]
    exact .nothing free
  | some a => exact .always (back a rfl)

end Rules

end Field

/-! ## All fields in their order -/

namespace Layout

/-- Written fields that stand in the order of some fields of a layout, and the record before and
after them. -/
inductive Written : List (Field ρ) → ρ → List (String × Json) → ρ → Prop
  /-- There is nothing more to write. -/
  | nil {r : ρ} : Written [] r [] r
  /-- One more field, which may be left out. -/
  | cons {f : Field ρ} {fs : List (Field ρ)} {r r₁ r₂ : ρ} {part rest : List (String × Json)} :
      f.Written r part r₁ → Written fs r₁ rest r₂ → Written (f :: fs) r (part ++ rest) r₂

/-- The last field. -/
theorem Written.last {f : Field ρ} {r r' : ρ} {part : List (String × Json)}
    (h : f.Written r part r') : Written [f] r part r' := by
  rw [← List.append_nil part]
  exact .cons h .nil

/-- A required field is always written. -/
theorem Written.required {fs : List (Field ρ)} {r r' : ρ} {written : List (String × Json)}
    (h : Written fs r written r') :
    ∀ f ∈ fs, f.need = .required → f.name ∈ written.map Prod.fst := by
  induction h with
  | nil => simp
  | @cons g fs r r₁ r₂ part rest first _ ih =>
    intro f member needed
    rw [List.map_append, List.mem_append]
    rcases List.mem_cons.mp member with rfl | later
    · left
      cases first with
      | nothing free => exact absurd needed free
      | value _ => simp
    · right
      exact ih f later needed

variable (l : Layout ρ α) {repeats : Bool}

/-- Where names are distinct, a field is found under its name. -/
theorem field?_name (distinct : (l.fields.map Field.name).Nodup) {f : Field ρ}
    (member : f ∈ l.fields) : l.field? f.name = some f := by
  rw [field?]
  generalize l.fields = fs at distinct member
  induction fs with
  | nil => cases member
  | cons g gs ih =>
    rw [List.map_cons, List.nodup_cons] at distinct
    rcases List.mem_cons.mp member with rfl | later
    · simp
    · have other : g.name ≠ f.name := fun same =>
        distinct.1 (same ▸ List.mem_map_of_mem later)
      rw [List.find?_cons_of_neg (by simpa using other)]
      exact ih distinct.2 later

variable {l}

/-- A known field that is not there yet is read. -/
theorem addJson_known {f : Field ρ} (known : l.field? f.name = some f) {s : Filling ρ}
    (fresh : f.name ∉ s.seen) (j : Json) :
    l.addJson repeats s (f.name, j) =
      ((f.read s.record).ofJson j).map fun r => ⟨r, f.name :: s.seen⟩ := by
  have permitted : permit repeats f.name s = .ok () := by simp [permit, fresh]
  simp only [addJson, known, permitted]
  cases (f.read s.record).ofJson j <;> rfl

/-- A field that is not known makes no difference. -/
theorem addJson_unknown (quiet : l.other = none) {name : String} (unknown : l.field? name = none)
    (s : Filling ρ) (j : Json) : l.addJson repeats s (name, j) = .ok s := by
  simp only [addJson, unknown, quiet]
  rfl

/-- What written fields make of a record in the making. -/
theorem foldlM_of_written (repeats : Bool) {fs : List (Field ρ)} {r r' : ρ}
    {written : List (String × Json)} (h : Written fs r written r')
    (known : ∀ f ∈ fs, l.field? f.name = some f)
    (distinct : (fs.map Field.name).Nodup) (seen : List String)
    (fresh : ∀ f ∈ fs, f.name ∉ seen) :
    written.foldlM (l.addJson repeats) ⟨r, seen⟩ =
      .ok ⟨r', (written.map Prod.fst).reverse ++ seen⟩ := by
  induction h generalizing seen with
  | nil => rfl
  | @cons f fs r r₁ r₂ part rest first _ ih =>
    rw [List.map_cons, List.nodup_cons] at distinct
    have known' : ∀ g ∈ fs, l.field? g.name = some g := fun g hg =>
      known g (List.mem_cons_of_mem f hg)
    cases first with
    | nothing _ =>
      exact ih known' distinct.2 seen fun g hg => fresh g (List.mem_cons_of_mem f hg)
    | @value j _ back =>
      have next := ih known' distinct.2 (f.name :: seen) fun g hg => by
        rw [List.mem_cons, not_or]
        exact ⟨fun same => distinct.1 (same ▸ List.mem_map_of_mem hg),
          fresh g (List.mem_cons_of_mem f hg)⟩
      rw [List.singleton_append, List.foldlM_cons,
        addJson_known (known f List.mem_cons_self) (fresh f List.mem_cons_self), back]
      show rest.foldlM (l.addJson repeats) ⟨r₁, f.name :: seen⟩ = _
      rw [next, List.map_cons, List.reverse_cons, List.append_assoc]
      rfl

/-- A record that no required field is missing of is finished. -/
theorem close_of_required {s : Filling ρ}
    (there : ∀ f ∈ l.fields, f.need = .required → f.name ∈ s.seen) :
    l.close s = l.finish s.record := by
  have none_missing : (l.fields.find? fun f => f.need = .required && f.name ∉ s.seen) = none := by
    rw [List.find?_eq_none]
    intro f member missing
    simp only [Bool.and_eq_true, decide_eq_true_eq] at missing
    exact missing.2 (there f member missing.1)
  rw [close, none_missing]

/-- **Written fields are read.** Fields in the order of the layout, each of them left out or there,
give the record that they add up to. -/
theorem ofFields_of_written (distinct : (l.fields.map Field.name).Nodup) {r : ρ}
    {written : List (String × Json)} (h : Written l.fields l.start written r) :
    l.ofFields repeats written = l.finish r := by
  have filled := foldlM_of_written repeats h (fun f hf => l.field?_name distinct hf) distinct []
    fun f _ => List.not_mem_nil
  rw [ofFields, filled]
  apply close_of_required
  intro f member needed
  simpa using h.required f member needed

/-! ## Fields that are not known -/

/-- **Unknown fields make no difference.** The fields of an object may be interspersed with others,
if nothing is made of others. -/
theorem ofFields_known (quiet : l.other = none) (repeats : Bool)
    (fields : List (String × Json)) :
    l.ofFields repeats fields =
      l.ofFields repeats (fields.filter fun f => f.1 ∈ l.fields.map Field.name) := by
  have same : ∀ s, fields.foldlM (l.addJson repeats) s =
      (fields.filter fun f => f.1 ∈ l.fields.map Field.name).foldlM (l.addJson repeats) s := by
    induction fields with
    | nil => intro s; rfl
    | cons f fs ih =>
      intro s
      by_cases known : f.1 ∈ l.fields.map Field.name
      · rw [List.filter_cons_of_pos (by simpa using known), List.foldlM_cons, List.foldlM_cons]
        cases l.addJson repeats s f with
        | error e => rfl
        | ok s' => exact ih s'
      · rw [List.filter_cons_of_neg (by simpa using known), List.foldlM_cons]
        have unknown : l.field? f.1 = none := by
          rw [field?, List.find?_eq_none]
          intro g member same
          exact known (List.mem_map.mpr ⟨g, member, by simpa using same⟩)
        rw [show f = (f.1, f.2) from rfl, addJson_unknown quiet unknown]
        exact ih s
  rw [ofFields, ofFields, same]

/-! ## Fields by position -/

/-- The elements of an array as fields, and the same fields by name. -/
theorem foldlM_zip (whole : String) {fs : List (Field ρ)} (items : List Json)
    (known : ∀ f ∈ fs, l.field? f.name = some f) (distinct : (fs.map Field.name).Nodup)
    (fits : items.length ≤ fs.length) (rest : ∀ f ∈ fs.drop items.length, f.need = .defaulted)
    (i : Nat) (r : ρ) (seen : List String) (fresh : ∀ f ∈ fs, f.name ∉ seen) :
    ((fs.map Field.name).zip items).foldlM (l.addJson repeats) ⟨r, seen⟩ =
      (addItems whole fs i items r).map fun r' =>
        ⟨r', ((fs.map Field.name).take items.length).reverse ++ seen⟩ := by
  induction fs generalizing items i r seen with
  | nil =>
    obtain rfl : items = [] := List.eq_nil_of_length_eq_zero (Nat.le_zero.mp fits)
    rfl
  | cons f fs ih =>
    rw [List.map_cons, List.nodup_cons] at distinct
    have known' : ∀ g ∈ fs, l.field? g.name = some g := fun g hg =>
      known g (List.mem_cons_of_mem f hg)
    cases items with
    | nil =>
      -- All the fields that are left have a default, so that an array may end here.
      have next := ih [] known' distinct.2 (Nat.zero_le _)
        (fun g hg => rest g (List.mem_cons_of_mem f hg)) (i + 1) r seen
        fun g hg => fresh g (List.mem_cons_of_mem f hg)
      rw [List.zip_nil_right] at next ⊢
      rw [addItems, if_pos (rest f List.mem_cons_self)]
      exact next
    | cons j js =>
      rw [List.map_cons, List.zip_cons_cons, List.foldlM_cons,
        addJson_known (known f List.mem_cons_self) (fresh f List.mem_cons_self), addItems]
      cases (f.read r).ofJson j with
      | error e => rfl
      | ok r' =>
        have next := ih js known' distinct.2 (Nat.le_of_succ_le_succ fits) rest (i + 1)
          r' (f.name :: seen) fun g hg => by
            rw [List.mem_cons, not_or]
            exact ⟨fun same => distinct.1 (same ▸ List.mem_map_of_mem hg),
              fresh g (List.mem_cons_of_mem f hg)⟩
        rw [List.length_cons, List.take_succ_cons, List.reverse_cons, List.append_assoc]
        exact next

/-- **Positions stand for names.** An array that is not longer than the layout, and that ends where
every further field has a default, is read as the object that names its elements. -/
theorem ofItems_eq_ofFields {whole : String} (distinct : (l.fields.map Field.name).Nodup)
    {items : List Json} (fits : items.length ≤ l.fields.length)
    (rest : ∀ f ∈ l.fields.drop items.length, f.need = .defaulted) :
    l.ofItems whole items = l.ofFields false ((l.fields.map Field.name).zip items) := by
  rw [ofFields, foldlM_zip whole items (fun f hf => l.field?_name distinct hf) distinct fits rest 0
    l.start [] fun f _ => List.not_mem_nil, ofItems]
  cases addItems whole l.fields 0 items l.start with
  | error e => rfl
  | ok r =>
    show _ = l.close ⟨r, _⟩
    rw [close_of_required]
    · show (l.finish r >>= fun a => _) = l.finish r
      cases l.finish r with
      | error e => rfl
      | ok a =>
        show (if l.fields.length < items.length then _ else _) = _
        rw [if_neg (Nat.not_lt.mpr fits)]
        rfl
    · -- What the array does not reach has a default, so a required field is among its elements.
      intro f member needed
      rw [List.append_nil, List.mem_reverse, ← List.map_take]
      rw [← List.take_append_drop items.length l.fields, List.mem_append] at member
      rcases member with reached | beyond
      · exact List.mem_map_of_mem reached
      · rw [rest f beyond] at needed
        cases needed

/-- An array ends only where every further field has a default. -/
theorem rest_of_addItems {whole : String} {fs : List (Field ρ)} {i : Nat} {items : List Json}
    {r r' : ρ} (h : addItems whole fs i items r = .ok r') :
    ∀ f ∈ fs.drop items.length, f.need = .defaulted := by
  induction fs generalizing i items r with
  | nil => simp
  | cons f fs ih =>
    cases items with
    | nil =>
      rw [addItems] at h
      split at h
      · next free =>
        intro g member
        rcases List.mem_cons.mp member with rfl | later
        · exact free
        · exact ih h g later
      · cases h
    | cons j js =>
      rw [addItems] at h
      cases found : (f.read r).ofJson j with
      | error e => rw [found] at h; cases h
      | ok r₁ =>
        rw [found] at h
        exact ih h

/-- **Which arrays are read.** None that is longer than the layout, and none that ends before a
field without a default. -/
theorem length_of_ofItems {whole : String} {items : List Json} {a : α}
    (h : l.ofItems whole items = .ok a) :
    items.length ≤ l.fields.length ∧ ∀ f ∈ l.fields.drop items.length, f.need = .defaulted := by
  rw [ofItems] at h
  cases added : addItems whole l.fields 0 items l.start with
  | error e => rw [added] at h; cases h
  | ok r =>
    refine ⟨Nat.not_lt.mp fun long => ?_, rest_of_addItems added⟩
    rw [added] at h
    change (l.finish r >>= fun a => _) = _ at h
    cases finished : l.finish r with
    | error e => rw [finished] at h; cases h
    | ok b =>
      rw [finished] at h
      change (if l.fields.length < items.length then _ else _) = _ at h
      rw [if_pos long] at h
      cases h

end Layout

end BucketProvisioning

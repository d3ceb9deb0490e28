import BucketProvisioning.Key

/-!
# Keys and their texts

Stores hold keys as they are and queues hold their texts.  `ObjectKey.parse_eq_ok` says which texts
are read as which keys: those that a well-formed key is written as.  So a well-formed key survives
the way through a queue (`parse_text`), and no two keys are read from one text.
-/

set_option autoImplicit false

namespace BucketProvisioning

open BucketProvisioning.Text
open BucketProvisioning.Resource (Object)

namespace Text

variable {α : Type} {p : α → Bool}

/-- What holds no separator is one piece. -/
theorem pieces_of_none {as : List α} (none : ∀ a ∈ as, p a = false) : pieces p as = [as] := by
  induction as with
  | nil => rfl
  | cons a as ih =>
    rw [List.forall_mem_cons] at none
    rw [pieces_cons, ih none.2]
    simp [addToPieces, none.1]

/-- What stands before the first separator is the first piece. -/
theorem pieces_append_cons {as bs : List α} {c : α} (none : ∀ a ∈ as, p a = false)
    (sep : p c = true) : pieces p (as ++ c :: bs) = as :: pieces p bs := by
  induction as with
  | nil =>
    rw [List.nil_append, pieces_cons]
    cases rest : pieces p bs with
    | nil => exact absurd rest (pieces_ne_nil p bs)
    | cons piece more => simp [addToPieces, sep]
  | cons a as ih =>
    rw [List.forall_mem_cons] at none
    rw [List.cons_append, pieces_cons, ih none.2]
    simp [addToPieces, none.1]

/-- A list holds no separator, or it has a first one. -/
theorem first_separator (p : α → Bool) (as : List α) :
    (∀ a ∈ as, p a = false) ∨
      ∃ before c after, as = before ++ c :: after ∧ (∀ a ∈ before, p a = false) ∧ p c = true := by
  induction as with
  | nil => exact Or.inl (by simp)
  | cons a as ih =>
    cases first : p a with
    | true => exact Or.inr ⟨[], a, as, rfl, by simp, first⟩
    | false =>
      rcases ih with none | ⟨before, c, after, rfl, none, sep⟩
      · exact Or.inl (List.forall_mem_cons.2 ⟨first, none⟩)
      · exact Or.inr ⟨a :: before, c, after, rfl, List.forall_mem_cons.2 ⟨first, none⟩, sep⟩

end Text

namespace ObjectKey

/-- A key has a name, and a namespace is not empty if there is one. -/
structure Named (k : ObjectKey) : Prop where
  /-- The name is not empty. -/
  name : k.name ≠ ""
  /-- The namespace is not empty. -/
  ns : ∀ ns, k.ns = some ns → ns ≠ ""

/-- No part of a key holds a slash. -/
structure SlashFree (k : ObjectKey) : Prop where
  /-- The name holds none. -/
  name : '/' ∉ k.name.toList
  /-- The namespace holds none. -/
  ns : ∀ ns, k.ns = some ns → '/' ∉ ns.toList

/-- A key whose parts are neither empty nor hold a slash. -/
structure WellFormed (k : ObjectKey) : Prop where
  /-- No part is empty. -/
  named : k.Named
  /-- No part holds a slash. -/
  slashFree : k.SlashFree

/-- The pieces between slashes are those of the characters. -/
theorem splitAll_of_none {s : String} (none : '/' ∉ s.toList) : splitAll '/' s = [s] := by
  unfold splitAll
  rw [pieces_of_none fun a ha => by simpa using fun same : a = '/' => none (same ▸ ha)]
  simp

/-- A text is split at its first slash, and what follows is split further. -/
theorem splitAll_of_first {s before after : String}
    (split : s.toList = before.toList ++ '/' :: after.toList) (none : '/' ∉ before.toList) :
    splitAll '/' s = before :: splitAll '/' after := by
  unfold splitAll
  rw [split, pieces_append_cons (fun a ha => by simpa using fun same : a = '/' => none (same ▸ ha))
    (by simp)]
  simp

/-- A text holds no slash, or it has a first one. -/
theorem first_slash (s : String) : '/' ∉ s.toList ∨ ∃ before after : String,
    s.toList = before.toList ++ '/' :: after.toList ∧ '/' ∉ before.toList := by
  rcases first_separator (· = '/') s.toList with none | ⟨before, c, after, split, none, sep⟩
  · exact Or.inl fun mem => by simpa using none '/' mem
  · refine Or.inr ⟨String.ofList before, String.ofList after, ?_, fun mem => ?_⟩
    · rw [String.toList_ofList, String.toList_ofList, split, of_decide_eq_true sep]
    · rw [String.toList_ofList] at mem
      simpa using none '/' mem

/-- **Reading and writing keys fit together**: a text is read as a key exactly if the key is
well-formed and is written as that text. -/
theorem parse_eq_ok {s : String} {k : ObjectKey} :
    parse s = .ok k ↔ k.WellFormed ∧ k.text = s := by
  constructor
  · intro read
    rcases first_slash s with none | ⟨ns, rest, split, nsFree⟩
    · unfold parse at read
      rw [splitAll_of_none none] at read
      by_cases empty : s.isEmpty = true
      · simp [empty, parse.malformed] at read
      · simp only [empty, Bool.false_eq_true, if_false, Except.ok.injEq] at read
        subst read
        have name : s ≠ "" := by simpa using empty
        exact ⟨⟨⟨name, by simp [cluster]⟩, ⟨none, by simp [cluster]⟩⟩, rfl⟩
    · unfold parse at read
      rw [splitAll_of_first split nsFree] at read
      rcases first_slash rest with none | ⟨name, more, split', nameFree⟩
      · rw [splitAll_of_none none] at read
        by_cases empty : (ns.isEmpty || rest.isEmpty) = true
        · simp [empty, parse.malformed] at read
        · simp only [empty, Bool.false_eq_true, if_false, Except.ok.injEq] at read
          subst read
          simp only [Bool.or_eq_true, String.isEmpty_iff, not_or] at empty
          refine ⟨⟨⟨empty.2, ?_⟩, ⟨none, ?_⟩⟩, ?_⟩
          · rintro _ ⟨⟩
            exact empty.1
          · rintro _ ⟨⟩
            exact nsFree
          · apply String.toList_injective
            simp [text, namespaced, split]
      · rw [splitAll_of_first split' nameFree] at read
        cases pieces : splitAll '/' more with
        | nil => simp [splitAll, pieces_ne_nil] at pieces
        | cons piece others => simp [pieces, parse.malformed] at read
  · rintro ⟨⟨⟨name, ns⟩, ⟨nameFree, nsFree⟩⟩, rfl⟩
    obtain ⟨space, word⟩ := k
    cases space with
    | none =>
      have split : splitAll '/' word = [word] := splitAll_of_none nameFree
      have nonempty : word.isEmpty = false := by simpa using name
      simp [text, parse, split, nonempty, cluster]
    | some space =>
      have split : splitAll '/' (space ++ "/" ++ word) = [space, word] := by
        have first : (space ++ "/" ++ word).toList = space.toList ++ '/' :: word.toList := by simp
        rw [splitAll_of_first first (nsFree space rfl), splitAll_of_none nameFree]
      have nonempty : (space.isEmpty || word.isEmpty) = false := by
        simpa using ⟨ns space rfl, name⟩
      simp only [text, parse, split, nonempty]
      rfl

/-- A well-formed key survives being written and read. -/
theorem parse_text {k : ObjectKey} (h : k.WellFormed) : parse k.text = .ok k :=
  parse_eq_ok.2 ⟨h, rfl⟩

/-- A text that is read as a key is the text of that key. -/
theorem text_of_parse {s : String} {k : ObjectKey} (h : parse s = .ok k) : k.text = s :=
  (parse_eq_ok.1 h).2

/-- The key of an object is named. -/
theorem named_of_ofObject? {α : Type} [Object α] {obj : α} {k : ObjectKey}
    (h : ofObject? obj = some k) : k.Named := by
  unfold ofObject? at h
  cases name : (Object.metadata obj).name with
  | none => simp [name] at h
  | some word =>
    simp only [name] at h
    by_cases empty : word.isEmpty = true
    · simp [empty] at h
    · simp only [empty, Bool.false_eq_true, if_false, Option.some.injEq] at h
      subst h
      refine ⟨by simpa using empty, ?_⟩
      intro ns kept
      have nonempty := (Option.filter_eq_some_iff.1 kept).2
      simpa using nonempty

end ObjectKey

end BucketProvisioning

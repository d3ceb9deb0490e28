/-!
# Histories

A history lists what happened, the latest first.  `Since p q h` says that something of the sort
`p` happened and nothing of the sort `q` has happened since; `since_cons` is how it changes with
everything that happens.
-/

set_option autoImplicit false

namespace BucketProvisioning

variable {ε : Type}

/-- Something of the sort `p` happened, and nothing of the sort `q` has happened since. -/
def Since (p q : ε → Prop) (h : List ε) : Prop :=
  ∃ later e earlier, h = later ++ e :: earlier ∧ p e ∧ ∀ x ∈ later, ¬ q x

variable {p q : ε → Prop}

/-- Nothing has happened in an empty history. -/
@[simp] theorem not_since_nil : ¬ Since p q [] := by
  rintro ⟨later, e, earlier, split, -, -⟩
  simp at split

/-- What has happened since did happen. -/
theorem exists_of_since {h : List ε} (since : Since p q h) : ∃ e ∈ h, p e := by
  obtain ⟨later, e, earlier, rfl, he, -⟩ := since
  exact ⟨e, by simp, he⟩

/-- The latest event has made it so, or it has not undone what was so before. -/
theorem since_cons (e : ε) (h : List ε) :
    Since p q (e :: h) ↔ p e ∨ (¬ q e ∧ Since p q h) := by
  constructor
  · rintro ⟨later, d, earlier, split, hd, none⟩
    cases later with
    | nil =>
      obtain ⟨rfl, -⟩ := List.cons_eq_cons.1 split
      exact Or.inl hd
    | cons x later =>
      obtain ⟨rfl, rfl⟩ := List.cons_eq_cons.1 split
      rw [List.forall_mem_cons] at none
      exact Or.inr ⟨none.1, later, d, earlier, rfl, hd, none.2⟩
  · rintro (he | ⟨he, later, d, earlier, rfl, hd, none⟩)
    · exact ⟨[], e, h, rfl, he, by simp⟩
    · exact ⟨e :: later, d, earlier, rfl, hd, List.forall_mem_cons.2 ⟨he, none⟩⟩

/-- Whether something happened since can be read off the history. -/
instance decidableSince [DecidablePred p] [DecidablePred q] : DecidablePred (Since p q)
  | [] => isFalse not_since_nil
  | e :: h =>
    haveI := decidableSince h
    decidable_of_iff _ (since_cons e h).symm

end BucketProvisioning

/-!
# Blank characters

The white space of the Unicode standard (property `White_Space`), and trimming by it.
-/

set_option autoImplicit false

namespace BucketProvisioning.Text

/-- The code points with the property `White_Space`, as closed ranges in ascending order. -/
def blankRanges : List (Nat × Nat) := [
  (0x9, 0xD), (0x20, 0x20), (0x85, 0x85), (0xA0, 0xA0), (0x1680, 0x1680), (0x2000, 0x200A),
  (0x2028, 0x2029), (0x202F, 0x202F), (0x205F, 0x205F), (0x3000, 0x3000)]

/-- Whether a character is white space. -/
def isBlank (c : Char) : Bool :=
  blankRanges.any fun r => r.1 ≤ c.toNat && c.toNat ≤ r.2

/-- A text without the blanks at its two ends. -/
def trim (s : String) : String :=
  String.ofList
    (((s.toList.dropWhile isBlank).reverse.dropWhile isBlank).reverse)

/-- The two sides of the first `c` in a text, if it has one. -/
def splitFirst (c : Char) (s : String) : Option (String × String) :=
  match s.toList.dropWhile (· ≠ c) with
  | _ :: rest => some (String.ofList (s.toList.takeWhile (· ≠ c)), String.ofList rest)
  | [] => none

/-- Adds an element in front of pieces: one that satisfies `p` begins a new piece. -/
def addToPieces {α : Type} (p : α → Bool) (a : α) : List (List α) → List (List α)
  | [] => if p a then [[], []] else [[a]]
  | piece :: rest => if p a then [] :: piece :: rest else (a :: piece) :: rest

/-- The pieces of a list between the elements that satisfy `p`; there is always one more piece
than such elements. -/
def pieces {α : Type} (p : α → Bool) (as : List α) : List (List α) :=
  as.foldr (addToPieces p) [[]]

/-- An empty list is one empty piece. -/
@[simp] theorem pieces_nil {α : Type} (p : α → Bool) : pieces p ([] : List α) = [[]] := rfl

/-- Pieces are put together from the back. -/
@[simp] theorem pieces_cons {α : Type} (p : α → Bool) (a : α) (as : List α) :
    pieces p (a :: as) = addToPieces p a (pieces p as) := rfl

/-- There is at least one piece. -/
theorem pieces_ne_nil {α : Type} (p : α → Bool) (as : List α) : pieces p as ≠ [] := by
  cases as with
  | nil => simp
  | cons a as =>
    rw [pieces_cons]
    cases pieces p as <;> simp only [addToPieces] <;> split <;> simp

/-- The pieces of a text between the occurrences of `c`. -/
def splitAll (c : Char) (s : String) : List String :=
  (pieces (· = c) s.toList).map String.ofList

end BucketProvisioning.Text

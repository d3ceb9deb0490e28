import BucketProvisioning.Number.Binary64

/-!
# How alike two texts are

The likeness of two texts is a number between zero and one: characters of the two texts match
if they are equal and their places are not far from each other, and the likeness is the mean
of the matched share of either text and of the share of the matches that keep their order.

`closest?` picks the word that comes nearest to a text, for hints about misspelt words.
-/

set_option autoImplicit false

namespace BucketProvisioning.Text

open BucketProvisioning.Number

/-- How far from each other the places of matching characters may be. -/
def matchingReach (a b : List Char) : Nat := max a.length b.length / 2 - 1

/-- The first place of `b`, of those from `lo` and before `hi` that are not `taken`, with the
character `c`. -/
def matchingPlace? (b : List Char) (taken : List Nat) (c : Char) (lo hi : Nat) : Option Nat :=
  (List.range' lo (min b.length hi - lo)).find? fun j => b[j]? = some c && !taken.contains j

/-- The matches of two texts: each matched character of the first with its place in the second, in
the order of the first.  A place is matched once. -/
def matchesOf (a b : List Char) : List (Char × Nat) :=
  let reach := matchingReach a b
  (a.zipIdx.foldl (fun found x =>
    match matchingPlace? b (found.map Prod.snd) x.1 (x.2 - reach) (x.2 + reach + 1) with
    | some j => (x.1, j) :: found
    | none => found) []).reverse

/-- How often two matched characters have changed places. -/
def transpositions (b : List Char) (found : List (Char × Nat)) : Nat :=
  let places := (found.map Prod.snd).mergeSort
  ((found.zip places).countP fun x => b[x.2]? ≠ some x.1.1) / 2

/-- The likeness of two texts. -/
def likeness (a b : List Char) : Binary64 :=
  let found := matchesOf a b
  let share (part whole : Nat) : Binary64 := (Binary64.ofNat part).div (.ofNat whole)
  if a.isEmpty && b.isEmpty then .one
  else if found.isEmpty then .zero false
  else
    let m := found.length
    (((share m a.length).add (share m b.length)).add (share (m - transpositions b found) m)).div
      (.ofNat 3)

/-- A word is suggested if it is more alike than this. -/
def likenessThreshold : Binary64 := .ofQuotient false 7 10

/-- The word that is most like a text, the last of several, if one is alike at all. -/
def closest? (text : String) (words : List String) : Option String :=
  (words.foldl (fun best w =>
    let x := likeness text.toList w.toList
    match best with
    | some (y, v) => if likenessThreshold.lt x && !x.lt y then some (x, w) else some (y, v)
    | none => if likenessThreshold.lt x then some (x, w) else none)
    (none : Option (Binary64 × String))).map Prod.snd

end BucketProvisioning.Text

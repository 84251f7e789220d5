/-!
# Similarity of texts

Two texts are compared by their longest common block, then by the longest common blocks to its
left and to its right, and so on. The similarity is the share of characters that lie in such
blocks. A text that is similar enough to a wrong key is what its writer probably meant.

## Main definitions

* `Similarity.longestBlock`: the longest common block of two texts.
* `Similarity.matched`: the number of characters in common blocks.
* `Similarity.closest?`: the most similar text of a list, if it is similar enough.
-/

namespace ProjectLint.Text.Similarity

/-- The length of the longest common beginning of two texts. -/
def commonStart : List Char → List Char → Nat
  | a :: as, b :: bs => if a = b then commonStart as bs + 1 else 0
  | _, _ => 0

/-- A common block: where it begins in either text, and its length. -/
structure Block where
  /-- The number of characters before it in the first text. -/
  left : Nat
  /-- The number of characters before it in the second text. -/
  right : Nat
  /-- Its length. -/
  size : Nat
  deriving DecidableEq, Repr

/-- The longer of two blocks; of two equally long ones the first. -/
def Block.longer (x y : Block) : Block := if x.size < y.size then y else x

/-- The longest block that begins at the front of `as`, `i` characters into the first text; `j`
characters of the second text stand before `bs`. -/
def longestHere (as : List Char) (i : Nat) : List Char → Nat → Block
  | [], j => ⟨i, j, 0⟩
  | b :: bs, j => (Block.mk i j (commonStart as (b :: bs))).longer (longestHere as i bs (j + 1))

/-- The longest common block from `i` characters into the first text on. -/
def longestFrom (bs : List Char) : List Char → Nat → Block
  | [], i => ⟨i, 0, 0⟩
  | a :: as, i => (longestHere (a :: as) i bs 0).longer (longestFrom bs as (i + 1))

/-- The longest common block of two texts: of several, the one that begins first in the first
text, and of these the one that begins first in the second. -/
def longestBlock (as bs : List Char) : Block := longestFrom bs as 0

/-- The number of characters in common blocks, where `fuel` bounds the depth of the search. -/
def matchedWithin : (fuel : Nat) → List Char → List Char → Nat
  | 0, _, _ => 0
  | fuel + 1, as, bs =>
    let block := longestBlock as bs
    if block.size = 0 then 0
    else
      matchedWithin fuel (as.take block.left) (bs.take block.right) + block.size +
        matchedWithin fuel (as.drop (block.left + block.size)) (bs.drop (block.right + block.size))

/-- The number of characters of the first text that lie in blocks common with the second. Each
block shortens the first text, so its length bounds the depth of the search. -/
def matched (as bs : List Char) : Nat := matchedWithin (as.length + 1) as bs

/-- The similarity of two texts, as a fraction: twice the matched characters over all. -/
structure Ratio where
  /-- Twice the number of matched characters. -/
  twiceMatched : Nat
  /-- The number of characters of both texts. -/
  total : Nat

/-- The similarity of two texts. -/
def ratio (as bs : List Char) : Ratio := ⟨2 * matched as bs, as.length + bs.length⟩

/-- A similarity of at least three fifths. -/
def Ratio.isClose (r : Ratio) : Bool := 3 * r.total ≤ 5 * r.twiceMatched

/-- A smaller similarity. -/
def Ratio.lt (r s : Ratio) : Bool := r.twiceMatched * s.total < s.twiceMatched * r.total

/-- The more similar of two candidates; of two equally similar ones the greater text. -/
def better (x y : Ratio × String) : Ratio × String :=
  if x.1.lt y.1 then y else if y.1.lt x.1 then x else if x.2 < y.2 then y else x

/-- The candidate most similar to a text, if its similarity is at least three fifths. -/
def closest? (text : String) (candidates : List String) : Option String :=
  let rated := candidates.map fun c => (ratio c.toList text.toList, c)
  match rated.filter fun rc => rc.1.isClose with
  | [] => none
  | rc :: rest => some (rest.foldl better rc).2

end ProjectLint.Text.Similarity

import DepAtlas.Listing
import DepAtlas.Text.Uneven

/-!
# Resemblance of words

How alike two words are: the share of their letters that lie in common blocks.  The
longest common block is taken first, then the blocks on its left and on its right.  Of
equally long blocks, the one that begins earliest in the first word is taken, and of
those the one that begins earliest in the second.

Words are spelled out.  Their letters are the numbers that are spelled.
-/

namespace DepAtlas.Text

/-- A run of letters that two words have in common. -/
structure Block where
  /-- Where the block begins in the first word. -/
  first : Nat := 0
  /-- Where the block begins in the second word. -/
  second : Nat := 0
  size : Nat := 0
  deriving DecidableEq, Repr

/-- How much two words have in common at their beginnings. -/
def commonStart : List Nat → List Nat → Nat
  | a :: as, b :: bs => if a = b then commonStart as bs + 1 else 0
  | _, _ => 0

/-- The block of two words that begins at two positions. -/
def blockAt (a b : List Nat) (first second : Nat) : Block :=
  ⟨first, second, commonStart (a.drop first) (b.drop second)⟩

/-- The longest common block of two words. -/
def longestBlock (a b : List Nat) : Block :=
  let blocks := (List.range a.length).flatMap fun first =>
    (List.range b.length).map fun second => blockAt a b first second
  blocks.foldl (fun best block => if best.size < block.size then block else best) {}

/-- The number of letters in common blocks. -/
def sharedLetters (a b : List Nat) : Nat :=
  match longestBlock a b with
  | ⟨first, second, size⟩ =>
      if 0 < size ∧ first < a.length then
        sharedLetters (a.take first) (b.take second) + size +
          sharedLetters (a.drop (first + size)) (b.drop (second + size))
      else 0
termination_by a.length
decreasing_by
  all_goals
    simp only [List.length_take, List.length_drop]
    omega

/-- How alike two words are, as a fraction of letters in common blocks to all letters. -/
structure Resemblance where
  word : String
  shared : Nat
  length : Nat
  deriving DecidableEq, Repr

namespace Resemblance

/-- Compare a word with another one. -/
def of (other word : String) : Resemblance :=
  let letters := spelledNumbers word.toList
  let others := spelledNumbers other.toList
  ⟨word, sharedLetters letters others, letters.length + others.length⟩

/-- At least three fifths of all letters lie in common blocks. -/
def isClose (resemblance : Resemblance) : Bool :=
  3 * resemblance.length ≤ 10 * resemblance.shared

/-- The order from the most to the least alike; equally alike words come in descending
order. -/
def before (a b : Resemblance) : Bool :=
  if a.shared * b.length = b.shared * a.length then decide (b.word ≤ a.word)
  else decide (b.shared * a.length < a.shared * b.length)

end Resemblance

/-- Whether two words can be close at all: all letters of the shorter one would have to
suffice. -/
def canBeClose (other word : String) : Bool :=
  let letters := (spelledNumbers word.toList).length
  let others := (spelledNumbers other.toList).length
  3 * (letters + others) ≤ 10 * min letters others

/-- The words that resemble another one most, at most three, in ascending order. -/
def resembling (other : String) (words : List String) : List String :=
  let candidates := (words.filter (canBeClose other)).map (Resemblance.of other)
  let close := candidates.filter Resemblance.isClose
  ascending (((close.mergeSort Resemblance.before).take 3).map (·.word))

/-- The block in the middle is taken first, then the letters around it. -/
example : sharedLetters [1, 2, 3, 4] [1, 2, 3, 5, 4] = 4 := by
  cbv

end DepAtlas.Text

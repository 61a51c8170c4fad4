namespace AlertRange.Text

def commonPrefix : List Char → List Char → Nat
  | a :: as, b :: bs => if a = b then commonPrefix as bs + 1 else 0
  | _, _ => 0

structure Block where
  left : Nat
  right : Nat
  size : Nat

def Block.longer (a b : Block) : Block :=
  if a.size < b.size then b else a

/-- The longest block that starts at the head of the left word, the first such in the right word. -/
def longestAt (left : Nat) (as : List Char) : Nat → List Char → Block
  | right, [] => ⟨left, right, 0⟩
  | right, b :: bs => Block.longer ⟨left, right, commonPrefix as (b :: bs)⟩ (longestAt left as (right + 1) bs)

def longestBlock (bs : List Char) : Nat → List Char → Block
  | left, [] => ⟨left, 0, 0⟩
  | left, a :: as => Block.longer (longestAt left (a :: as) 0 bs) (longestBlock bs (left + 1) as)

/-- The number of characters in matching blocks. Each block takes at least one character of the left
word, so as many rounds as it has characters are enough. -/
def matchingWithin : Nat → List Char → List Char → Nat
  | 0, _, _ => 0
  | rounds + 1, as, bs =>
    let block := longestBlock bs 0 as
    if block.size = 0 then 0
    else
      matchingWithin rounds (as.take block.left) (bs.take block.right) + block.size +
        matchingWithin rounds (as.drop (block.left + block.size)) (bs.drop (block.right + block.size))

def matching (as bs : List Char) : Nat :=
  matchingWithin as.length as bs

def similar (word candidate : String) : Bool :=
  3 * (word.length + candidate.length) ≤ 10 * matching candidate.toList word.toList

/-- Whether the first candidate is the better match for a word: the likeness is twice the number of
matching characters over the number of all. Of equals the later in the alphabet is better. -/
def better (word a b : String) : Bool :=
  let left := matching a.toList word.toList * (word.length + b.length)
  let right := matching b.toList word.toList * (word.length + a.length)
  right < left || (left == right && b ≤ a)

def suggestions (word : String) (candidates : List String) : List String :=
  ((candidates.filter (similar word)).mergeSort (better word)).take 3

end AlertRange.Text

namespace AlertRange.Markup

structure Tag where
  name : String
  parameters : Option String
  deriving DecidableEq

namespace Tag

def ofBody (body : List Char) : Tag where
  name := .ofList (body.takeWhile (· != '='))
  parameters := if '=' ∈ body then some (.ofList ((body.dropWhile (· != '=')).drop 1)) else none

def text (tag : Tag) : String :=
  match tag.parameters with
  | none => "[" ++ tag.name ++ "]"
  | some parameters => "[" ++ tag.name ++ "=" ++ parameters ++ "]"

def isClosing (tag : Tag) : Bool :=
  ['/'].isPrefixOf tag.name.toList

def isStart (c : Char) : Bool :=
  ('a' ≤ c && c ≤ 'z') || c = '#' || c = '/' || c = '@'

def isInner (c : Char) : Bool :=
  c != '[' && c != ']'

def body? : List Char → Option (List Char × List Char)
  | [] => none
  | c :: cs =>
    if isStart c then
      match cs.dropWhile isInner with
      | ']' :: rest => some (c :: cs.takeWhile isInner, rest)
      | _ => none
    else none

theorem body?_length {cs body rest : List Char} (found : body? cs = some (body, rest)) :
    rest.length < cs.length := by
  cases cs with
  | nil => cases found
  | cons c cs =>
    have shorter := (List.dropWhile_suffix isInner (l := cs)).length_le
    simp only [body?] at found
    split at found
    · split at found
      · next tail =>
        cases found
        rw [tail] at shorter
        simp only [List.length_cons] at shorter ⊢
        omega
      · cases found
    · cases found

end Tag

structure Escaped where
  slashes : Nat
  body : List Char

def isSlash (c : Char) : Bool :=
  c = '\\'

def tag? (cs : List Char) : Option (Escaped × List Char) :=
  match cs.dropWhile isSlash with
  | '[' :: inner =>
    (Tag.body? inner).map fun found => (⟨(cs.takeWhile isSlash).length, found.1⟩, found.2)
  | _ => none

theorem tag?_length {cs rest : List Char} {escaped : Escaped}
    (found : tag? cs = some (escaped, rest)) : rest.length < cs.length := by
  have shorter := (List.dropWhile_suffix isSlash (l := cs)).length_le
  unfold tag? at found
  split at found
  · next inner tail =>
    obtain ⟨⟨body, after⟩, bodyFound, equal⟩ := Option.map_eq_some_iff.mp found
    cases equal
    have := Tag.body?_length bodyFound
    rw [tail] at shorter
    simp only [List.length_cons] at this shorter ⊢
    omega
  · cases found

inductive Piece where
  | text (content : List Char)
  | tag (position : Nat) (tag : Tag)

namespace Escaped

def length (escaped : Escaped) : Nat :=
  escaped.slashes + escaped.body.length + 2

def pieces (position : Nat) (escaped : Escaped) : List Piece :=
  let slashes := escaped.slashes / 2
  (if slashes = 0 then [] else [.text (List.replicate slashes '\\')]) ++
    if escaped.slashes % 2 = 0 then [.tag (position + escaped.slashes) (.ofBody escaped.body)]
    else [.text ('[' :: escaped.body ++ [']'])]

end Escaped

namespace Piece

def ofText (content : List Char) : List Piece :=
  if content.isEmpty then [] else [.text content]

/-- The pieces of a text from a position on, with the plain text before it, last character first. -/
def scan (position : Nat) (before : List Char) (cs : List Char) : List Piece :=
  match cs with
  | [] => ofText before.reverse
  | c :: rest =>
    match _h : tag? (c :: rest) with
    | some (escaped, after) =>
      ofText before.reverse ++ escaped.pieces position ++ scan (position + escaped.length) [] after
    | none => scan (position + 1) (c :: before) rest
termination_by cs.length
decreasing_by
  · exact tag?_length _h
  · simp

theorem tag?_eq_none {cs : List Char} (plain : '[' ∉ cs) : tag? cs = none := by
  unfold tag?
  split
  · next inner tail =>
    exact absurd ((List.dropWhile_suffix isSlash).mem (tail ▸ List.mem_cons_self)) plain
  · rfl

theorem scan_of_not_mem {cs : List Char} (plain : '[' ∉ cs) (position : Nat) (before : List Char) :
    scan position before cs = ofText (before.reverse ++ cs) := by
  induction cs generalizing position before with
  | nil => simp [scan]
  | cons c rest ih =>
    rw [scan]
    split
    · next found => rw [tag?_eq_none plain] at found; cases found
    · rw [ih fun member => plain (List.mem_cons_of_mem c member)]
      simp

end Piece

end AlertRange.Markup

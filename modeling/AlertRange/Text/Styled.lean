import AlertRange.Text.Blank

namespace AlertRange.Text

def isDropped (c : Char) : Bool :=
  c.toNat = 7 || c.toNat = 8 || c.toNat = 11 || c.toNat = 12 || c.toNat = 13

def printed (cs : List Char) : List Char :=
  cs.filter (!isDropped ·)

/-- The characters from one place to before another, in the style of a name. -/
structure Span where
  start : Nat
  stop : Nat
  style : String
  deriving DecidableEq

namespace Span

def shift (n : Nat) (span : Span) : Span :=
  ⟨span.start + n, span.stop + n, span.style⟩

def within? (start stop : Nat) (span : Span) : Option Span :=
  if max span.start start < min span.stop stop then
    some ⟨max span.start start - start, min span.stop stop - start, span.style⟩
  else none

def crop? (length : Nat) (span : Span) : Option Span :=
  if span.start < length then some ⟨span.start, min span.stop length, span.style⟩ else none

def extend (length n : Nat) (span : Span) : Span :=
  if length ≤ span.stop then ⟨span.start, span.stop + n, span.style⟩ else span

end Span

structure Styled where
  chars : List Char
  spans : List Span
  deriving DecidableEq

namespace Styled

def plain (text : String) : Styled :=
  ⟨printed text.toList, []⟩

def styled (style text : String) : Styled :=
  ⟨printed text.toList, [⟨0, (printed text.toList).length, style⟩]⟩

instance : Append Styled where
  append a b := ⟨a.chars ++ b.chars, a.spans ++ b.spans.map (Span.shift a.chars.length)⟩

theorem chars_append (a b : Styled) : (a ++ b).chars = a.chars ++ b.chars := rfl

/-- Other characters in the styles of the text. Spans are cut only if there are fewer characters. -/
def withChars (text : Styled) (chars : List Char) : Styled :=
  ⟨chars,
    if chars.length < text.chars.length then text.spans.filterMap (Span.crop? chars.length)
    else text.spans⟩

def slice (start length : Nat) (text : Styled) : Styled :=
  ⟨(text.chars.drop start).take length, text.spans.filterMap (Span.within? start (start + length))⟩

def slices (start : Nat) (text : Styled) : List Nat → List Styled
  | [] => []
  | length :: rest => text.slice start length :: slices (start + length) text rest

def cut (text : Styled) (lengths : List Nat) : List Styled :=
  if lengths.length ≤ 1 then [text] else text.slices 0 lengths

def extend (n : Nat) (text : Styled) : Styled :=
  ⟨text.chars ++ List.replicate n ' ', text.spans.map (Span.extend text.chars.length n)⟩

def indent (n : Nat) (text : Styled) : Styled :=
  ⟨List.replicate n ' ' ++ text.chars, text.spans.map (Span.shift n)⟩

def lines (text : Styled) : List Styled :=
  let pieces := List.splitOn '\n' text.chars
  if pieces.length ≤ 1 then [text]
  else
    (pieces.foldl (fun (found : List Styled × Nat) piece =>
      (text.slice found.2 piece.length :: found.1, found.2 + piece.length + 1)) ([], 0)).1.reverse

def isEnd (text : Styled) (place : Nat) : Bool :=
  text.spans.any fun span => span.start == place || span.stop == place

def runsFrom (text : Styled) (place : Nat) : List Char → List (List Char)
  | [] => []
  | c :: rest =>
    match runsFrom text (place + 1) rest with
    | [] => [[c]]
    | run :: more => if text.isEnd (place + 1) then [c] :: run :: more else (c :: run) :: more

def runs (text : Styled) : List (List Char) :=
  text.runsFrom 0 text.chars

theorem runsFrom_flatten (text : Styled) (place : Nat) (cs : List Char) :
    (text.runsFrom place cs).flatten = cs := by
  induction cs generalizing place with
  | nil => rfl
  | cons c rest ih =>
    have whole := ih (place + 1)
    rw [runsFrom]
    split
    · next none =>
      rw [none] at whole
      simp [← whole]
    · next run more some =>
      rw [some] at whole
      split <;> simpa using whole

theorem runs_flatten (text : Styled) : text.runs.flatten = text.chars :=
  text.runsFrom_flatten 0 text.chars

end Styled

end AlertRange.Text

import AlertRange.Text.Grapheme
import AlertRange.Text.Styled
import AlertRange.Text.Trim

namespace AlertRange.Screen

abbrev Line := List Char

inductive ScreenError where
  /-- A text with cells, none of which belongs to a grapheme, is too wide. -/
  | noWidth
  /-- A text is too wide whose graphemes do not reach the place where it should be cut. -/
  | outOfReach
  /-- A component of a color is missing. -/
  | noComponent
  deriving DecidableEq

namespace ScreenError

def message : ScreenError → String
  | .noWidth => "division by zero"
  | .outOfReach => "list index out of range"
  | .noComponent => "invalid literal for int() with base 10: ''"

end ScreenError

def blanks (n : Nat) : Line :=
  List.replicate n ' '

def tabWidth : Nat := 8

/-- Joins pieces of which all but the last end with a tab; the first starts at `position`. Each tab
becomes a space, and as many more in its style as lead to the next multiple of `tabWidth`. -/
def joinAtTabs (position : Nat) : List Text.Styled → Text.Styled
  | [] => ⟨[], []⟩
  | [piece] => piece
  | piece :: rest =>
    let marked := piece.withChars (piece.chars.dropLast ++ [' '])
    let reached := position + Text.cells marked.chars
    let gap := (tabWidth - reached % tabWidth) % tabWidth
    marked.extend gap ++ joinAtTabs (reached + gap) rest

def tabLengths : List Line → List Nat
  | [] => []
  | [piece] => [piece.length]
  | piece :: rest => (piece.length + 1) :: tabLengths rest

def expandTabs (line : Text.Styled) : Text.Styled :=
  joinAtTabs 0 (line.cut (tabLengths (List.splitOn '\t' line.chars)))

/-- The first graphemes up to a width; one that would straddle it becomes a space. -/
def takeWidth (width : Nat) : List Text.Grapheme → Line
  | [] => []
  | g :: rest =>
    if width = 0 then []
    else if g.width ≤ width then g.chars ++ takeWidth (width - g.width) rest
    else [' ']

def cutGraphemes (width : Nat) (all : List Text.Grapheme) : Except ScreenError Line :=
  if Text.sumWidths all = 0 then .error .noWidth
  else if Text.sumWidths all < width then .error .outOfReach
  else .ok (takeWidth width all)

def cropTo (width : Nat) (line : Line) : Except ScreenError Line :=
  if Text.cells line ≤ width then .ok line
  else if width = 0 then .ok []
  else cutGraphemes width (Text.graphemes line)

def crop (width : Nat) (line : Text.Styled) : Except ScreenError Text.Styled :=
  (cropTo width line.chars).map line.withChars

def ellipsize (width : Nat) (line : Text.Styled) : Except ScreenError Text.Styled :=
  if Text.cells line.chars ≤ width then .ok line
  else (cropTo (width - 1) line.chars).map fun cs => line.withChars (cs ++ ['…'])

def dropExcess (width : Nat) (line : Text.Styled) : Text.Styled :=
  let blank := (line.chars.reverse.takeWhile Text.isBlank).length
  line.withChars (line.chars.take (line.chars.length - min blank (line.chars.length - width)))

def sumCells : List Line → Nat
  | [] => 0
  | run :: rest => Text.cells run + sumCells rest

def cropRuns (width : Nat) : List Line → Except ScreenError (List Line)
  | [] => .ok []
  | run :: rest =>
    if Text.cells run < width then (cropRuns (width - Text.cells run) rest).map (run :: ·)
    else (cropTo width run).map ([·])

def fit (width : Nat) (runs : List Line) : Except ScreenError (List Line) :=
  if width < sumCells runs then cropRuns width runs else .ok runs

def fill (width : Nat) (runs : List Line) : Except ScreenError (List Line) :=
  if sumCells runs < width then .ok (runs ++ [blanks (width - sumCells runs)]) else fit width runs

end AlertRange.Screen

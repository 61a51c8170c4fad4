import AlertRange.Markup.Style
import AlertRange.Screen.Wrap

namespace AlertRange.Screen

structure Row where
  value : Text.Styled
  label : String
  deriving DecidableEq

def isLineBreak (c : Char) : Bool :=
  Text.covers [(0xa, 0xd), (0x1c, 0x1e), (0x85, 0x85), (0x2028, 0x2029)] c

def naturalWidth (text : Text.Styled) : Nat :=
  ((List.splitOnP isLineBreak text.chars).map Text.cells).foldr max 0

def heading : Row :=
  ⟨.plain "Value", "Result"⟩

/-- The labels and the gap before them leave this many of 120 cells to the values. -/
def valueLimit : Nat := 112

def labelWidth : Nat := 6

def valueWidth (rows : List Row) : Nat :=
  min valueLimit (((heading :: rows).map fun row => naturalWidth row.value).foldr max 0)

def checkStyle (span : Text.Span) : Except ScreenError Unit :=
  match Markup.Style.read span.style with
  | .error .noComponent => .error .noComponent
  | _ => .ok ()

def runsOf (lines : List Text.Styled) : Except ScreenError (List (List Line)) := do
  lines.forM fun line => line.spans.forM checkStyle
  .ok (lines.map Text.Styled.runs)

def alignRight (width : Nat) (line : Text.Styled) : Except ScreenError Text.Styled := do
  let line ← ellipsize width (line.withChars (Text.trimEnd Text.isBlank line.chars))
  .ok (line.indent (width - Text.cells line.chars))

def alignedLines (width : Nat) (line : Text.Styled) : Except ScreenError (List Text.Styled) := do
  let lines ← (wrapLine false width (expandTabs line)).mapM (alignRight width)
  lines.mapM (ellipsize width)

/-- A value on lines of one width, with a blank after it; what is still too wide ends in an ellipsis. -/
def valueLines (width : Nat) (value : Text.Styled) : Except ScreenError (List (List Line)) := do
  let lines ← value.lines.mapM (alignedLines width)
  let shown ← (← runsOf lines.flatten).mapM (fill width)
  let spaced ← shown.mapM fun runs => fill (width + 1) (runs ++ [blanks 1])
  spaced.mapM (fill (width + 1))

def labelCell (label : String) : Line :=
  blanks 1 ++ label.toList ++ blanks (labelWidth - label.length)

def beside (label : String) : List (List Line) → List (List Line)
  | [] => []
  | first :: more => (first ++ [labelCell label]) :: more.map (· ++ [blanks (1 + labelWidth)])

def rowLines (width : Nat) (row : Row) : Except ScreenError (List (List Line)) :=
  (valueLines width row.value).map (beside row.label)

def tableLines (rows : List Row) : Except ScreenError (List (List Line)) :=
  ((heading :: rows).mapM (rowLines (valueWidth rows))).map List.flatten

inductive Block where
  | text (content : Text.Styled)
  | table (rows : List Row)
  deriving DecidableEq

namespace Block

def lines (width : Nat) : Block → Except ScreenError (List (List Line))
  | .text content => do runsOf (← wrap width content)
  | .table rows => tableLines rows

def render (width : Nat) (block : Block) : Except ScreenError (List Char) := do
  let lines ← (← block.lines width).mapM (fit width)
  .ok (lines.flatMap fun runs => runs.flatten ++ ['\n'])

end Block

/-- A screen without columns shows nothing. -/
def render (width : Nat) (blocks : List Block) : Except ScreenError (List Char) :=
  if width = 0 then .ok [] else (blocks.mapM (Block.render width)).map List.flatten

end AlertRange.Screen

import AlertRange.Spec.Parser

namespace AlertRange

namespace Binary64

/-- Whole numbers below this are written without point or exponent. -/
def wholeLimit : Nat := Nat.pow 10 15

def boundText (x : Binary64) : String :=
  match x.toInt? with
  | some n => if n.natAbs < wholeLimit then intText n else x.text
  | none => x.text

/-- A bound as report data: infinity is a word. -/
def asData : Binary64 → Value
  | .infinite neg => .text (if neg then "-inf" else "inf")
  | x => .float x

end Binary64

namespace Range

def lowerText (range : Range) : String :=
  if range.lower = .infinite true then "~" else range.lower.boundText

def upperText (range : Range) : String :=
  if range.upper = .infinity then "" else range.upper.boundText

/-- A lower bound of zero is left out. -/
def spec (range : Range) : String :=
  (if range.invert then "@" else "") ++
  (if range.lower.same .zero then "" else range.lowerText ++ ":") ++
  range.upperText

def violation (range : Range) : String :=
  (if range.invert then "inside" else "outside") ++
  " range " ++ range.lowerText ++ ":" ++ range.upperText

def toFields (range : Range) : Value.Fields :=
  [("start", range.lower.asData), ("end", range.upper.asData), ("invert", .bool range.invert),
    ("spec", .text range.spec)]

def literal (range : Range) : String :=
  "Range(" ++
  ", ".intercalate ["start=" ++ range.lower.text, "end=" ++ range.upper.text,
    "invert=" ++ (Value.bool range.invert).literal] ++ ")"

end Range

end AlertRange

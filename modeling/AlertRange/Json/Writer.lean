import AlertRange.Value

namespace AlertRange.Json

structure Form where
  escape : Char → List Char
  float : Binary64 → String
  comma : String
  colon : String
  /-- What stands before an item at a depth, and before the closing bracket one depth less. -/
  margin : Nat → String

def shortEscape? (c : Char) : Option (List Char) :=
  if c = '"' then some ['\\', '"']
  else if c = '\\' then some ['\\', '\\']
  else if c = '\n' then some ['\\', 'n']
  else if c = '\r' then some ['\\', 'r']
  else if c = '\t' then some ['\\', 't']
  else if c.toNat = 0x8 then some ['\\', 'b']
  else if c.toNat = 0xc then some ['\\', 'f']
  else none

def unitEscape (code : Nat) : List Char :=
  '\\' :: 'u' :: Text.hex 4 code

def codeEscape (code : Nat) : List Char :=
  if code < 0x10000 then unitEscape code
  else unitEscape (0xd800 + (code - 0x10000) / 0x400) ++ unitEscape (0xdc00 + (code - 0x10000) % 0x400)

def asciiEscape (c : Char) : List Char :=
  (shortEscape? c).getD (if 0x20 ≤ c.toNat ∧ c.toNat < 0x7f then [c] else codeEscape c.toNat)

def leastEscape (c : Char) : List Char :=
  (shortEscape? c).getD (if c.toNat < 0x20 then unitEscape c.toNat else [c])

def wordyFloat : Binary64 → String
  | .nan => "NaN"
  | .infinite neg => if neg then "-Infinity" else "Infinity"
  | x => x.text

/-- Report numbers are written out from `0.00001`, with unpadded exponents. -/
def reportLayout : Layout :=
  ⟨-5, 16, 1⟩

def strictFloat : Binary64 → String
  | .finite neg units _ => .ofList (reportLayout.finite neg units)
  | _ => "null"

def compact : Form :=
  ⟨asciiEscape, wordyFloat, ",", ":", fun _ => ""⟩

def spaced : Form :=
  ⟨asciiEscape, wordyFloat, ", ", ": ", fun _ => ""⟩

def indented : Form :=
  ⟨leastEscape, strictFloat, ",", ": ", fun depth =>
    .ofList ('\n' :: List.replicate (2 * depth) ' ')⟩

namespace Form

variable (form : Form)

def string (text : String) : String :=
  .ofList ('"' :: (text.toList.flatMap form.escape ++ ['"']))

mutual

def write (depth : Nat) : Value → String
  | .null => "null"
  | .bool true => "true"
  | .bool false => "false"
  | .int value => intText value
  | .float value => form.float value
  | .text value => form.string value
  | .list [] => "[]"
  | .list (item :: rest) =>
    "[" ++ form.margin (depth + 1) ++ write (depth + 1) item ++ writeItems (depth + 1) rest ++
      form.margin depth ++ "]"
  | .record [] => "\x7b\x7d"
  | .record ((name, value) :: rest) =>
    "\x7b" ++ form.margin (depth + 1) ++ form.string name ++ form.colon ++
      write (depth + 1) value ++ writeFields (depth + 1) rest ++ form.margin depth ++ "\x7d"

def writeItems (depth : Nat) : List Value → String
  | [] => ""
  | item :: rest => form.comma ++ form.margin depth ++ write depth item ++ writeItems depth rest

def writeFields (depth : Nat) : List (String × Value) → String
  | [] => ""
  | (name, value) :: rest =>
    form.comma ++ form.margin depth ++ form.string name ++ form.colon ++ write depth value ++
      writeFields depth rest

end

end Form

def text (form : Form) (value : Value) : String :=
  form.write 0 value

end AlertRange.Json

import AlertRange.Decimal.Numeral
import AlertRange.Value

namespace AlertRange.Json

def dialect : Numeral.Dialect :=
  ⟨Text.asciiDigitValue?, false⟩

def minus : List Char → Bool × List Char
  | '-' :: rest => (true, rest)
  | rest => (false, rest)

/-- Whole digits have no zero at their head but the number zero, and after a point there is a digit. -/
def number? (cs : List Char) : Option Value :=
  let (neg, body) := minus cs
  let (whole, rest) := dialect.digitRun body
  let (places, _) := dialect.fraction rest
  if whole = [] ∨ (whole.head? = some 0 ∧ whole ≠ [0]) ∨ (rest.head? = some '.' ∧ places = []) then none
  else if rest = [] then some (.int (Binary64.signed neg (Numeral.ofDigits whole)))
  else (dialect.decimal? neg body).map (.float ·.toBinary64)

def word? (cs : List Char) : Option Value :=
  if cs = "null".toList then some .null
  else if cs = "true".toList then some (.bool true)
  else if cs = "false".toList then some (.bool false)
  else number? cs

def isHighSurrogate (code : Nat) : Bool :=
  0xd800 ≤ code ∧ code < 0xdc00

def isLowSurrogate (code : Nat) : Bool :=
  0xdc00 ≤ code ∧ code < 0xe000

/-- The characters of codes, among which surrogates come in pairs. -/
def decode? : List Nat → Option (List Char)
  | [] => some []
  | code :: rest =>
    if isLowSurrogate code then none
    else if isHighSurrogate code then
      match rest with
      | [] => none
      | low :: more =>
        if isLowSurrogate low then
          (decode? more).map (Char.ofNat (0x10000 + (code - 0xd800) * 0x400 + (low - 0xdc00)) :: ·)
        else none
    else (decode? rest).map (Char.ofNat code :: ·)

def escaped? (letter : Char) : Option Nat :=
  if letter ∈ ['"', '\\', '/'] then some letter.toNat
  else if letter = 'b' then some 0x8
  else if letter = 't' then some 0x9
  else if letter = 'n' then some 0xa
  else if letter = 'f' then some 0xc
  else if letter = 'r' then some 0xd
  else none

def hexDigit? (c : Char) : Option Nat :=
  if '0' ≤ c ∧ c ≤ '9' then some (c.toNat - '0'.toNat)
  else if 'a' ≤ c ∧ c ≤ 'f' then some (c.toNat - 'a'.toNat + 10)
  else if 'A' ≤ c ∧ c ≤ 'F' then some (c.toNat - 'A'.toNat + 10)
  else none

inductive Mark where
  | openList
  | closeList
  | openRecord
  | closeRecord
  | comma
  | colon

namespace Mark

def ofChar? (c : Char) : Option Mark :=
  if c = '[' then some .openList
  else if c = ']' then some .closeList
  else if c = '\x7b' then some .openRecord
  else if c = '\x7d' then some .closeRecord
  else if c = ',' then some .comma
  else if c = ':' then some .colon
  else none

end Mark

/-- A list or a record around the value that is read, with what came before, last first. -/
inductive Frame where
  | items (before : List Value)
  | field (before : Value.Fields) (name : String)

inductive Need where
  | value
  | firstItem
  | firstName
  | name (before : Value.Fields)
  | colon (before : Value.Fields) (name : String)
  | done (value : Value)

structure Progress where
  frames : List Frame
  need : Need

namespace Progress

def start : Progress :=
  ⟨[], .value⟩

def take (value : Value) : Progress → Option Progress
  | ⟨frames, .value⟩ => some ⟨frames, .done value⟩
  | ⟨frames, .firstItem⟩ => some ⟨.items [] :: frames, .done value⟩
  | _ => none

def takeText (text : String) : Progress → Option Progress
  | ⟨frames, .firstName⟩ => some ⟨frames, .colon [] text⟩
  | ⟨frames, .name before⟩ => some ⟨frames, .colon before text⟩
  | progress => progress.take (.text text)

def takeMark : Mark → Progress → Option Progress
  | .openList, ⟨frames, .value⟩ => some ⟨frames, .firstItem⟩
  | .openList, ⟨frames, .firstItem⟩ => some ⟨.items [] :: frames, .firstItem⟩
  | .openRecord, ⟨frames, .value⟩ => some ⟨frames, .firstName⟩
  | .openRecord, ⟨frames, .firstItem⟩ => some ⟨.items [] :: frames, .firstName⟩
  | .closeList, ⟨frames, .firstItem⟩ => some ⟨frames, .done (.list [])⟩
  | .closeList, ⟨.items before :: frames, .done value⟩ =>
    some ⟨frames, .done (.list (value :: before).reverse)⟩
  | .closeRecord, ⟨frames, .firstName⟩ => some ⟨frames, .done (.record [])⟩
  | .closeRecord, ⟨.field before name :: frames, .done value⟩ =>
    some ⟨frames, .done (.record (Value.Fields.ofList ((name, value) :: before).reverse))⟩
  | .comma, ⟨.items before :: frames, .done value⟩ => some ⟨.items (value :: before) :: frames, .value⟩
  | .comma, ⟨.field before name :: frames, .done value⟩ => some ⟨frames, .name ((name, value) :: before)⟩
  | .colon, ⟨frames, .colon before name⟩ => some ⟨.field before name :: frames, .value⟩
  | _, _ => none

def value? : Progress → Option Value
  | ⟨[], .done value⟩ => some value
  | _ => none

end Progress

/-- Where a character stands. Characters, codes and digits so far are kept last first. -/
inductive Place where
  | between
  | word (before : List Char)
  | string (codes : List Nat)
  | escape (codes : List Nat)
  | unit (codes digits : List Nat)

structure Reader where
  progress : Progress
  place : Place

def isSpace (c : Char) : Bool :=
  c ∈ [' ', '\t', '\n', '\r']

def isDelimiter (c : Char) : Bool :=
  isSpace c || c == '"' || (Mark.ofChar? c).isSome

def ofHexDigits (digits : List Nat) : Nat :=
  digits.foldr (fun digit value => 16 * value + digit) 0

namespace Reader

def start : Reader :=
  ⟨.start, .between⟩

def readBetween (progress : Progress) (c : Char) : Option Reader :=
  if isSpace c then some ⟨progress, .between⟩
  else if c = '"' then some ⟨progress, .string []⟩
  else
    match Mark.ofChar? c with
    | some mark => (progress.takeMark mark).map (⟨·, .between⟩)
    | none => some ⟨progress, .word [c]⟩

def endWord (progress : Progress) (before : List Char) : Option Progress :=
  (word? before.reverse).bind progress.take

def endString (progress : Progress) (codes : List Nat) : Option Progress :=
  (decode? codes.reverse).bind fun cs => progress.takeText (.ofList cs)

def read (reader : Reader) (c : Char) : Option Reader :=
  let progress := reader.progress
  match reader.place with
  | .between => readBetween progress c
  | .word before =>
    if isDelimiter c then (endWord progress before).bind (readBetween · c)
    else some ⟨progress, .word (c :: before)⟩
  | .string codes =>
    if c = '"' then (endString progress codes).map (⟨·, .between⟩)
    else if c = '\\' then some ⟨progress, .escape codes⟩
    else if c.toNat < 0x20 then none
    else some ⟨progress, .string (c.toNat :: codes)⟩
  | .escape codes =>
    if c = 'u' then some ⟨progress, .unit codes []⟩
    else (escaped? c).map fun code => ⟨progress, .string (code :: codes)⟩
  | .unit codes digits =>
    (hexDigit? c).map fun digit =>
      if digits.length = 3 then ⟨progress, .string (ofHexDigits (digit :: digits) :: codes)⟩
      else ⟨progress, .unit codes (digit :: digits)⟩

def finish (reader : Reader) : Option Value :=
  match reader.place with
  | .between => reader.progress.value?
  | .word before => (endWord reader.progress before).bind Progress.value?
  | _ => none

end Reader

def read? (text : String) : Option Value :=
  (text.toList.foldlM Reader.read .start).bind Reader.finish

end AlertRange.Json

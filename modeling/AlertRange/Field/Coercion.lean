import AlertRange.Decimal.Numeral
import AlertRange.Text.Blank
import AlertRange.Text.Trim
import AlertRange.Value

namespace AlertRange

inductive FieldFault where
  | numberText
  | number
  | truthText
  | truth
  | unknown
  | frozen
  | nanBound
  | disorder
  deriving DecidableEq

structure FieldError where
  /-- The name of the field; empty for a fault of the whole. -/
  field : String
  fault : FieldFault
  deriving DecidableEq

namespace FieldFault

def message : FieldFault → String
  | .numberText => "Input should be a valid number, unable to parse string as a number"
  | .number => "Input should be a valid number"
  | .truthText => "Input should be a valid boolean, unable to interpret input"
  | .truth => "Input should be a valid boolean"
  | .unknown => "Extra inputs are not permitted"
  | .frozen => "Instance is frozen"
  | .nanBound => "Value error, range bounds must not be NaN"
  | .disorder => "Value error, min <= max violated"

def kind : FieldFault → String
  | .numberText => "float_parsing"
  | .number => "float_type"
  | .truthText => "bool_parsing"
  | .truth => "bool_type"
  | .unknown => "extra_forbidden"
  | .frozen => "frozen_instance"
  | .nanBound => "value_error"
  | .disorder => "value_error"

end FieldFault

namespace FieldError

def message (error : FieldError) : String :=
  error.field ++ ": " ++ error.fault.message ++ " [" ++ error.fault.kind ++ "]"

def ofResult : Except FieldError α → List FieldError
  | .ok _ => []
  | .error error => [error]

def messages (errors : List FieldError) : String :=
  "; ".intercalate (errors.map message)

end FieldError

namespace Coercion

def fieldDialect : Numeral.Dialect :=
  ⟨Text.asciiDigitValue?, true⟩

def hasDoubled (mark : Char) : List Char → Bool
  | a :: b :: rest => (a == mark && b == mark) || hasDoubled mark (b :: rest)
  | _ => false

def withoutSeparators? (cs : List Char) : Option (List Char) :=
  if '_' ∈ cs ∧ cs.head? ≠ some '_' ∧ cs.getLast? ≠ some '_' ∧ !hasDoubled '_' cs then
    some (cs.filter (· != '_'))
  else none

def numeral? (text : String) : Option Numeral :=
  match fieldDialect.read? (Text.trim Text.isWhiteSpace text.toList) with
  | some numeral => some numeral
  | none => (withoutSeparators? text.toList).bind fieldDialect.read?

def number : Value → Except FieldFault Binary64
  | .float x => .ok x
  | .int n => if (Binary64.ofInt n).isInfinite then .error .number else .ok (.ofInt n)
  | .bool b => .ok (.ofInt b.toInt)
  | .text s =>
    match numeral? s with
    | some numeral => .ok numeral.toBinary64
    | none => .error .numberText
  | _ => .error .number

def falseWords : List String :=
  ["0", "off", "f", "false", "n", "no"]

def trueWords : List String :=
  ["1", "on", "t", "true", "y", "yes"]

def truthOfText (text : String) : Except FieldFault Bool :=
  if falseWords.any (Text.isWord · text.toList) then .ok false
  else if trueWords.any (Text.isWord · text.toList) then .ok true
  else .error .truthText

/-- A whole number is looked at if it fits in 64 bits. -/
def truthOfInt (n : Int) : Except FieldFault Bool :=
  if n = 0 then .ok false
  else if n = 1 then .ok true
  else if Int64.minValue.toInt ≤ n ∧ n ≤ Int64.maxValue.toInt then .error .truthText
  else .error .truth

def truth : Value → Except FieldFault Bool
  | .bool b => .ok b
  | .text s => truthOfText s
  | .int n => truthOfInt n
  | .float x =>
    match x.toInt? with
    | some n => if n = Int64.minValue.toInt then .error .truth else truthOfInt n
    | none => .error .truth
  | _ => .error .truth

def field (name : String) (read : Value → Except FieldFault α) (default : α)
    (fields : Value.Fields) : Except FieldError α :=
  match fields.get? name with
  | some value => (read value).mapError (⟨name, ·⟩)
  | none => .ok default

end Coercion

end AlertRange

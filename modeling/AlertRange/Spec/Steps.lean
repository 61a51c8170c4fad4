import AlertRange.CommandLine.Operand
import AlertRange.Range.Fields
import AlertRange.Spec.Parser

namespace AlertRange

/-- What ends a reading: a fault of the text, with the error that it was raised from, or faults of the fields
of the range that is made. -/
inductive ReadingStop where
  | text (error : SpecError) (cause : Option String)
  | fields (errors : List FieldError)

/-- The error that a fault was raised from. Only a bound is read by a reader with errors of its own. -/
def SpecFault.cause? : SpecFault → Option String
  | .bound _ _ (.text reason) => some reason
  | _ => none

namespace Spec

/-- Where case does not count, the capital i with a dot and the small i without one count as an i. -/
def withoutCase (c : Char) : Char :=
  if c = '\u0130' ∨ c = '\u0131' then 'i' else c

def hasPattern (token : List Char) : Bool :=
  (boundDialect.read? (token.map withoutCase)).isSome

/-- The number of a bound, or the text of the error. What has the pattern need not be a value. -/
def readNumber (token : String) : Except String Binary64 :=
  if hasPattern token.toList then
    match CommandLine.readValue? token with
    | some x => .ok x
    | none => .error (notNumber token)
  else .error (notNumber token)

def partsOf (body : List Char) : Option (List Char) × List Char :=
  match body.dropWhile (· != ':') with
  | [] => (none, body)
  | _ :: upper => (some (body.takeWhile (· != ':')), upper)

def boundStep (core : List Char) (side : Side) (token : List Char) : Except ReadingStop Binary64 :=
  (readNumber (.ofList token)).mapError fun cause =>
    .text ⟨.ofList core, .bound side (.text (.ofList token)) (.text cause)⟩ (some cause)

def lowerStep (core : List Char) : Option (List Char) → Except ReadingStop Binary64
  | none => .ok .zero
  | some token => if token = ['~'] then .ok (.infinite true) else boundStep core .lower token

def upperStep (core token : List Char) : Except ReadingStop Binary64 :=
  if token = [] then .ok .infinity else boundStep core .upper token

/-- The order of the bounds is checked before the range is made, and again when it is made. -/
def makeStep (core : List Char) (lower upper : Binary64) (invert : Bool) : Except ReadingStop Range :=
  if upper < lower then .error (.text ⟨.ofList core, .order (.float lower) (.float upper)⟩ none)
  else (Range.ofFields [("start", .float lower), ("end", .float upper), ("invert", .bool invert)]).mapError .fields

def bodySteps (core : List Char) (invert : Bool) (body : List Char) : Except ReadingStop Range := do
  let lower ← lowerStep core (partsOf body).1
  let upper ← upperStep core (partsOf body).2
  makeStep core lower upper invert

def trimmedSteps : List Char → Except ReadingStop Range
  | '@' :: body => bodySteps ('@' :: body) true body
  | body => bodySteps body false body

def parseInSteps (text : String) : Except ReadingStop Range :=
  trimmedSteps (trimmed text)

end Spec

end AlertRange

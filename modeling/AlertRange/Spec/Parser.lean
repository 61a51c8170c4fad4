import AlertRange.Decimal.Numeral
import AlertRange.Range.Basic
import AlertRange.Text.Quoted
import AlertRange.Text.Trim

namespace AlertRange

inductive Side where
  | lower
  | upper
  deriving DecidableEq

inductive SpecFault where
  | other (message : String)
  | bound (side : Side) (token reason : Value)
  | order (start stop : Value)

structure SpecError where
  /-- The text that could not be read, without the margins. -/
  spec : String
  fault : SpecFault

namespace Side

def name : Side → String
  | .lower => "lower"
  | .upper => "upper"

def code : Side → String
  | .lower => "LOWER_BOUND"
  | .upper => "UPPER_BOUND"

end Side

namespace SpecError

def code (error : SpecError) : String :=
  match error.fault with
  | .other _ => "RANGE_PARSE"
  | .bound side _ _ => side.code
  | .order _ _ => "INVALID_ORDER"

def message (error : SpecError) : String :=
  match error.fault with
  | .other message => message
  | .bound side _ reason => "failed to parse " ++ side.name ++ " limit: " ++ reason.display
  | .order start stop =>
    "Invalid range definition. min <= max violated (" ++ start.display ++ " > " ++ stop.display ++ ")"

end SpecError

namespace Spec

def isMargin (c : Char) : Bool :=
  c = ' ' || c = '\n' || c = '\r'

def boundDialect : Numeral.Dialect :=
  ⟨Text.digitValue?, false⟩

def notNumber (token : String) : String :=
  "could not convert string to float: " ++ Text.quoted token

def readBound (side : Side) (token : List Char) : Except SpecFault Binary64 :=
  match boundDialect.read? token with
  | some numeral => .ok numeral.toBinary64
  | none => .error (.bound side (.text (.ofList token)) (.text (notNumber (.ofList token))))

def readLower (token : List Char) : Except SpecFault Binary64 :=
  if token = ['~'] then .ok (.infinite true) else readBound .lower token

def readUpper (token : List Char) : Except SpecFault Binary64 :=
  if token = [] then .ok .infinity else readBound .upper token

/-- Both bounds around the first colon; without a colon the text is the upper bound. -/
def readBounds (body : List Char) : Except SpecFault (Binary64 × Binary64) :=
  match body.dropWhile (· != ':') with
  | [] => (readUpper body).map (.zero, ·)
  | _ :: upper =>
    (readLower (body.takeWhile (· != ':'))).bind fun lower => (readUpper upper).map (lower, ·)

def readRange (invert : Bool) (body : List Char) : Except SpecFault Range :=
  (readBounds body).bind fun (lower, upper) =>
    if ordered : lower ≤ upper then .ok ⟨lower, upper, invert, ordered⟩
    else .error (.order (.float lower) (.float upper))

def readTrimmed : List Char → Except SpecFault Range
  | '@' :: body => readRange true body
  | body => readRange false body

def trimmed (text : String) : List Char :=
  Text.trim isMargin text.toList

def parse (text : String) : Except SpecError Range :=
  (readTrimmed (trimmed text)).mapError (⟨.ofList (trimmed text), ·⟩)

end Spec

end AlertRange

import AlertRange.Range.Steps
import AlertRange.Report.Inquiry
import AlertRange.Spec.Steps

namespace AlertRange

def SpecFault.parts : SpecFault → Value.Fields
  | .other _ => []
  | .bound _ token reason => [("token", token), ("reason", reason)]
  | .order start stop => [("start", start), ("end", stop)]

def SpecError.parts (error : SpecError) : Value.Fields :=
  ("spec", .text error.spec) :: error.fault.parts

namespace Report

/-- What ends a report that is not made: faults of the fields of the range, or a value that cannot be checked. -/
inductive Stop where
  | fields (errors : List FieldError)
  | check (stop : CheckStop)

/-- The parts that a report looks for in an error, besides its text. -/
def soughtParts : List String :=
  ["token", "reason"]

def tellPart (error : SpecError) (detail : Value.Fields) (name : String) : Value.Fields :=
  match error.parts.get? name with
  | some value => detail.set name value
  | none => detail

def failureInSteps (error : SpecError) : Failure where
  code := error.code
  message := error.message
  detail := soughtParts.foldl (tellPart error) [("spec", .text error.spec)]

def withRangeInSteps (op spec : String) (go : Range → Except Stop Report × List LogRecord) :
    Except Stop Report × List LogRecord :=
  match Spec.parseInSteps spec with
  | .error (.text error _) => (.ok (failed op (failureInSteps error)), [parseFailedRecord spec error])
  | .error (.fields errors) => (.error (.fields errors), [])
  | .ok range => ((go range).1, parsedRecord spec range :: (go range).2)

def ofSpecInSteps (spec : String) : Except Stop Report × List LogRecord :=
  withRangeInSteps parseOp spec fun range =>
    (.ok (success parseOp (range.toFields.set "violation" (.text range.violation)) []), [])

structure Gathered where
  items : List Item
  warnings : List String

def Gathered.add (gathered : Gathered) (value : Value) (alert : Bool) : Gathered where
  items := gathered.items ++ [⟨value, alert⟩]
  warnings := gathered.warnings ++ if isNaN value && gathered.warnings.isEmpty then [nanWarning] else []

def gather (spec : String) (range : Range) (gathered : Gathered) :
    List Value → Except CheckStop Gathered × List LogRecord
  | [] => (.ok gathered, [])
  | value :: rest =>
    match range.checkInSteps value with
    | .error stop => (.error stop, [])
    | .ok alert =>
      let (outcome, records) := gather spec range (gathered.add value alert) rest
      (outcome, checkedRecord spec value alert :: records)

def ofCheckInSteps (spec : String) (values : List Value) : Except Stop Report × List LogRecord :=
  withRangeInSteps checkOp spec fun range =>
    let (outcome, records) := gather spec range ⟨[], []⟩ values
    ((outcome.mapError .check).map fun gathered =>
      success checkOp (checkFields range gathered.items) gathered.warnings, records)

end Report

end AlertRange

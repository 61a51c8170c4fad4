import AlertRange.Log.Record
import AlertRange.Range.Check
import AlertRange.Report.Basic
import AlertRange.Spec.Printer

namespace AlertRange.Report

/-- A report, or the error that stopped it, with the records logged on the way. -/
structure Inquiry where
  outcome : Except CheckError Report
  log : List LogRecord

def loggerName : String := "nagrange.services.range"

def log (severity : Severity) (template : String) (values : List Value) : LogRecord :=
  ⟨severity, loggerName, template, values⟩

def failureOf (error : SpecError) : Failure where
  code := error.code
  message := error.message
  detail := ("spec", .text error.spec) ::
    match error.fault with
    | .bound _ token reason => [("token", token), ("reason", reason)]
    | _ => []

def parseFailedRecord (spec : String) (error : SpecError) : LogRecord :=
  log .warning "Range parse failed for %r: %s" [.text spec, .text error.message]

def parsedRecord (spec : String) (range : Range) : LogRecord :=
  log .debug "Parsed range %r as %s" [.text spec, .text range.violation]

def checkedRecord (spec : String) (value : Value) (alert : Bool) : LogRecord :=
  log .debug "Checked %s against %r: alert=%s" [value, .text spec, .bool alert]

def withRange (op spec : String) (go : Range → Inquiry) : Inquiry :=
  match Spec.parse spec with
  | .error error => ⟨.ok (failed op (failureOf error)), [parseFailedRecord spec error]⟩
  | .ok range => { go range with log := parsedRecord spec range :: (go range).log }

def parseOp : String := "parse_range"

def checkOp : String := "check_range"

def rangeFields (range : Range) : Value.Fields :=
  range.toFields ++ [("violation", .text range.violation)]

def ofSpec (spec : String) : Inquiry :=
  withRange parseOp spec fun range => ⟨.ok (success parseOp (rangeFields range) []), []⟩

def valueData : Value → Value
  | .float .nan => .text "nan"
  | .float x => x.asData
  | value => value

structure Item where
  value : Value
  alert : Bool

def Item.asData (item : Item) : Value :=
  .record [("value", valueData item.value), ("alert", .bool item.alert)]

/-- Checks values in turn, up to the first that is no number. -/
def judge (spec : String) (range : Range) : List Value → Except CheckError (List Item) × List LogRecord
  | [] => (.ok [], [])
  | value :: rest =>
    match range.check value with
    | .error error => (.error error, [])
    | .ok alert =>
      let (items, records) := judge spec range rest
      (items.map (⟨value, alert⟩ :: ·), checkedRecord spec value alert :: records)

def isNaN : Value → Bool
  | .float x => x.isNaN
  | _ => false

def nanWarning : String := "NaN is outside every range"

def warningsFor (values : List Value) : List String :=
  if values.any isNaN then [nanWarning] else []

def alertCount (items : List Item) : Nat :=
  items.countP Item.alert

def checkFields (range : Range) (items : List Item) : Value.Fields :=
  [("range", .record range.toFields), ("violation", .text range.violation),
    ("items", .list (items.map Item.asData)), ("count", .int items.length),
    ("alert_count", .int (alertCount items))]

def ofCheck (spec : String) (values : List Value) : Inquiry :=
  withRange checkOp spec fun range =>
    let (items, records) := judge spec range values
    ⟨items.map fun items => success checkOp (checkFields range items) (warningsFor values), records⟩

end AlertRange.Report

import AlertRange.Report.Page

namespace AlertRange.Report

structure Mode where
  json : Bool
  quiet : Bool
  verbose : Bool
  deriving DecidableEq

namespace Mode

def default : Mode :=
  ⟨false, false, false⟩

end Mode

def failureData : Option Failure → Value
  | none => .null
  | some failure =>
    .record [("code", .text failure.code), ("message", .text failure.message),
      ("detail", .record failure.detail)]

def asData (report : Report) : Value :=
  .record [("ok", .bool report.ok), ("op", .text report.op), ("data", .record report.data),
    ("warnings", .list (report.warnings.map .text)), ("error", failureData report.failure)]

/-- Values in a report's data may be nested this deep. -/
def depthLimit : Nat := 255

def isTooDeep (fields : Value.Fields) : Bool :=
  fields.any fun field => depthLimit < field.2.depth

def jsonText (report : Report) : Except FormError String :=
  if isTooDeep report.data || report.failure.any (isTooDeep ·.detail) then .error .tooDeep
  else .ok (Json.text Json.indented report.asData)

def verdictOf : Value → Except FormError String
  | .record fields => .ok (verdict ((Value.Fields.get? fields "alert").any Value.isTruthy))
  | value => .error (.noLookup value.typeName)

def verdictsOf : List Value → Except FormError (List String)
  | [] => .ok []
  | item :: rest => do
    let word ← verdictOf item
    let more ← verdictsOf rest
    .ok (word :: more)

def quietSuccess (report : Report) : Except FormError String :=
  match report.op == checkOp, report.data.get? "items" with
  | true, some (.list items) => (verdictsOf items).map ("\n".intercalate ·)
  | _, _ => .ok ("OK: " ++ report.op)

/-- A check gives a word for each value, all else a line of status. -/
def quietText (report : Report) : Except FormError String :=
  if report.ok then report.quietSuccess
  else .ok ("ERROR: " ++ report.op ++ " — " ++ report.failureMessage)

/-- JSON comes before quiet, quiet before verbose. -/
def format (mode : Mode) (report : Report) : Except FormError String :=
  if mode.json then report.jsonText
  else if mode.quiet then report.quietText
  else report.page mode.verbose

end AlertRange.Report

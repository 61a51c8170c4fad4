import AlertRange.Json.Writer
import AlertRange.Log.Record

namespace AlertRange

/-- How an event came to the log: as a message, its fields added afterwards, or fields first. -/
inductive LogRoute where
  | message
  | fields
  deriving DecidableEq

structure LogEvent where
  severity : Severity
  logger : String
  message : String
  extras : Value.Fields
  route : LogRoute
  /-- Whether the event tells of an exception that is being handled. -/
  raised : Bool

namespace LogEvent

def ofRecord? (record : LogRecord) : Option LogEvent :=
  record.message?.map fun message => ⟨record.severity, record.logger, message, [], .message, false⟩

def setAll (fields more : Value.Fields) : Value.Fields :=
  more.foldl (fun fields pair => Value.Fields.set pair.1 pair.2 fields) fields

def loggerName (event : LogEvent) : String :=
  if event.logger = "" then "root" else event.logger

def origin (event : LogEvent) : Value.Fields :=
  [("level", .text event.severity.name), ("logger", .text event.loggerName)]

/-- The field that tells of an exception; none is at hand when a line is written. -/
def exceptionField (event : LogEvent) : Value.Fields :=
  if event.raised then
    match event.route with
    | .message => [("exc_info", .list [.null, .null, .null])]
    | .fields => [("exc_info", .bool true)]
  else []

def hiddenNames : List String :=
  ["_record", "_from_structlog", "stack_info"]

def fields (time : String) (event : LogEvent) : Value.Fields :=
  let message : Value.Fields := [("event", .text event.message)]
  let stamp : Value.Fields := [("timestamp", .text time)]
  let all : Value.Fields := match event.route with
    | .message =>
      setAll (message ++ event.exceptionField) (event.origin ++ event.extras ++ stamp)
    | .fields =>
      let given := event.exceptionField.filter fun field => (event.extras.get? field.1).isNone
      setAll (event.extras ++ given) (message ++ event.origin ++ stamp)
  all.filter (·.1 ∉ hiddenNames)

def jsonLine (time : String) (event : LogEvent) : String :=
  Json.text Json.spaced (.record (event.fields time))

def padTo (width : Nat) (text : String) : String :=
  .ofList (text.toList.rightpad width ' ')

def needsQuotes (c : Char) : Bool :=
  c = ' ' || c = '\t' || c = '=' || c = '\r' || c = '\n' || c = '"' || c = '\''

def extraText : Value → String
  | .text text => if text.toList.any needsQuotes then Text.quoted text else text
  | value => value.literal

def severityWidth : Nat := 9

def messageWidth : Nat := 30

def pair (field : String × Value) : String :=
  field.1 ++ "=" ++ extraText field.2

def column (field : String × Value) : Option String :=
  let text := field.2.display
  match field.1 with
  | "" => some (pair field)
  | "timestamp" => some text
  | "level" => some ("[" ++ padTo severityWidth text ++ "]")
  | "event" => some (padTo messageWidth text)
  | "logger" => some ("[" ++ text ++ "]")
  | "logger_name" => some ("[" ++ text ++ "]")
  | _ => none

def columnNames : List String :=
  ["", "timestamp", "level", "event", "logger", "logger_name"]

def attachedNames : List String :=
  ["stack", "exception", "exc_info"]

def columnFields (fields : Value.Fields) : Value.Fields :=
  columnNames.filterMap fun name => (fields.get? name).map fun value => (name, value)

def otherFields (fields : Value.Fields) : Value.Fields :=
  (fields.filter fun field => field.1 ∉ columnNames ++ attachedNames).mergeSort fun a b => a.1 ≤ b.1

def attached? (fields : Value.Fields) (name : String) : Option String :=
  match fields.get? name with
  | none => none
  | some .null => none
  | some value => some value.display

def rule : String :=
  "\n\n" ++ .ofList (List.replicate 79 '=') ++ "\n"

def attachments (fields : Value.Fields) : String :=
  let exception := attached? fields "exception"
  let raised := exception.isSome || (fields.get? "exc_info").any Value.isTruthy
  let stack := match attached? fields "stack" with
    | some text => "\n" ++ text ++ if raised then rule else ""
    | none => ""
  stack ++ match exception with
    | some text => "\n" ++ text
    | none => ""

def consoleLine (time : String) (event : LogEvent) : String :=
  let fields := event.fields time
  let parts := ((columnFields fields).filterMap column ++ (otherFields fields).map pair).filter (· != "")
  let line := " ".intercalate parts
  .ofList (Text.trimEnd (· == ' ') line.toList) ++ attachments fields

end LogEvent

end AlertRange

import AlertRange.CommandLine.Help
import AlertRange.CommandLine.Operand
import AlertRange.Log.Setup
import AlertRange.Settings

namespace AlertRange.CommandLine

/-- What ends a run before its result is written. -/
inductive RunFault where
  /-- Settings that cannot be read. -/
  | settings (errors : List FieldError)
  /-- A report that cannot be shown. -/
  | report (error : Report.FormError)
  | check (error : CheckError)

namespace RunFault

def message : RunFault → String
  | .settings errors => FieldError.messages errors
  | .report error => error.message
  | .check error => error.message

end RunFault

structure Outcome where
  code : Nat
  out : String
  err : String
  fault : Option RunFault

namespace Outcome

def answered (text : String) : Outcome :=
  ⟨0, text, "", none⟩

def misused (command : Command) (fault : UsageFault) : Outcome :=
  ⟨2, "", faultText command fault, none⟩

def unset (errors : List FieldError) : Outcome :=
  ⟨1, "", "", some (.settings errors)⟩

end Outcome

def logText (settings : Settings) (time : String) (records : List LogRecord) : String :=
  (LogSetup.initial.configure settings.verbose settings.logJson).recorded [] time records

def warningText (settings : Settings) (report : Report) : String :=
  if settings.jsonOutput then ""
  else String.join (report.warnings.map fun warning => written ("WARNING: " ++ warning))

/-- Writes a report: to standard output if it is good, else to standard error. -/
def emit (settings : Settings) (log : String) (report : Report) : Outcome :=
  match report.format settings.mode with
  | .ok text =>
    if report.ok then ⟨0, written text, log ++ warningText settings report, none⟩
    else ⟨1, "", log ++ written text, none⟩
  | .error error => ⟨1, "", log, some (.report error)⟩

def emitInquiry (settings : Settings) (time : String) (inquiry : Report.Inquiry) : Outcome :=
  let log := logText settings time inquiry.log
  match inquiry.outcome with
  | .ok report => emit settings log report
  | .error error => ⟨1, "", log, some (.check error)⟩

inductive CommandName where
  | parse
  | check
  deriving DecidableEq

namespace CommandName

def ofWord? (word : String) : Option CommandName :=
  if word = "parse" then some .parse else if word = "check" then some .check else none

def words : List String :=
  ["parse", "check"]

def command : CommandName → Command
  | .parse => parseCommand
  | .check => checkCommand

def inquire : CommandName → List String → Except UsageFault Report.Inquiry
  | .parse, operands => (parseOperands operands).map Report.ofSpec
  | .check, operands =>
    (checkOperands operands).map fun (spec, values) => Report.ofCheck spec (values.map .float)

end CommandName

def eagerText (command : Command) : Request → String
  | .version => versionText
  | .examples => command.examplesText
  | _ => command.helpText

def runCommand (settings : Settings) (time : String) (name : CommandName) (words : List String) :
    Outcome :=
  match scan name.command.switches true words with
  | .error fault => .misused name.command fault
  | .ok found =>
    match found.eager? with
    | some request => .answered (eagerText name.command request)
    | none =>
      match name.inquire found.operands with
      | .error fault => .misused name.command fault
      | .ok inquiry => emitInquiry settings time inquiry

def flagFields (found : Scan) : Value.Fields :=
  [("json_output", .bool (found.has .json)), ("quiet", .bool (found.has .quiet)),
    ("verbose", .bool (found.has .verbose)), ("log_json", .bool (found.has .logJson))]

def withSettings (environment : Environment) (found : Scan) (go : Settings → Outcome) : Outcome :=
  match Settings.resolve environment (flagFields found) with
  | .ok settings => go settings
  | .error errors => .unset errors

def runUnknown (word : String) (rest : List String) : Outcome :=
  match scan rootCommand.switches false (word :: rest) with
  | .error fault => .misused rootCommand fault
  | .ok found =>
    match found.eager? with
    | some request => .answered (eagerText rootCommand request)
    | none =>
      .misused rootCommand (.unknownCommand word (Text.suggestions word CommandName.words))

/-- The settings are read before the words of a command, and after its name. Of the environment only their
variables count. -/
def run (environment : Environment) (time : String) (words : List String) : Outcome :=
  match scan rootCommand.switches false words with
  | .error fault => .misused rootCommand fault
  | .ok found =>
    match found.eager? with
    | some request => .answered (eagerText rootCommand request)
    | none =>
      match found.operands with
      | [] => withSettings environment found fun _ => .answered rootCommand.helpText
      | word :: rest =>
        match CommandName.ofWord? word with
        | none => runUnknown word rest
        | some name => withSettings environment found fun settings => runCommand settings time name rest

end AlertRange.CommandLine

import AlertRange.Field.Assignment
import AlertRange.Report.Format

namespace AlertRange

structure Settings where
  jsonOutput : Bool
  quiet : Bool
  verbose : Bool
  logJson : Bool
  deriving DecidableEq

/-- Names and texts of variables, in the order in which they were set. Only the variables of the settings are
looked at: those that a library reads for itself, for shell completion or colours (`_NAGRANGE_COMPLETE`,
`FORCE_COLOR`), are taken to be unset. -/
abbrev Environment := List (String × String)

namespace Environment

/-- The text of a variable, whatever the case of its name; of several the last counts. -/
def get? (environment : Environment) (name : String) : Option String :=
  (environment.reverse.find? fun entry => Text.isWord name entry.1.toList).map Prod.snd

end Environment

namespace Settings

def fieldNames : List String :=
  ["json_output", "quiet", "verbose", "log_json"]

def variableName (field : String) : String :=
  "nagrange_" ++ field

def setFlags (flags : Value.Fields) : Value.Fields :=
  flags.filter (·.2.isTruthy)

/-- The value that is set for a field, whatever the case of its name; of several the first counts. -/
def flag? (flags : Value.Fields) (name : String) : Option Value :=
  ((setFlags flags).find? fun flag => Text.isWord name flag.1.toList).map Prod.snd

def resolveField (environment : Environment) (flags : Value.Fields) (name : String) :
    Except FieldError Bool :=
  match flag? flags name with
  | some value => (Coercion.truth value).mapError (⟨name, ·⟩)
  | none =>
    match environment.get? (variableName name) with
    | some text => (Coercion.truthOfText text).mapError (⟨name, ·⟩)
    | none => .ok false

def unknownFlags (flags : Value.Fields) : List FieldError :=
  (setFlags flags).filterMap fun flag =>
    if fieldNames.any (Text.isWord · flag.1.toList) then none else some ⟨flag.1, .unknown⟩

def resolve (environment : Environment) (flags : Value.Fields) : Except (List FieldError) Settings :=
  match resolveField environment flags "json_output", resolveField environment flags "quiet",
      resolveField environment flags "verbose", resolveField environment flags "log_json",
      unknownFlags flags with
  | .ok jsonOutput, .ok quiet, .ok verbose, .ok logJson, [] =>
    .ok ⟨jsonOutput, quiet, verbose, logJson⟩
  | jsonOutput, quiet, verbose, logJson, unknown =>
    .error (FieldError.ofResult jsonOutput ++ FieldError.ofResult quiet ++
      FieldError.ofResult verbose ++ FieldError.ofResult logJson ++ unknown)

/-- The type itself is the first argument of `ofFlags`; no flag can have its name. -/
def ownArgument : String := "cls"

inductive FlagError where
  | repeated (argument : String)
  | fields (errors : List FieldError)

def FlagError.message : FlagError → String
  | .repeated argument =>
    "RangeSettings.from_cli() got multiple values for argument '" ++ argument ++ "'"
  | .fields errors => FieldError.messages errors

def ofFlags (environment : Environment) (flags : Value.Fields) : Except FlagError Settings :=
  if flags.any (·.1 == ownArgument) then .error (.repeated ownArgument)
  else
    match resolve environment flags with
    | .ok settings => .ok settings
    | .error errors => .error (.fields errors)

def assign (settings : Settings) (field : String) (value : Value) : Except AssignmentError Settings :=
  (assigned "RangeSettings" field value).map fun _ => settings

def mode (settings : Settings) : Report.Mode :=
  ⟨settings.jsonOutput, settings.quiet, settings.verbose⟩

end Settings

end AlertRange

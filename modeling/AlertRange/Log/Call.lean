import AlertRange.Log.Event
import AlertRange.Log.Template

namespace AlertRange

inductive LogMethod where
  | named (severity : Severity)
  | fatal
  /-- For exceptions that are being handled. -/
  | exception
  deriving DecidableEq

namespace LogMethod

def name : LogMethod → String
  | .named severity => severity.name
  | .fatal => "fatal"
  | .exception => "exception"

def level : LogMethod → Severity
  | .named severity => severity
  | .fatal => .critical
  | .exception => .error

end LogMethod

inductive LogError where
  | repeated (function argument : String)
  | noRecord (typeName : String)
  | reserved (name : String)
  | unwritten (fault : TextFault)

namespace LogError

def message : LogError → String
  | .repeated function argument =>
    "BoundLogger." ++ function ++ "() got multiple values for argument '" ++ argument ++ "'"
  | .noRecord typeName => "'" ++ typeName ++ "' object has no attribute 'name'"
  | .reserved name => Text.quoted ("Attempt to overwrite " ++ Text.quoted name ++ " in LogRecord")
  | .unwritten fault => fault.message

end LogError

structure LogCall where
  method : LogMethod
  logger : String
  template : String
  values : List Value
  extras : Value.Fields
  route : LogRoute

namespace LogCall

def message (call : LogCall) : Except TemplateFault String :=
  match call.route with
  | .message => Template.text call.template call.values
  | .fields => .ok call.template

def event (call : LogCall) : Except TemplateFault LogEvent :=
  call.message.map fun message =>
    ⟨call.method.level, call.logger, message, call.extras, call.route, call.method = .exception⟩

def reservedNames : List String :=
  ["name", "msg", "args", "levelname", "levelno", "pathname", "filename", "module", "exc_info",
    "exc_text", "stack_info", "lineno", "funcName", "created", "msecs", "relativeCreated", "thread",
    "threadName", "processName", "process", "message", "asctime"]

def reserved? (extras : Value.Fields) : Option LogError :=
  (extras.find? (·.1 ∈ reservedNames)).map fun extra => .reserved extra.1

def repeated? (method : LogMethod) (extras : Value.Fields) : Option LogError :=
  ((extras.find? (·.1 ∈ ["self", "event"])).map fun extra => .repeated method.name extra.1).or
    ((extras.find? (·.1 = "method_name")).map fun extra => .repeated "_proxy_to_logger" extra.1)

def noRecord? (extras : Value.Fields) : Option LogError :=
  match extras.get? "_record" with
  | none => none
  | some .null => none
  | some value => some (.noRecord value.typeName)

def error? (call : LogCall) : Option LogError :=
  match call.route with
  | .message => reserved? call.extras
  | .fields => (repeated? call.method call.extras).or (noRecord? call.extras)

end LogCall

end AlertRange

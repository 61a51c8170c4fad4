import AlertRange.Log.Template

namespace AlertRange

inductive Severity where
  | debug
  | info
  | warning
  | error
  | critical
  deriving DecidableEq

namespace Severity

def rank : Severity → Nat
  | .debug => 10
  | .info => 20
  | .warning => 30
  | .error => 40
  | .critical => 50

def name : Severity → String
  | .debug => "debug"
  | .info => "info"
  | .warning => "warning"
  | .error => "error"
  | .critical => "critical"

instance : LE Severity where
  le a b := a.rank ≤ b.rank

instance (a b : Severity) : Decidable (a ≤ b) :=
  inferInstanceAs (Decidable (a.rank ≤ b.rank))

end Severity

/-- What is logged: a template and its arguments, of which the message is made when it is written. -/
structure LogRecord where
  severity : Severity
  logger : String
  template : String
  values : List Value

namespace LogRecord

def message? (record : LogRecord) : Option String :=
  Template.text? record.template record.values

/-- The message; none can be made of arguments that have no text. -/
def message (record : LogRecord) : String :=
  record.message?.getD ""

def line (record : LogRecord) : String :=
  record.severity.name.map Char.toUpper ++ " " ++ record.logger ++ ": " ++ record.message

end LogRecord

end AlertRange

import AlertRange.Spec.Parser

namespace AlertRange

inductive SpecFaultKind where
  | other
  | bound (side : Side)
  | order
  deriving DecidableEq

/-- A fault was given too many or too few arguments, besides `named` ones. -/
structure ArityError where
  kind : SpecFaultKind
  given : Nat
  named : Nat

namespace SpecFaultKind

def function : SpecFaultKind → String
  | .other => "RangeParseError.__init__()"
  | .bound _ => "_BoundParseError.__init__()"
  | .order => "InvalidOrderError.__init__()"

def parameters : SpecFaultKind → List String
  | .other => ["message"]
  | .bound _ => ["token", "reason"]
  | .order => ["start", "end"]

end SpecFaultKind

namespace ArityError

def plural (n : Nat) (noun : String) : String :=
  if n = 1 then noun else noun ++ "s"

def countOf (n : Nat) (noun : String) : String :=
  intText n ++ " " ++ plural n noun

def tooMany (error : ArityError) : String :=
  let given := error.given + 1
  let found :=
    if error.named = 0 then intText given
    else countOf given "positional argument" ++ " (and " ++
      countOf error.named "keyword-only argument" ++ ")"
  "takes " ++ countOf (error.kind.parameters.length + 1) "positional argument" ++ " but " ++ found ++
    " were given"

def tooFew (error : ArityError) : String :=
  let missing := error.kind.parameters.drop error.given
  "missing " ++ countOf missing.length "required positional argument" ++ ": " ++
    " and ".intercalate (missing.map Text.quoted)

def message (error : ArityError) : String :=
  error.kind.function ++ " " ++
    if error.kind.parameters.length < error.given then error.tooMany else error.tooFew

end ArityError

inductive ArgumentError where
  | arity (error : ArityError)
  | unwritten (fault : TextFault)

def ArgumentError.message : ArgumentError → String
  | .arity error => error.message
  | .unwritten fault => fault.message

namespace SpecFault

def told (fault : SpecFault) (shown : List Value) : Except ArgumentError SpecFault :=
  match shown.findSome? Value.fault? with
  | none => .ok fault
  | some stopped => .error (.unwritten stopped)

def ofArguments (kind : SpecFaultKind) (named : Nat) (values : List Value) :
    Except ArgumentError SpecFault :=
  match kind, values with
  | .other, [message] => told (.other message.display) [message]
  | .bound side, [token, reason] => told (.bound side token reason) [reason]
  | .order, [start, stop] => told (.order start stop) [start, stop]
  | _, _ => .error (.arity ⟨kind, values.length, named⟩)

end SpecFault

end AlertRange

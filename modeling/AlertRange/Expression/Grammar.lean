import AlertRange.Expression.Operation
import AlertRange.Expression.Parameter

namespace AlertRange.Expression

namespace Reading

def function : Reading Tree :=
  rule do
    word "lambda"
    let _ ← maybe (rule (diagnosed badParameters <|> parameters))
    mark ":"
    let body ← call .expression
    return .other .lambda [body]

def conditional : Reading Tree := do
  let value ← call .disjunction
  word "if"
  let condition ← call .disjunction
  word "else"
  let other ← call .expression
  return .other .conditional [value, condition, other]

def quietExpression : Reading Tree :=
  rule (quietly (conditional <|> call .disjunction <|> function))

def isLegacyCall : Tree → Bool
  | .name text => text = "print" || text = "exec"
  | _ => false

def startsOtherwise : Reading Unit :=
  rule
    ((do
      let _ ← name
      let _ ← ofKind .quoted) <|>
    (do let _ ← accept Token.isLooseWord))

def badExpression : Reading Tree :=
  diagnose
    ((do
      notAhead startsOtherwise
      let first ← call .disjunction
      let _ ← quietExpression
      let last ← last?
      return if isLegacyCall first || (last.map (·.depth)).getD 0 = 0 then none else some .noComma) <|>
    (do
      let _ ← call .disjunction
      word "if"
      let _ ← call .disjunction
      notAhead (rule (word "else" <|> mark ":"))
      return some .noElse))

def badLegacyCall : Reading Tree :=
  diagnose do
    let function ← name
    notAhead (mark "(")
    let _ ← starExpressions
    return if isLegacyCall (.name function) then some (.noBrackets function) else none

def expression : Reading Tree :=
  diagnosed badExpression <|> diagnosed badLegacyCall <|> conditional <|> call .disjunction <|> function

def starExpression : Reading Tree :=
  (do
    mark "*"
    let item ← call .union
    return .starred item) <|>
  call .expression

def cannotBeMeant : Reading Unit :=
  rule
    ((do let _ ← tuple) <|> (do let _ ← generator) <|> word "True" <|> word "None" <|> word "False")

def misnamed : Reading Tree := do
  let verdict ←
    (do
      let target ← call .expression
      mark ":="
      let _ ← call .expression
      return some (.namedTarget target.title)) <|>
    (do
      let _ ← name
      mark "="
      let _ ← call .union
      notAhead assignmentMark
      return some .assignment) <|>
    (do
      notAhead cannotBeMeant
      let target ← call .union
      mark "="
      let _ ← call .union
      notAhead assignmentMark
      return some (.assignedHere target.title))
  match verdict with
  | some fault => fail fault
  | none => refuse

def expressions : Reading Tree :=
  rule
    ((do
      let first ← call .expression
      let rest ← manyOne <| rule do
        mark ","
        call .expression
      let _ ← maybe (mark ",")
      return .tuple (first :: rest)) <|>
    (do
      let only ← call .expression
      mark ","
      return .tuple [only]) <|>
    call .expression)

def whole : Reading Tree :=
  rule do
    let value ← expressions
    let _ ← many (ofKind .lineEnd)
    let _ ← ofKind .finish
    return value

def field : Reading Tree :=
  rule starExpressions

end Reading

end AlertRange.Expression

import AlertRange.Expression.Reading

/-!
Targets of assignments and loops. Square brackets have no part in the grammar of expressions, since they
end the tag that an expression stands in.
-/

namespace AlertRange.Expression

namespace Reading

def startsTrailer : Reading Unit :=
  rule (mark "(" <|> mark ".")

def assignmentMark : Reading Unit :=
  rule (mark "=" <|> mark ":=")

def assigned : Reading Tree :=
  rule do
    let target ← name
    mark ":="
    let value ← call .expression
    return .other .named [.name target, value]

def unassigned : Reading Tree := do
  let value ← call .expression
  notAhead (mark ":=")
  return value

def commaTarget : Reading Tree :=
  rule do
    mark ","
    call .target

def tupleTargets : Reading (List Tree) :=
  rule
    ((do
      let first ← call .target
      let rest ← manyOne commaTarget
      let _ ← maybe (mark ",")
      return first :: rest) <|>
    (do
      let only ← call .target
      mark ","
      return [only]))

def atomTarget : Reading Tree :=
  rule
    ((do return .name (← name)) <|>
    (do
      mark "("
      let target ← call .targetAtom
      mark ")"
      return target) <|>
    (do
      mark "("
      let targets ← maybe tupleTargets
      mark ")"
      return .tuple (targets.getD [])))

def target : Reading Tree :=
  (do
    mark "*"
    let target ← rule do
      notAhead (mark "*")
      call .target
    return .starred target) <|>
  call .targetAtom

def targetAtom : Reading Tree :=
  (do
    let owner ← call .targetPrimary
    mark "."
    let _ ← name
    notAhead startsTrailer
    return .other .ofOwner [owner]) <|>
  atomTarget

def targets : Reading Tree :=
  rule
    ((do
      let target ← call .target
      notAhead (mark ",")
      return target) <|>
    (do
      let first ← call .target
      let rest ← many commaTarget
      let _ ← maybe (mark ",")
      return .tuple (first :: rest)))

def commaStarExpression : Reading Tree :=
  rule do
    mark ","
    call .starExpression

def starExpressions : Reading Tree :=
  rule
    ((do
      let first ← call .starExpression
      let rest ← manyOne commaStarExpression
      let _ ← maybe (mark ",")
      return .tuple (first :: rest)) <|>
    (do
      let only ← call .starExpression
      mark ","
      return .tuple [only]) <|>
    call .starExpression)

def badTarget : Reading Tree :=
  diagnose do
    let _ ← maybe (word "async")
    word "for"
    let tree ← starExpressions
    return tree.badTarget?.map fun part => .assigned part.title

def loopStart : Reading Tree := do
  word "for"
  let targets ← targets
  word "in"
  return targets

/-- Once a loop has its targets there is no other way to read it. -/
def loop : Reading Tree :=
  rule do
    match ← maybe ((do word "async"; loopStart) <|> loopStart) with
    | some targets =>
      let source ← call .disjunction
      let conditions ← many <| rule do
        word "if"
        call .disjunction
      return .other .generator (targets :: source :: conditions)
    | none => diagnosed badTarget

def loops : Reading (List Tree) :=
  rule (manyOne loop)

end Reading

end AlertRange.Expression

import AlertRange.Expression.Argument

namespace AlertRange.Expression

namespace Reading

def joined (text : String) (operand : Rule) : Reading Tree :=
  (do
    let first ← call operand
    let rest ← manyOne <| rule do
      word text
      call operand
    return .other .logical (first :: rest)) <|>
  call operand

def comparedBy (sign : Reading Unit) (isMember : Bool) : Reading (Bool × Tree) :=
  rule do
    sign
    let other ← call .union
    return (isMember, other)

def compared : Reading (Bool × Tree) :=
  rule
    (comparedBy (mark "==") false <|>
    comparedBy (rule (mark "!=")) false <|>
    comparedBy (mark "<=") false <|>
    comparedBy (mark "<") false <|>
    comparedBy (mark ">=") false <|>
    comparedBy (mark ">") false <|>
    comparedBy (do word "not"; word "in") false <|>
    comparedBy (word "in") true <|>
    comparedBy (do word "is"; word "not") false <|>
    comparedBy (word "is") false)

def comparison : Reading Tree :=
  rule
    ((do
      let first ← call .union
      let others ← manyOne compared
      let rest := others.map (·.2)
      return if (others.head?.map (·.1)).getD false then .member first rest
        else .other .comparison (first :: rest)) <|>
    call .union)

def inversion : Reading Tree :=
  (do
    word "not"
    let operand ← call .inversion
    return .signed "not" operand) <|>
  comparison

def operation (left : Rule) (text : String) (right : Rule) : Reading Tree := do
  let first ← call left
  mark text
  let second ← call right
  return .operation text first second

def sign (text : String) : Reading Tree := do
  mark text
  let operand ← call .factor
  return .signed text operand

def power : Reading Tree :=
  rule
    ((do
      let base ← call .awaited
      mark "**"
      let exponent ← call .factor
      return .operation "**" base exponent) <|>
    call .awaited)

def factor : Reading Tree :=
  sign "+" <|> sign "-" <|> sign "~" <|> power

def constant (text : String) (value : Constant) : Reading Tree := do
  word text
  return .constant value

def numeral : Reading Tree := do
  let token ← ofKind .number
  return .constant (.number (.ofText token.text.toList))

def atom : Reading Tree :=
  rule
    ((do return .name (← name)) <|>
    constant "True" (.truth true) <|>
    constant "False" (.truth false) <|>
    constant "None" .none <|>
    (do
      ahead (ofKind .quoted)
      call .quotation) <|>
    numeral <|>
    (do
      ahead (mark "(")
      rule (tuple <|> group <|> generator)) <|>
    (do
      ahead (mark "\x7b")
      rule (dict <|> set <|> dictComprehension <|> setComprehension)) <|>
    (do
      mark "..."
      return .constant .ellipsis))

def withArguments (function arguments : Tree) : Tree :=
  match arguments with
  | .call _ items keywords => .call function items keywords
  | _ => .call function [] []

/-- A primary expression after another of a rule, or an atom; nothing may be left to read of it if it
ends with `atEnd`. -/
def primaryOf (inner : Rule) (atEnd : Reading Unit) : Reading Tree :=
  (do
    let owner ← call inner
    mark "."
    let _ ← name
    atEnd
    return .other .ofOwner [owner]) <|>
  (do
    let function ← call inner
    let argument ← generator
    atEnd
    return .call function [argument] []) <|>
  (do
    let function ← call inner
    mark "("
    let arguments ← maybe (call .arguments)
    mark ")"
    atEnd
    return withArguments function (arguments.getD (.tuple []))) <|>
  (do
    let atom ← atom
    atEnd
    return atom)

def awaited : Reading Tree :=
  (do
    word "await"
    let value ← call .primary
    return .other .awaited [value]) <|>
  call .primary

end Reading

end AlertRange.Expression

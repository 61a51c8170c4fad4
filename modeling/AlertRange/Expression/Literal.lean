import AlertRange.Binary64.Basic
import AlertRange.Expression.Parser

namespace AlertRange.Expression

inductive Literal where
  | plain
  | tuple (items : List Literal)
  | set
  | dict

inductive LiteralFault where
  | notValue
  | unpacked
  | unhashable (title : String)
  | tooLarge
  | tooDeep
  | tooManyRules
  | nullCharacter

namespace LiteralFault

def message : LiteralFault → String
  | .notValue => "malformed node or string"
  | .unpacked => "malformed node or string: None"
  | .unhashable title => "unhashable type: '" ++ title ++ "'"
  | .tooLarge => "int too large to convert to float"
  | .tooDeep => "maximum recursion depth exceeded during ast construction"
  | .tooManyRules => ""
  | .nullCharacter => "source code string cannot contain null bytes"

end LiteralFault

namespace Literal

mutual

def unhashable? : Literal → Option String
  | .plain => none
  | .set => some "set"
  | .dict => some "dict"
  | .tuple items => unhashableOf? items

def unhashableOf? : List Literal → Option String
  | [] => none
  | item :: rest => (unhashable? item).or (unhashableOf? rest)

end

def checkHashable (value : Literal) : Except LiteralFault Unit :=
  match value.unhashable? with
  | some title => .error (.unhashable title)
  | none => .ok ()

def number? : Tree → Option Numeral
  | .constant (.number value) => some value
  | .signed "+" (.constant (.number value)) => some value
  | .signed "-" (.constant (.number value)) => some value
  | _ => none

def checkComplex (left right : Option Numeral) : Except LiteralFault Unit :=
  match left, right with
  | some (.whole n), some .imaginary =>
    match Binary64.ofInt n with
    | .infinite _ => .error .tooLarge
    | _ => .ok ()
  | some .real, some .imaginary => .ok ()
  | _, _ => .error .notValue

mutual

def ofTree : Tree → Except LiteralFault Literal
  | .constant _ => .ok .plain
  | .tuple items => (ofItems items).map .tuple
  | .set items => (checkItems items).map fun _ => .set
  | .call (.name "set") [] [] => .ok .set
  | .dict pairs => (checkPairs pairs).map fun _ => .dict
  | .operation mark left right =>
    match right with
    | .constant (.number value) =>
      if mark = "+" || mark = "-" then (checkComplex (number? left) (some value)).map fun _ => .plain
      else .error .notValue
    | _ => .error .notValue
  | tree =>
    match number? tree with
    | some _ => .ok .plain
    | none => .error .notValue

def ofItems : List Tree → Except LiteralFault (List Literal)
  | [] => .ok []
  | item :: rest => do
    let value ← ofTree item
    .ok (value :: (← ofItems rest))

def checkItems : List Tree → Except LiteralFault Unit
  | [] => .ok ()
  | item :: rest => do
    (← ofTree item).checkHashable
    checkItems rest

def checkPairs : List (Option Tree × Tree) → Except LiteralFault Unit
  | [] => .ok ()
  | (none, _) :: _ => .error .unpacked
  | (some key, value) :: rest => do
    let key ← ofTree key
    let _ ← ofTree value
    key.checkHashable
    checkPairs rest

end

def heightLimit : Nat :=
  2940

end Literal

inductive ValueFault where
  | text (fault : Fault)
  | value (fault : LiteralFault)

def valueFault? (text : List Char) : Option ValueFault :=
  if '\x00' ∈ text then some (.value .nullCharacter)
  else
    match Tree.ofText text with
    | .error .tooDeep => some (.value .tooManyRules)
    | .error fault => some (.text fault)
    | .ok tree =>
      if Literal.heightLimit < tree.height then some (.value .tooDeep)
      else
        match Literal.ofTree tree with
        | .error fault => some (.value fault)
        | .ok _ => none

end AlertRange.Expression

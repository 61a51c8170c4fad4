import AlertRange.Expression.Numeral

namespace AlertRange.Expression

inductive Constant where
  | none
  | truth (value : Bool)
  | ellipsis
  | number (value : Numeral)
  | text

inductive Kind where
  | ofOwner
  | awaited
  | comparison
  | conditional
  | dictComprehension
  | formatted
  | generator
  | lambda
  | logical
  | named
  | setComprehension
  | yielded
  deriving DecidableEq

namespace Kind

def title : Kind → String
  | .ofOwner => "attribute"
  | .awaited => "await expression"
  | .comparison => "comparison"
  | .conditional => "conditional expression"
  | .dictComprehension => "dict comprehension"
  | .formatted => "f-string expression"
  | .generator => "generator expression"
  | .lambda => "lambda"
  | .logical => "expression"
  | .named => "named expression"
  | .setComprehension => "set comprehension"
  | .yielded => "yield expression"

end Kind

inductive Tree where
  | name (text : String)
  | constant (value : Constant)
  | tuple (items : List Tree)
  | set (items : List Tree)
  /-- Pairs of a key and a value; what is unpacked has no key. -/
  | dict (pairs : List (Option Tree × Tree))
  | signed (sign : String) (operand : Tree)
  | operation (mark : String) (left right : Tree)
  | starred (item : Tree)
  /-- Membership of the first in what follows. -/
  | member (first : Tree) (rest : List Tree)
  | call (function : Tree) (items : List Tree) (keywords : List (Option String × Tree))
  | other (kind : Kind) (parts : List Tree)

namespace Constant

def title : Constant → String
  | .none => "None"
  | .truth true => "True"
  | .truth false => "False"
  | .ellipsis => "ellipsis"
  | .number _ => "literal"
  | .text => "literal"

end Constant

namespace Tree

def title : Tree → String
  | .name _ => "name"
  | .constant value => value.title
  | .tuple _ => "tuple"
  | .set _ => "set display"
  | .dict _ => "dict literal"
  | .signed _ _ => "expression"
  | .operation _ _ _ => "expression"
  | .starred _ => "starred"
  | .member _ _ => "comparison"
  | .call _ _ _ => "function call"
  | .other kind _ => kind.title

mutual

/-- The part of an expression that keeps it from being a target of a loop. Of a membership, the part
before the word may be the target that was meant. -/
def badTarget? : Tree → Option Tree
  | .tuple items => badTargetOf? items
  | .starred item => badTarget? item
  | .member first _ => badTarget? first
  | .other .comparison _ => none
  | .name _ => none
  | .other .ofOwner _ => none
  | tree => some tree

def badTargetOf? : List Tree → Option Tree
  | [] => none
  | item :: rest => (badTarget? item).or (badTargetOf? rest)

end

mutual

def height : Tree → Nat
  | .name _ => 1
  | .constant _ => 1
  | .tuple items => heightOf items + 1
  | .set items => heightOf items + 1
  | .dict pairs => heightOfPairs pairs + 1
  | .signed _ operand => height operand + 1
  | .operation _ left right => max (height left) (height right) + 1
  | .starred item => height item + 1
  | .member first rest => max (height first) (heightOf rest) + 1
  | .call function items keywords =>
    max (height function) (max (heightOf items) (heightOfKeywords keywords)) + 1
  | .other _ parts => heightOf parts + 1

def heightOf : List Tree → Nat
  | [] => 0
  | item :: rest => max (height item) (heightOf rest)

def heightOfPairs : List (Option Tree × Tree) → Nat
  | [] => 0
  | (some key, value) :: rest => max (max (height key) (height value)) (heightOfPairs rest)
  | (none, value) :: rest => max (height value) (heightOfPairs rest)

def heightOfKeywords : List (Option String × Tree) → Nat
  | [] => 0
  | (_, value) :: rest => max (height value) (heightOfKeywords rest)

end

end Tree

end AlertRange.Expression

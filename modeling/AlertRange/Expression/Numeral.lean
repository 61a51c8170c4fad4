import AlertRange.Expression.Token
import AlertRange.Text.Identifier

namespace AlertRange.Expression

def isNamePart (c : Char) : Bool :=
  c.isAlphanum || c = '_' || 0x80 ≤ c.toNat

namespace Notation

def after (way : Notation) (due : Bool) : List Char → Except TokenFault (List Char)
  | [] => if due then .error (.number way) else .ok []
  | '_' :: rest => if due then .error (.number way) else after way true rest
  | c :: rest =>
    if way.isDigit c then after way false rest
    else if c.isDigit then .error (.digit c way)
    else if due then .error (.number way)
    else .ok (c :: rest)

def startsName (cs : List Char) : Bool :=
  (cs.head?.map isNamePart).getD false

/-- Whether a word is at the head that may follow a numeral without a space. Of two letters it may even be
the beginning of a longer one. -/
def startsFollower (cs : List Char) : Bool :=
  (["if", "in", "is"].any fun word => word.toList.isPrefixOf cs) ||
    ["and", "else", "for", "not", "or"].any fun word =>
      word.toList.isPrefixOf cs && !startsName (cs.drop word.length)

def checkRest (way : Notation) (rest : List Char) : Except TokenFault (List Char) :=
  if startsName rest && !startsFollower rest then .error (.number way) else .ok rest

end Notation

def isAtHead (small capital : Char) (cs : List Char) : Bool :=
  cs.head? = some small || cs.head? = some capital

def startsWithDigit (cs : List Char) : Bool :=
  (cs.head?.map Char.isDigit).getD false

namespace Numeral

def afterDigits (rest : List Char) : Except TokenFault (List Char) :=
  if isAtHead 'j' 'J' rest then Notation.imaginary.checkRest (rest.drop 1)
  else Notation.decimal.checkRest rest

def afterMantissa (rest : List Char) : Except TokenFault (List Char) :=
  if isAtHead 'e' 'E' rest then
    let digits := rest.drop 1
    if digits.head? = some '+' ∨ digits.head? = some '-' then
      if startsWithDigit (digits.drop 1) then (Notation.decimal.after false (digits.drop 1)).bind afterDigits
      else .error (.number .decimal)
    else if startsWithDigit digits then (Notation.decimal.after false digits).bind afterDigits
    else Notation.decimal.checkRest rest
  else afterDigits rest

def afterPoint (rest : List Char) : Except TokenFault (List Char) :=
  if startsWithDigit rest then (Notation.decimal.after false rest).bind afterMantissa
  else afterMantissa rest

def afterDecimal (cs : List Char) : Except TokenFault (List Char) := do
  let rest ← Notation.decimal.after false cs
  let padded := cs.head? = some '0' && (cs.take (cs.length - rest.length)).any fun c => c != '0' && c != '_'
  if rest.head? = some '.' then afterPoint (rest.drop 1)
  else if padded && !isAtHead 'e' 'E' rest && !isAtHead 'j' 'J' rest then .error .leadingZeros
  else afterMantissa rest

def afterLetter (way : Notation) (digits : List Char) : Except TokenFault (List Char) := do
  let digits := if digits.head? = some '_' then digits.drop 1 else digits
  way.checkRest (← way.after true digits)

def lettered? (cs : List Char) : Option Notation :=
  if cs.head? = some '0' then
    if isAtHead 'x' 'X' (cs.drop 1) then some .hexadecimal
    else if isAtHead 'o' 'O' (cs.drop 1) then some .octal
    else if isAtHead 'b' 'B' (cs.drop 1) then some .binary
    else none
  else none

def after (cs : List Char) : Except TokenFault (List Char) :=
  if cs.head? = some '.' then afterPoint (cs.drop 1)
  else
    match lettered? cs with
    | some way => afterLetter way (cs.drop 2)
    | none => afterDecimal cs

end Numeral

/-- What a numeral denotes, as far as it tells numbers apart. -/
inductive Numeral where
  | whole (value : Nat)
  | real
  | imaginary

namespace Numeral

def digitValue (c : Char) : Nat :=
  if c.isDigit then c.toNat - '0'.toNat
  else if 'a' ≤ c then c.toNat - 'a'.toNat + 10
  else c.toNat - 'A'.toNat + 10

def wholeValue (base : Nat) (digits : List Char) : Nat :=
  (digits.filter (· != '_')).foldl (fun value c => value * base + digitValue c) 0

def ofText (cs : List Char) : Numeral :=
  match lettered? cs with
  | some .hexadecimal => .whole (wholeValue 16 (cs.drop 2))
  | some .octal => .whole (wholeValue 8 (cs.drop 2))
  | some _ => .whole (wholeValue 2 (cs.drop 2))
  | none =>
    if cs.getLast? = some 'j' ∨ cs.getLast? = some 'J' then .imaginary
    else if cs.any fun c => c = '.' || c = 'e' || c = 'E' then .real
    else .whole (wholeValue 10 cs)

end Numeral

end AlertRange.Expression

import AlertRange.Decimal.Basic
import AlertRange.Text.Digit
import AlertRange.Text.Word

namespace AlertRange

inductive Numeral where
  | nan
  | infinite (neg : Bool)
  | decimal (d : Decimal)
  deriving DecidableEq

namespace Numeral

def toBinary64 : Numeral → Binary64
  | .nan => .nan
  | .infinite neg => .infinite neg
  | .decimal d => d.toBinary64

/-- Which digits a reader takes, and whether it takes NaN. -/
structure Dialect where
  digitValue? : Char → Option Nat
  takesNaN : Bool

def ofDigits (digits : List Nat) : Nat :=
  digits.foldl (fun value digit => 10 * value + digit) 0

namespace Dialect

variable (dialect : Dialect)

def digitRun : List Char → List Nat × List Char
  | [] => ([], [])
  | c :: rest =>
    match dialect.digitValue? c with
    | some digit => (digit :: (digitRun rest).1, (digitRun rest).2)
    | none => ([], c :: rest)

def sign : List Char → Bool × List Char
  | '-' :: rest => (true, rest)
  | '+' :: rest => (false, rest)
  | rest => (false, rest)

def power? : List Char → Option Int
  | [] => some 0
  | c :: rest =>
    if c = 'e' ∨ c = 'E' then
      let (neg, rest) := sign rest
      match dialect.digitRun rest with
      | (first :: more, []) => some (Binary64.signed neg (ofDigits (first :: more)))
      | _ => none
    else none

def fraction : List Char → List Nat × List Char
  | '.' :: rest => dialect.digitRun rest
  | rest => ([], rest)

def decimal? (neg : Bool) (cs : List Char) : Option Decimal :=
  let (whole, rest) := dialect.digitRun cs
  let (fraction, rest) := dialect.fraction rest
  if whole ++ fraction = [] then none
  else (dialect.power? rest).map fun power =>
    ⟨neg, ofDigits (whole ++ fraction), power - fraction.length⟩

def read? (cs : List Char) : Option Numeral :=
  let (neg, cs) := sign cs
  if Text.isWord "inf" cs || Text.isWord "infinity" cs then some (.infinite neg)
  else if dialect.takesNaN && Text.isWord "nan" cs then some .nan
  else (dialect.decimal? neg cs).map .decimal

end Dialect

end Numeral

end AlertRange

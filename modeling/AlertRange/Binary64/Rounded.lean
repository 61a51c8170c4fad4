import AlertRange.Binary64.Shortest
import AlertRange.Text.Trim

namespace AlertRange.Binary64

def steps (units : Nat) (step : Int) : Nat :=
  let (num, den) := stepRatio units step
  roundHalfEven num den

def withPoint (places : Nat) (point : Bool) (digits : List Char) : List Char :=
  let all := digits.leftpad (places + 1) '0'
  let whole := all.take (all.length - places)
  let fraction := all.drop (all.length - places)
  whole ++ if places = 0 ∧ !point then [] else '.' :: fraction

def fixedText (point : Bool) (units places : Nat) : List Char :=
  withPoint places point (Nat.toDigits 10 (steps units (-(places : Int))))

def leadingDigits (units places : Nat) : Nat × Int :=
  if units = 0 then (0, 0)
  else
    let exponent := firstExponent units
    let digits := steps units (exponent - places)
    if digits = Nat.pow 10 (places + 1) then (Nat.pow 10 places, exponent + 1) else (digits, exponent)

def exponentSuffix (exponent : Int) : List Char :=
  'e' :: (if exponent < 0 then '-' else '+') :: (Nat.toDigits 10 exponent.natAbs).leftpad 2 '0'

def scientificText (point : Bool) (units places : Nat) : List Char :=
  let (digits, exponent) := leadingDigits units places
  withPoint places point (Nat.toDigits 10 digits) ++ exponentSuffix exponent

def withoutZeros (cs : List Char) : List Char :=
  if '.' ∈ cs then
    Text.trimEnd (· == '.') (Text.trimEnd (· == '0') cs)
  else cs

/-- The number with so many significant digits, written out unless its exponent is below -4 or there
are more digits before the point than are known. Trailing zeros stay only on demand. -/
def generalText (zeros : Bool) (units digits : Nat) : List Char :=
  let places := max digits 1 - 1
  let (leading, exponent) := leadingDigits units places
  let tidy := fun cs => if zeros then cs else withoutZeros cs
  if -4 ≤ exponent ∧ exponent ≤ places then
    tidy (fixedText zeros units (places - exponent).toNat)
  else
    tidy (withPoint places zeros (Nat.toDigits 10 leading)) ++ exponentSuffix exponent

end AlertRange.Binary64

import AlertRange.Binary64.Shortest
import AlertRange.Text.Trim

namespace AlertRange

/-- Where a format writes a number out in full, by the exponent of its first digit, and the least
number of digits it gives to a written exponent. -/
structure Layout where
  leastExponent : Int
  exponentLimit : Int
  exponentDigits : Nat

def intDigits : Int → List Char
  | .ofNat n => Nat.toDigits 10 n
  | .negSucc n => '-' :: Nat.toDigits 10 (n + 1)

def intText (n : Int) : String :=
  .ofList (intDigits n)

namespace Layout

/-- Everyday text writes out `0.0001` and `1000000000000000.0`, and pads exponents to two digits. -/
def everyday : Layout :=
  ⟨-4, 16, 2⟩

def digits (d : Decimal) : List Char × Int :=
  let all := Nat.toDigits 10 d.coefficient
  (Text.trimEnd (· == '0') all, d.exponent + all.length - 1)

def positional (digits : List Char) (exponent : Int) : List Char :=
  if exponent < 0 then '0' :: '.' :: (List.replicate (-exponent - 1).toNat '0' ++ digits)
  else
    let whole := exponent.toNat + 1
    if digits.length ≤ whole then digits.rightpad whole '0' ++ ['.', '0']
    else digits.take whole ++ '.' :: digits.drop whole

def exponentText (layout : Layout) (exponent : Int) : List Char :=
  (if exponent < 0 then '-' else '+') ::
    (Nat.toDigits 10 exponent.natAbs).leftpad layout.exponentDigits '0'

def scientific (layout : Layout) (digits : List Char) (exponent : Int) : List Char :=
  let significand := match digits with
    | first :: second :: rest => first :: '.' :: second :: rest
    | short => short
  significand ++ 'e' :: layout.exponentText exponent

def magnitude (layout : Layout) (units : Nat) : List Char :=
  if units = 0 then ['0', '.', '0']
  else
    let (digits, exponent) := digits (Binary64.shortest units)
    if layout.leastExponent ≤ exponent ∧ exponent < layout.exponentLimit then
      positional digits exponent
    else layout.scientific digits exponent

def finite (layout : Layout) (neg : Bool) (units : Nat) : List Char :=
  if neg then '-' :: layout.magnitude units else layout.magnitude units

end Layout

def Binary64.text : Binary64 → String
  | .nan => "nan"
  | .infinite neg => if neg then "-inf" else "inf"
  | .finite neg units _ => .ofList (Layout.everyday.finite neg units)

end AlertRange

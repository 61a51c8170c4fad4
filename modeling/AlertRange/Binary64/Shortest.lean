import AlertRange.Decimal.Basic

namespace AlertRange.Binary64

def firstExponent (units : Nat) : Int :=
  (Nat.toDigits 10 (units * Nat.pow 10 400 / unitsPerOne)).length - 401

def stepRatio (units : Nat) (step : Int) : Nat × Nat :=
  (units * Nat.pow 10 (-step).toNat, unitsPerOne * Nat.pow 10 step.toNat)

def readsBack (units : Nat) (d : Decimal) : Bool :=
  match d.toBinary64 with
  | .finite _ back _ => back == units
  | _ => false

/-- The two decimals next to the number on the grid of `10 ^ step`, the nearer one first; of two
that are equally near, the even one. -/
def neighbours (units : Nat) (step : Int) : List Decimal :=
  let (num, den) := stepRatio units step
  let below : Decimal := ⟨false, num / den, step⟩
  let above : Decimal := ⟨false, num / den + 1, step⟩
  if roundHalfEven num den = num / den then [below, above] else [above, below]

def readable? (units : Nat) (digits : Nat) : Option Decimal :=
  (neighbours units (firstExponent units - digits + 1)).find? (readsBack units)

/-- Seventeen digits tell any two doubles apart. -/
def shortest (units : Nat) : Decimal :=
  if units = 0 then ⟨false, 0, 0⟩
  else ((List.range' 1 17).findSome? (readable? units)).getD
    ⟨false, units * Nat.pow 10 1074 / unitsPerOne, -1074⟩

end AlertRange.Binary64

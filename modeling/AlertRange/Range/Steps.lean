import AlertRange.Range.Check

/-!
Checking in steps. A whole number is made a double first, which fails for one beyond the finite doubles, and the
checks of whole numbers hand that double on to the check of numbers. `check`, `checkWhole` and `checkWhole32` take
each of these steps as a whole.
-/

namespace AlertRange

/-- What ends a check: the value is refused, or a whole number has no finite double. -/
inductive CheckStop where
  | refused (error : CheckError)
  | tooLarge (n : Int)

namespace Value

def finiteDouble (n : Int) : Except CheckStop Binary64 :=
  if (Binary64.ofInt n).isInfinite then .error (.tooLarge n) else .ok (.ofInt n)

/-- A whole number without a finite double counts as an infinity. -/
def widen (n : Int) : Binary64 :=
  (finiteDouble n).toOption.getD (if 0 < n then .infinity else .infinite true)

end Value

namespace Range

def checkInSteps (range : Range) : Value → Except CheckStop Bool
  | .int n => .ok (range.alerts (Value.widen n))
  | .float x => .ok (range.alerts x)
  | value => .error (.refused (.notNumber value))

def checkWholeInSteps (range : Range) : Value → Except CheckStop Bool
  | .int n => range.checkInSteps (.float (Value.widen n))
  | value => .error (.refused (.notWhole value))

def checkWhole32InSteps (range : Range) : Value → Except CheckStop Bool
  | .int n =>
    if Int32.minValue.toInt ≤ n ∧ n ≤ Int32.maxValue.toInt then
      (Value.finiteDouble n).bind fun x => range.checkInSteps (.float x)
    else
      match (Value.int n).shown? with
      | .ok _ => .error (.refused (.beyond32 n))
      | .error fault => .error (.refused (.unwritten fault))
  | value => .error (.refused (.notWhole32 value))

end Range

end AlertRange

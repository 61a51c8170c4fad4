import AlertRange.Range.Basic

namespace AlertRange

inductive CheckError where
  | notNumber (value : Value)
  | notWhole (value : Value)
  | notWhole32 (value : Value)
  | beyond32 (n : Int)
  /-- A number beyond 32 bits of which no message can be made. -/
  | unwritten (fault : TextFault)
  | incomparable (value : Value)

namespace CheckError

def message : CheckError → String
  | .notNumber value => "check() expects int or float, got " ++ value.typeName
  | .notWhole value => "check_int() expects int, got " ++ value.typeName
  | .notWhole32 value => "check_int32() expects int, got " ++ value.typeName
  | .beyond32 n => intText n ++ " does not fit in a signed 32-bit integer"
  | .unwritten fault => fault.message
  | .incomparable value =>
    "'<=' not supported between instances of 'float' and '" ++ value.typeName ++ "'"

inductive Kind where
  | type
  | overflow
  | text
  deriving DecidableEq

def kind : CheckError → Kind
  | .beyond32 _ => .overflow
  | .unwritten _ => .text
  | _ => .type

/-- The number stands in the message, which is made first. -/
def ofBeyond32 (n : Int) : CheckError :=
  match (Value.int n).fault? with
  | none => .beyond32 n
  | some fault => .unwritten fault

variable {n : Int}

theorem ofBeyond32_of_short (short : n.natAbs < Nat.pow 10 digitLimit) : ofBeyond32 n = .beyond32 n := by
  rw [ofBeyond32, Value.writable_int_iff.mpr short]

theorem ofBeyond32_of_long (long : Nat.pow 10 digitLimit ≤ n.natAbs) :
    ofBeyond32 n = .unwritten .tooManyDigits := by
  rw [ofBeyond32, Value.fault?_of_long long]

end CheckError

namespace Value

def checkedNumber : Value → Except CheckError Binary64
  | .int n => .ok (.ofInt n)
  | .float x => .ok x
  | value => .error (.notNumber value)

def checkedWhole : Value → Except CheckError Binary64
  | .int n => .ok (.ofInt n)
  | value => .error (.notWhole value)

def checkedWhole32 : Value → Except CheckError Binary64
  | .int n =>
    if Int32.minValue.toInt ≤ n ∧ n ≤ Int32.maxValue.toInt then .ok (.ofInt n)
    else .error (.ofBeyond32 n)
  | value => .error (.notWhole32 value)

end Value

namespace Range

def check (range : Range) (value : Value) : Except CheckError Bool :=
  value.checkedNumber.map range.alerts

def checkWhole (range : Range) (value : Value) : Except CheckError Bool :=
  value.checkedWhole.map range.alerts

def checkWhole32 (range : Range) (value : Value) : Except CheckError Bool :=
  value.checkedWhole32.map range.alerts

def contains? (range : Range) : Value → Except CheckError Bool
  | .bool b => .ok (range.containsInt b.toInt)
  | .int n => .ok (range.containsInt n)
  | .float x => .ok (range.contains x)
  | value => .error (.incomparable value)

end Range

end AlertRange

import AlertRange.Field.Assignment
import AlertRange.Range.Check
import AlertRange.Spec.Printer

namespace AlertRange

structure Loose where
  fields : Value.Fields
  /-- What is shown after the fields; null for nothing. -/
  extras : Value
  /-- What is only compared; null for nothing. -/
  hidden : Value

inductive LooseError where
  | lacks (owner member : String)
  | notCallable (typeName : String)
  | incomparable (left right : String)
  | notReal (typeName : String)
  | tooLarge
  | missing (name : String)
  | noParts (typeName : String)
  | textParts
  | listParts
  | unwritten (fault : TextFault)

namespace LooseError

def message : LooseError → String
  | .lacks owner member => "'" ++ owner ++ "' object has no attribute '" ++ member ++ "'"
  | .notCallable typeName => "'" ++ typeName ++ "' object is not callable"
  | .incomparable left right =>
    "'<=' not supported between instances of '" ++ left ++ "' and '" ++ right ++ "'"
  | .notReal typeName => "must be real number, not " ++ typeName
  | .tooLarge => "int too large to convert to float"
  | .missing name => Text.quoted name
  | .noParts typeName => "'" ++ typeName ++ "' object is not subscriptable"
  | .textParts => "string indices must be integers, not 'str'"
  | .listParts => "list indices must be integers or slices, not str"
  | .unwritten fault => fault.message

end LooseError

namespace Value

def whole? : Value → Option Int
  | .bool value => some value.toInt
  | .int value => some value
  | _ => none

def isNumber : Value → Bool
  | .float _ => true
  | value => value.whole?.isSome

def numberLe : Value → Value → Bool
  | .float x, .float y => x ≤ y
  | .float x, value => value.whole?.any (x.leInt ·)
  | value, .float y => value.whole?.any (Binary64.intLe · y)
  | left, right => left.whole?.any fun m => right.whole?.any (m ≤ ·)

mutual

/-- Equality of values: numbers by what they are worth, records whatever the order of their fields. -/
def same : Value → Value → Bool
  | .null, .null => true
  | .text a, .text b => a == b
  | .list as, .list bs => sameItems as bs
  | .record as, .record bs => as.length == bs.length && sameFields as bs
  | a, b => numberLe a b && numberLe b a

def sameItems : List Value → List Value → Bool
  | [], [] => true
  | a :: as, b :: bs => a.same b && sameItems as bs
  | _, _ => false

def sameFields : List (String × Value) → List (String × Value) → Bool
  | [], _ => true
  | (name, a) :: as, bs => ((Fields.get? bs name).any fun b => a.same b) && sameFields as bs

end

mutual

/-- Whether a value comes before another or is the same: numbers by size, texts by the codes of their
characters, lists by their first different items. -/
def lessEqual : Value → Value → Except LooseError Bool
  | .text a, .text b => .ok (a ≤ b)
  | .list as, .list bs => lessEqualItems as bs
  | a, b =>
    if a.isNumber && b.isNumber then .ok (numberLe a b)
    else .error (.incomparable a.typeName b.typeName)

def lessEqualItems : List Value → List Value → Except LooseError Bool
  | [], _ => .ok true
  | _ :: _, [] => .ok false
  | a :: as, b :: bs => if a.same b then lessEqualItems as bs else a.lessEqual b

end

def part (name : String) : Value → Except LooseError Value
  | .record fields =>
    match Fields.get? fields name with
    | some value => .ok value
    | none => .error (.missing name)
  | .text _ => .error .textParts
  | .list _ => .error .listParts
  | value => .error (.noParts value.typeName)

def asRecord (operation : String) : Value → Except LooseError Fields
  | .record fields => .ok fields
  | value => .error (.lacks value.typeName operation)

end Value

namespace Loose

def ofRange (range : Range) : Loose :=
  ⟨[("start", .float range.lower), ("end", .float range.upper), ("invert", .bool range.invert)],
    .null, .null⟩

def member (loose : Loose) (name : String) : Except LooseError Value :=
  match loose.fields.get? name with
  | some value => .ok value
  | none =>
    if loose.extras.isTruthy then
      match loose.extras.part name with
      | .error (.missing _) => .error (.lacks "Range" name)
      | found => found
    else .error (.lacks "Range" name)

/-- An operation can be asked for unless a value was put in its place. -/
def ask (loose : Loose) (operation : String) : Except LooseError Unit :=
  match loose.fields.get? operation with
  | some value => .error (.notCallable value.typeName)
  | none => .ok ()

/-! ### Membership -/

def contains (loose : Loose) (value : Value) : Except LooseError Bool := do
  loose.ask "contains"
  if ← (← loose.member "start").lessEqual value then value.lessEqual (← loose.member "end")
  else .ok false

/-- The verdict on a number; inside it is whatever the field says. -/
def alerts (loose : Loose) (x : Binary64) : Except LooseError Value := do
  loose.ask "check"
  let inside ← loose.contains (.float x)
  let invert ← loose.member "invert"
  .ok (if inside then invert else .bool !invert.isTruthy)

/-! ### Texts -/

def boundText : Value → Except LooseError String
  | .float x => .ok x.boundText
  | value => .error (.lacks value.typeName "is_integer")

def lowerText (value : Value) : Except LooseError String :=
  if value.same (.float (.infinite true)) then .ok "~" else boundText value

def upperText (value : Value) : Except LooseError String :=
  if value.same (.float .infinity) then .ok "" else boundText value

def spec (loose : Loose) : Except LooseError String := do
  loose.ask "to_spec"
  let invert ← loose.member "invert"
  let start ← loose.member "start"
  let lower ← if start.same (.int 0) then .ok "" else (lowerText start).map (· ++ ":")
  let upper ← upperText (← loose.member "end")
  .ok ((if invert.isTruthy then "@" else "") ++ lower ++ upper)

def condition (loose : Loose) : Except LooseError String := do
  let lower ← lowerText (← loose.member "start")
  let upper ← upperText (← loose.member "end")
  let invert ← loose.member "invert"
  .ok ((if invert.isTruthy then "inside" else "outside") ++ " range " ++ lower ++ ":" ++ upper)

def violation (loose : Loose) : Except LooseError Value :=
  match loose.condition with
  | .ok text => .ok (.text text)
  | .error (.lacks owner member) =>
    if loose.extras.isTruthy then loose.member "violation" else .error (.lacks owner member)
  | .error error => .error error

def boundData : Value → Except LooseError Value
  | .float x => .ok x.asData
  | .int n =>
    match Binary64.ofInt n with
    | .infinite _ => .error .tooLarge
    | _ => .ok (.int n)
  | .bool b => .ok (.bool b)
  | value => .error (.notReal value.typeName)

def data (loose : Loose) : Except LooseError Value.Fields := do
  loose.ask "to_dict"
  let lower ← boundData (← loose.member "start")
  let upper ← boundData (← loose.member "end")
  let invert ← loose.member "invert"
  .ok [("start", lower), ("end", upper), ("invert", invert), ("spec", .text (← loose.spec))]

def rangeFields : List String :=
  ["start", "end", "invert"]

def isShown (loose : Loose) (name : String) : Except LooseError Bool :=
  match loose.fields.get? "__pydantic_fields__" with
  | none => .ok (name ∈ rangeFields)
  | some description => do
    match (← description.asRecord "get").get? name with
    | none => .ok false
    | some value => if value.isTruthy then .error (.lacks value.typeName "repr") else .ok false

def literalField (field : String × Value) : Except LooseError String :=
  (field.2.literal?.map (field.1 ++ "=" ++ ·)).mapError .unwritten

def shownFields (loose : Loose) : Value.Fields → Except LooseError (List String)
  | [] => .ok []
  | (name, value) :: rest => do
    let shown ← loose.isShown name
    let field ← if shown then (literalField (name, value)).map ([·]) else .ok []
    let more ← shownFields loose rest
    .ok (field ++ more)

def shownExtras : Value → Except LooseError (List String)
  | .null => .ok []
  | value => do (← value.asRecord "items").mapM literalField

/-- Fields that are computed: there are none, unless something was put in the place of their list. -/
def checkComputed (loose : Loose) : Except LooseError Unit := do
  match loose.fields.get? "__pydantic_computed_fields__" with
  | none => .ok ()
  | some computed =>
    match ← computed.asRecord "items" with
    | [] => .ok ()
    | (_, value) :: _ => .error (.lacks value.typeName "repr")

def literal (loose : Loose) : Except LooseError String := do
  loose.ask "__repr_name__"
  loose.ask "__repr_str__"
  loose.ask "__repr_args__"
  loose.checkComputed
  let fields ← loose.shownFields loose.fields
  let extras ← shownExtras loose.extras
  .ok ("Range(" ++ ", ".intercalate (fields ++ extras) ++ ")")

/-! ### Comparison and assignment -/

/-- What was put in the place of the type's own origin may make it another type. -/
def isOwnType (loose : Loose) : Except LooseError Bool :=
  match loose.fields.get? "__pydantic_generic_metadata__" with
  | none => .ok true
  | some origin => (origin.part "origin").map (!·.isTruthy)

def isNull : Value → Bool
  | .null => true
  | _ => false

def sameAs (loose : Loose) (range : Range) : Except LooseError Bool := do
  let own ← loose.isOwnType
  .ok (own && isNull loose.hidden && isNull loose.extras &&
    (ofRange range).fields.all fun field => (loose.fields.get? field.1).any field.2.same)

/-- Assignment asks a list of earlier assignments, in whose place something may have been put. -/
def checkAssignable (loose : Loose) (name : String) : Except LooseError Unit := do
  match loose.fields.get? "__pydantic_setattr_handlers__" with
  | none => .ok ()
  | some earlier =>
    match (← earlier.asRecord "get").get? name with
    | some value => if isNull value then .ok () else .error (.notCallable value.typeName)
    | none => .ok ()
  loose.ask "_setattr_handler"

structure View where
  start : Value
  stop : Value
  invert : Value
  spec : String
  violation : Value

def view (loose : Loose) : Except LooseError View := do
  let start ← loose.member "start"
  let stop ← loose.member "end"
  let invert ← loose.member "invert"
  let spec ← loose.spec
  .ok ⟨start, stop, invert, spec, ← loose.violation⟩

def assign (loose : Loose) : Assigned → Loose
  | .fields fields => { loose with fields := fields }
  | .extras value => { loose with extras := value }
  | .hidden value => { loose with hidden := value }
  | .given => loose
  | .aside name value => { loose with fields := loose.fields.set name value }

end Loose

end AlertRange

import AlertRange.Binary64.Layout
import AlertRange.Text.Quoted

namespace AlertRange

/-- Whole numbers of more digits have no text. -/
@[irreducible]
def digitLimit : Nat := 4300

/-- Numbers of ten digits have a text. -/
theorem pow_ten_le : Nat.pow 10 10 ≤ Nat.pow 10 digitLimit := by
  apply Nat.pow_le_pow_right (by decide)
  unfold digitLimit
  decide

/-- Values nested deeper than this have no text. The stack has room for about a thousand of them, less what the
callers have taken of it. -/
@[irreducible]
def nestingLimit : Nat := 900

theorem nestingLimit_ne_zero : nestingLimit ≠ 0 := by
  unfold nestingLimit
  decide

/-- Why a value has no text. -/
inductive TextFault where
  | tooManyDigits
  | tooDeep
  | tooDeepJson
  deriving DecidableEq

namespace TextFault

def message : TextFault → String
  | .tooManyDigits =>
    "Exceeds the limit (" ++ intText digitLimit ++ " digits) for integer string conversion; " ++
      "use sys.set_int_max_str_digits() to increase the limit"
  | .tooDeep => "maximum recursion depth exceeded while getting the repr of an object"
  | .tooDeepJson => "maximum recursion depth exceeded while encoding a JSON object"

def inJson : TextFault → TextFault
  | .tooManyDigits => .tooManyDigits
  | _ => .tooDeepJson

end TextFault

inductive Value where
  | null
  | bool (value : Bool)
  | int (value : Int)
  | float (value : Binary64)
  | text (value : String)
  | list (items : List Value)
  | record (fields : List (String × Value))
  deriving Inhabited

namespace Value

abbrev Fields := List (String × Value)

def typeName : Value → String
  | .null => "NoneType"
  | .bool _ => "bool"
  | .int _ => "int"
  | .float _ => "float"
  | .text _ => "str"
  | .list _ => "list"
  | .record _ => "dict"

def isTruthy : Value → Bool
  | .null => false
  | .bool value => value
  | .int value => value != 0
  | .float value => value.position != 0 || value.isNaN
  | .text value => value != ""
  | .list items => !items.isEmpty
  | .record fields => !fields.isEmpty

mutual

def depth : Value → Nat
  | .list items => itemDepth items + 1
  | .record fields => fieldDepth fields + 1
  | _ => 1

def itemDepth : List Value → Nat
  | [] => 0
  | item :: rest => max item.depth (itemDepth rest)

def fieldDepth : List (String × Value) → Nat
  | [] => 0
  | (_, value) :: rest => max value.depth (fieldDepth rest)

end

mutual

def literal : Value → String
  | .null => "None"
  | .bool true => "True"
  | .bool false => "False"
  | .int value => intText value
  | .float value => value.text
  | .text value => Text.quoted value
  | .list items => "[" ++ itemLiterals items ++ "]"
  | .record fields => "\x7b" ++ fieldLiterals fields ++ "\x7d"

def itemLiterals : List Value → String
  | [] => ""
  | [item] => item.literal
  | item :: rest => item.literal ++ ", " ++ itemLiterals rest

def fieldLiterals : List (String × Value) → String
  | [] => ""
  | [(name, value)] => Text.quoted name ++ ": " ++ value.literal
  | (name, value) :: rest =>
    Text.quoted name ++ ": " ++ value.literal ++ ", " ++ fieldLiterals rest

end

def display : Value → String
  | .text value => value
  | value => value.literal

mutual

/-- The first reason not to write a value, if there is room for values nested `room` deep. -/
def faultWithin? (room : Nat) : Value → Option TextFault
  | .int n => if n.natAbs < Nat.pow 10 digitLimit then none else some .tooManyDigits
  | .list items => if room = 0 then some .tooDeep else itemFault? (room - 1) items
  | .record fields => if room = 0 then some .tooDeep else fieldFault? (room - 1) fields
  | _ => none

def itemFault? (room : Nat) : List Value → Option TextFault
  | [] => none
  | item :: rest => (item.faultWithin? room).or (itemFault? room rest)

def fieldFault? (room : Nat) : List (String × Value) → Option TextFault
  | [] => none
  | (_, value) :: rest => (value.faultWithin? room).or (fieldFault? room rest)

end

def fault? (value : Value) : Option TextFault :=
  value.faultWithin? nestingLimit

/-- A value that can be written: its whole numbers are short enough, and its lists and records are not too deep. -/
def Writable (value : Value) : Prop :=
  value.fault? = none

instance : DecidablePred Writable :=
  fun value => inferInstanceAs (Decidable (value.fault? = none))

def guarded (value : Value) (text : String) : Except TextFault String :=
  match value.fault? with
  | none => .ok text
  | some fault => .error fault

def shown? (value : Value) : Except TextFault String :=
  value.guarded value.display

def literal? (value : Value) : Except TextFault String :=
  value.guarded value.literal

theorem writable_float (x : Binary64) : (Value.float x).Writable := rfl

theorem writable_text (text : String) : (Value.text text).Writable := rfl

theorem writable_bool (b : Bool) : (Value.bool b).Writable := rfl

theorem fault?_int (n : Int) :
    (Value.int n).fault? = if n.natAbs < Nat.pow 10 digitLimit then none else some .tooManyDigits := by
  rw [fault?, faultWithin?]

theorem writable_int_iff {n : Int} : (Value.int n).Writable ↔ n.natAbs < Nat.pow 10 digitLimit := by
  rw [Writable, fault?_int]
  split
  · next short => exact iff_of_true rfl short
  · next long => exact iff_of_false nofun long

theorem fault?_of_long {n : Int} (long : Nat.pow 10 digitLimit ≤ n.natAbs) :
    (Value.int n).fault? = some .tooManyDigits := by
  rw [fault?_int, if_neg (Nat.not_lt.mpr long)]

theorem guarded_of_writable {value : Value} (writable : value.Writable) (text : String) :
    value.guarded text = .ok text := by
  rw [guarded, writable]

theorem exists_guarded_of_not_writable {value : Value} (unwritable : ¬ value.Writable) :
    ∃ fault, ∀ text, value.guarded text = .error fault := by
  obtain ⟨fault, found⟩ := Option.ne_none_iff_exists'.mp unwritable
  refine ⟨fault, fun text => ?_⟩
  rw [guarded, found]

namespace Fields

def get? (fields : Fields) (name : String) : Option Value :=
  List.lookup name fields

/-- Sets a field: in its place if the name is there, else at the end. -/
def set (name : String) (value : Value) : Fields → Fields
  | [] => [(name, value)]
  | (key, old) :: rest =>
    if key = name then (key, value) :: rest else (key, old) :: set name value rest

theorem get?_nil (name : String) : Fields.get? [] name = none := rfl

theorem get?_cons (key : String) (value : Value) (rest : Fields) (name : String) :
    Fields.get? ((key, value) :: rest) name = if name = key then some value else get? rest name := by
  simp only [get?, List.lookup_cons]
  split
  · next equal => rw [if_pos (beq_iff_eq.mp equal)]
  · next other => rw [if_neg (by simpa using other)]

/-- The last value given for a name counts, in the place of the first. -/
def ofList (pairs : List (String × Value)) : Fields :=
  pairs.foldl (fun fields pair => fields.set pair.1 pair.2) []

end Fields

end Value

end AlertRange

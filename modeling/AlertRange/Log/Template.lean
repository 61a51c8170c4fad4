import AlertRange.Binary64.Rounded
import AlertRange.Value

namespace AlertRange

/-- Why a template is not filled: it and its arguments do not fit each other, or an argument has no text. -/
inductive TemplateFault where
  | misfit
  | unwritten (fault : TextFault)

inductive Extent where
  | fixed (n : Nat)
  | given
  deriving DecidableEq

structure Slot where
  field : Option String
  flags : List Char
  width : Option Extent
  precision : Option Extent
  kind : Char
  deriving DecidableEq

namespace Slot

def fieldName? : Nat → List Char → Option (List Char × List Char)
  | _, [] => none
  | depth, c :: rest =>
    if c = ')' then
      match depth with
      | 0 => some ([], rest)
      | depth + 1 => (fieldName? depth rest).map fun (name, rest) => (c :: name, rest)
    else
      (fieldName? (if c = '(' then depth + 1 else depth) rest).map fun (name, rest) =>
        (c :: name, rest)

def isFlag (c : Char) : Bool :=
  c = '-' || c = '+' || c = ' ' || c = '#' || c = '0'

def isSizeMark (c : Char) : Bool :=
  c = 'h' || c = 'l' || c = 'L'

def number (digits : List Char) : Nat :=
  Nat.ofDigitChars 10 digits 0

def extent : List Char → Option Extent × List Char
  | '*' :: rest => (some .given, rest)
  | cs =>
    let digits := cs.takeWhile Char.isDigit
    (if digits = [] then none else some (.fixed (number digits)), cs.dropWhile Char.isDigit)

/-- A precision without digits is zero. -/
def precisionAt : List Char → Option Extent × List Char
  | '.' :: rest => ((extent rest).1.or (some (.fixed 0)), (extent rest).2)
  | cs => (none, cs)

def afterSizeMark : List Char → List Char
  | c :: rest => if isSizeMark c then rest else c :: rest
  | [] => []

def readNamed? (field : Option String) (cs : List Char) : Option (Slot × List Char) :=
  let width := extent (cs.dropWhile isFlag)
  let precision := precisionAt width.2
  match afterSizeMark precision.2 with
  | [] => none
  | kind :: rest => some (⟨field, cs.takeWhile isFlag, width.1, precision.1, kind⟩, rest)

def read? : List Char → Option (Slot × List Char)
  | '(' :: rest =>
    (fieldName? 0 rest).bind fun (name, rest) => readNamed? (some (.ofList name)) rest
  | cs => readNamed? none cs

theorem fieldName?_length {depth : Nat} {cs name rest : List Char}
    (h : fieldName? depth cs = some (name, rest)) : rest.length < cs.length := by
  induction cs generalizing depth name with
  | nil => cases h
  | cons c cs ih =>
    simp only [fieldName?] at h
    split at h
    · split at h
      · cases h
        simp
      · obtain ⟨⟨inner, after⟩, found, equal⟩ := Option.map_eq_some_iff.mp h
        cases equal
        exact Nat.lt_trans (ih found) (by simp)
    · obtain ⟨⟨inner, after⟩, found, equal⟩ := Option.map_eq_some_iff.mp h
      cases equal
      exact Nat.lt_trans (ih found) (by simp)

theorem extent_length (cs : List Char) : (extent cs).2.length ≤ cs.length := by
  unfold extent
  split
  · simp
  · exact (List.dropWhile_suffix _).length_le

theorem precisionAt_length (cs : List Char) : (precisionAt cs).2.length ≤ cs.length := by
  unfold precisionAt
  split
  · next rest =>
    have := extent_length rest
    simp only [List.length_cons]
    omega
  · simp

theorem afterSizeMark_length (cs : List Char) : (afterSizeMark cs).length ≤ cs.length := by
  unfold afterSizeMark
  split
  · split <;> simp
  · simp

theorem readNamed?_length {field : Option String} {cs rest : List Char} {slot : Slot}
    (h : readNamed? field cs = some (slot, rest)) : rest.length < cs.length := by
  simp only [readNamed?] at h
  split at h
  · cases h
  · next kind after found =>
    cases h
    have flags := (List.dropWhile_suffix isFlag (l := cs)).length_le
    have width := extent_length (cs.dropWhile isFlag)
    have precision := precisionAt_length (extent (cs.dropWhile isFlag)).2
    have mark := afterSizeMark_length (precisionAt (extent (cs.dropWhile isFlag)).2).2
    rw [found, List.length_cons] at mark
    omega

theorem read?_length {cs rest : List Char} {slot : Slot} (h : read? cs = some (slot, rest)) :
    rest.length < cs.length := by
  unfold read? at h
  split at h
  · obtain ⟨⟨name, after⟩, found, read⟩ := Option.bind_eq_some_iff.mp h
    have := fieldName?_length found
    have := readNamed?_length read
    simp only [List.length_cons]
    omega
  · exact readNamed?_length h

end Slot

/-! ### Filling a slot -/

/-- The text of a slot in its parts, for what fills it to its width stands between them. -/
structure Filling where
  sign : List Char
  lead : List Char
  body : List Char
  isNumber : Bool

namespace Slot

def has (slot : Slot) (flag : Char) : Bool :=
  slot.flags.contains flag

def signText (slot : Slot) (neg : Bool) : List Char :=
  if neg then ['-'] else if slot.has '+' then ['+'] else if slot.has ' ' then [' '] else []

def ofText (precision : Option Nat) (text : String) : Filling :=
  ⟨[], [], match precision with | some n => text.toList.take n | none => text.toList, false⟩

def asciiLiteral (value : Value) : String :=
  .ofList (value.literal.toList.flatMap fun c => if c.toNat < 0x80 then [c] else Text.escapeCode c)

def baseDigits (base : Nat) (upper : Bool) (n : Nat) : List Char :=
  (Nat.toDigits base n).map fun c => if upper then c.toUpper else c

def ofInt (slot : Slot) (precision : Option Nat) (n : Int) : Filling :=
  let digits (base : Nat) (upper : Bool) : List Char :=
    (baseDigits base upper n.natAbs).leftpad (precision.getD 0) '0'
  let lead (cs : List Char) : List Char := if slot.has '#' then cs else []
  let sign := slot.signText (n < 0)
  match slot.kind with
  | 'o' => ⟨sign, lead ['0', 'o'], digits 8 false, true⟩
  | 'x' => ⟨sign, lead ['0', 'x'], digits 16 false, true⟩
  | 'X' => ⟨sign, lead ['0', 'X'], digits 16 true, true⟩
  | _ => ⟨sign, [], digits 10 false, true⟩

def ofMagnitude (slot : Slot) (precision units : Nat) : List Char :=
  match slot.kind.toLower with
  | 'e' => Binary64.scientificText (slot.has '#') units precision
  | 'f' => Binary64.fixedText (slot.has '#') units precision
  | _ => Binary64.generalText (slot.has '#') units precision

def ofFloat (slot : Slot) (precision : Option Nat) (x : Binary64) : Filling :=
  let cased (cs : List Char) : List Char :=
    if slot.kind.isUpper then cs.map Char.toUpper else cs
  match x with
  | .nan => ⟨slot.signText false, [], cased ['n', 'a', 'n'], true⟩
  | .infinite neg => ⟨slot.signText neg, [], cased ['i', 'n', 'f'], true⟩
  | .finite neg units _ =>
    ⟨slot.signText neg, [], cased (slot.ofMagnitude (precision.getD 6) units), true⟩

def wholeValue? : Value → Option Int
  | .int n => some n
  | .bool b => some b.toInt
  | _ => none

def truncated? : Value → Option Int
  | .float (.finite neg units _) => some (Binary64.signed neg (units / unitsPerOne))
  | value => wholeValue? value

def floatValue? : Value → Option Binary64
  | .float x => some x
  | value =>
    (wholeValue? value).bind fun n =>
      if (Binary64.ofInt n).isInfinite then none else some (.ofInt n)

def charValue? : Value → Option Char
  | .text text =>
    match text.toList with
    | [c] => some c
    | _ => none
  | value =>
    (wholeValue? value).bind fun n =>
      if 0 ≤ n ∧ n.toNat.isValidChar then some (.ofNat n.toNat) else none

def ofShown (precision : Option Nat) (shown : Except TextFault String) : Except TemplateFault Filling :=
  (shown.map (ofText precision)).mapError .unwritten

def ofFitting {α : Type} : Option α → Except TemplateFault α
  | some a => .ok a
  | none => .error .misfit

def filling (slot : Slot) (precision : Option Nat) (value : Value) : Except TemplateFault Filling :=
  match slot.kind with
  | 's' => ofShown precision value.shown?
  | 'r' => ofShown precision value.literal?
  | 'a' => ofShown precision (value.guarded (asciiLiteral value))
  | 'c' => ofFitting ((charValue? value).map fun c => ⟨[], [], [c], false⟩)
  | 'd' | 'i' | 'u' => do
    let n ← ofFitting (truncated? value)
    match (Value.int n).fault? with
    | some fault => .error (.unwritten fault)
    | none => .ok (slot.ofInt precision n)
  | 'o' | 'x' | 'X' => ofFitting ((wholeValue? value).map (slot.ofInt precision))
  | 'e' | 'E' | 'f' | 'F' | 'g' | 'G' => ofFitting ((floatValue? value).map (slot.ofFloat precision))
  | _ => .error .misfit

/-- A negative width fills behind the text. -/
def laidOut (slot : Slot) (width : Int) (filling : Filling) : List Char :=
  let text := filling.sign ++ filling.lead ++ filling.body
  let room := width.natAbs - text.length
  if width < 0 ∨ slot.has '-' then text ++ List.replicate room ' '
  else if filling.isNumber ∧ slot.has '0' then
    filling.sign ++ filling.lead ++ List.replicate room '0' ++ filling.body
  else List.replicate room ' ' ++ text

end Slot

/-! ### Filling a template -/

namespace Template

/-- Arguments not used yet, and the record whose fields slots may name. -/
structure Arguments where
  values : List Value
  record : Option Value.Fields

namespace Arguments

/-- One record that is not empty is there for its fields. -/
def ofList : List Value → Arguments
  | [.record (first :: rest)] => ⟨[.record (first :: rest)], some (first :: rest)⟩
  | values => ⟨values, none⟩

def next? (arguments : Arguments) : Option (Value × Arguments) :=
  match arguments.values with
  | [] => none
  | value :: rest => some (value, { arguments with values := rest })

def select? (arguments : Arguments) : Option String → Option Arguments
  | none => some arguments
  | some name =>
    arguments.record.bind fun fields =>
      (fields.get? name).map fun value => { arguments with values := [value] }

def extent? (arguments : Arguments) : Option Extent → Option (Option Int × Arguments)
  | none => some (none, arguments)
  | some (.fixed n) => some (some n, arguments)
  | some .given =>
    arguments.next?.bind fun (value, rest) =>
      (Slot.wholeValue? value).map fun n => (some n, rest)

end Arguments

def fillSlot (slot : Slot) (arguments : Arguments) : Except TemplateFault (List Char × Arguments) := do
  let arguments ← Slot.ofFitting (arguments.select? slot.field)
  let (width, arguments) ← Slot.ofFitting (arguments.extent? slot.width)
  let (precision, arguments) ← Slot.ofFitting (arguments.extent? slot.precision)
  let (value, arguments) ← Slot.ofFitting arguments.next?
  let filling ← slot.filling (precision.map Int.toNat) value
  pure (slot.laidOut (width.getD 0) filling, arguments)

/-- The text of a template, if its slots and the arguments fit each other. Two percent signs stand for
one. -/
def fill (arguments : Arguments) (cs : List Char) : Except TemplateFault (List Char) :=
  match cs with
  | [] => if arguments.values = [] ∨ arguments.record.isSome then .ok [] else .error .misfit
  | '%' :: '%' :: rest => (fill arguments rest).map ('%' :: ·)
  | '%' :: rest =>
    match _h : Slot.read? rest with
    | none => .error .misfit
    | some (slot, rest) =>
      (fillSlot slot arguments).bind fun (text, arguments) =>
        (fill arguments rest).map (text ++ ·)
  | c :: rest => (fill arguments rest).map (c :: ·)
termination_by cs.length
decreasing_by
  · simp only [List.length_cons]
    omega
  · have := Slot.read?_length _h
    simp only [List.length_cons]
    omega
  · simp

/-- The text of a template with its arguments; without arguments it is the text itself. -/
def text (template : String) (values : List Value) : Except TemplateFault String :=
  if values.isEmpty then .ok template
  else (fill (.ofList values) template.toList).map String.ofList

def text? (template : String) (values : List Value) : Option String :=
  (text template values).toOption

end Template

end AlertRange

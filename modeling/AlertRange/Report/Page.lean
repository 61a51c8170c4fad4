import AlertRange.Json.Writer
import AlertRange.Markup.Content
import AlertRange.Report.Inquiry
import AlertRange.Screen.Table

namespace AlertRange.Report

/-- Why a report cannot be put in a form: what its data lack, or hold too much of. -/
inductive FormError where
  | missing (name : String)
  | notText (typeName : String)
  | noItems (typeName : String)
  | noParts (typeName : String)
  | textParts
  | listParts
  | noLookup (typeName : String)
  | markup (error : Markup.MarkupError)
  | screen (error : Screen.ScreenError)
  | tooDeep
  | unwritten (fault : TextFault)

namespace FormError

def message : FormError → String
  | .missing name => Text.quoted name
  | .notText typeName => "'" ++ typeName ++ "' object has no attribute 'translate'"
  | .noItems typeName => "'" ++ typeName ++ "' object is not iterable"
  | .noParts typeName => "'" ++ typeName ++ "' object is not subscriptable"
  | .textParts => "string indices must be integers, not 'str'"
  | .listParts => "list indices must be integers or slices, not str"
  | .noLookup typeName => "'" ++ typeName ++ "' object has no attribute 'get'"
  | .markup error => error.message
  | .screen error => error.message
  | .tooDeep => "Error serializing to JSON: ValueError: Maximum serialization depth exceeded"
  | .unwritten fault => fault.message

end FormError

open Screen (Block Row)

def field (fields : Value.Fields) (name : String) : Except FormError Value :=
  match fields.get? name with
  | some value => .ok value
  | none => .error (.missing name)

def part (name : String) : Value → Except FormError Value
  | .record fields => field fields name
  | .text _ => .error .textParts
  | .list _ => .error .listParts
  | value => .error (.noParts value.typeName)

/-- What a value holds one after another: text its characters, a record its names. -/
def itemsOf : Value → Except FormError (List Value)
  | .list items => .ok items
  | .text text => .ok (text.toList.map fun c => .text c.toString)
  | .record fields => .ok (fields.map fun pair => .text pair.1)
  | value => .error (.noItems value.typeName)

def shownText (value : Value) : Except FormError String :=
  value.shown?.mapError .unwritten

def jsonOf (value : Value) : Except FormError String :=
  (value.guarded (Json.text Json.compact value)).mapError fun fault => .unwritten fault.inJson

theorem shownText_of_writable {value : Value} (writable : value.Writable) :
    shownText value = .ok value.display := by
  rw [shownText, Value.shown?, Value.guarded_of_writable writable]
  rfl

theorem jsonOf_of_writable {value : Value} (writable : value.Writable) :
    jsonOf value = .ok (Json.text Json.compact value) := by
  rw [jsonOf, Value.guarded_of_writable writable]
  rfl

abbrev Part := Except FormError Block

open Text.Styled (plain styled)

def keyText (name : String) : Text.Styled :=
  styled "range.key" ("  " ++ name ++ ": ")

def fieldBlock (name text : String) : Block :=
  .text (keyText name ++ plain text)

def statusBlock (op : String) : Block :=
  .text (styled "range.ok" "OK" ++ plain " " ++ styled "range.op" ("  " ++ op))

/-- The canonical text of the range, two quotes standing for an empty one. -/
def specText (value : Value) : Except FormError String :=
  match value with
  | .text text => .ok (if text = "" then "\"\"" else text)
  | value => if value.isTruthy then .error (.notText value.typeName) else .ok "\"\""

def fieldPart (data : Value.Fields) (name : String) : Part := do
  .ok (fieldBlock name (← shownText (← field data name)))

def specPart (data : Value.Fields) : Part := do
  .ok (.text (keyText "spec" ++ styled "range.spec" (← specText (← field data "spec"))))

def parseParts (data : Value.Fields) : List Part :=
  specPart data :: ["start", "end", "invert", "violation"].map (fieldPart data)

def verdict (alert : Bool) : String :=
  if alert then "ALERT" else "OK"

def styleName (alert : Bool) : String :=
  if alert then "range.alert" else "range.clear"

structure Judged where
  value : String
  alert : Bool

def judgedOf (item : Value) : Except FormError Judged := do
  let alert ← part "alert" item
  let value ← part "value" item
  .ok ⟨← shownText value, alert.isTruthy⟩

def rowOf (judged : Judged) : Except FormError Row :=
  match Markup.content judged.value with
  | .error error => .error (.markup error)
  | .ok value => .ok ⟨value, verdict judged.alert⟩

/-- The table of a check. All items are looked up before a value is read as markup. -/
def tablePart (data : Value.Fields) : Part := do
  let judged ← (← itemsOf (← field data "items")).mapM judgedOf
  .ok (.table (← judged.mapM rowOf))

def itemCount (data : Value.Fields) : Nat :=
  match data.get? "items" with
  | some (.list items) => items.length
  | _ => 0

/-- A count as text. One that is no greater than the number of items is short: no list is so long that its length
has too many digits. -/
def countText (data : Value.Fields) : Value → Except FormError String
  | .int n => if n.natAbs ≤ itemCount data then .ok (intText n) else shownText (.int n)
  | value => shownText value

def countPart (data : Value.Fields) : Part := do
  let alerts ← countText data (← field data "alert_count")
  let count ← countText data (← field data "count")
  .ok (fieldBlock "alerts" (alerts ++ "/" ++ count))

def rangePart (data : Value.Fields) : Part := do
  .ok (fieldBlock "range" (← shownText (← field data "violation")))

def boundsPart (data : Value.Fields) : Part := do
  .ok (fieldBlock "bounds" (← jsonOf (← field data "range")))

def checkParts (verbose : Bool) (data : Value.Fields) : List Part :=
  [rangePart data, tablePart data, countPart data] ++ if verbose then [boundsPart data] else []

/-- Containers are shown as JSON, all else as it is displayed. -/
def plainText : Value → Except FormError String
  | .list items => jsonOf (.list items)
  | .record fields => jsonOf (.record fields)
  | value => shownText value

def plainPart (pair : String × Value) : Part := do
  .ok (fieldBlock pair.1 (← plainText pair.2))

def plainTextOf : Value → String
  | .list items => Json.text Json.compact (.list items)
  | .record fields => Json.text Json.compact (.record fields)
  | value => value.display

theorem plainPart_of_writable {pair : String × Value} (writable : pair.2.Writable) :
    plainPart pair = .ok (fieldBlock pair.1 (plainTextOf pair.2)) := by
  have shown : plainText pair.2 = .ok (plainTextOf pair.2) := by
    cases kind : pair.2 with
    | list items => exact jsonOf_of_writable (kind ▸ writable)
    | record fields => exact jsonOf_of_writable (kind ▸ writable)
    | _ => exact shownText_of_writable (kind ▸ writable)
  rw [plainPart, shown]
  rfl

def failureMessage (report : Report) : String :=
  match report.failure with
  | some failure => failure.message
  | none => "Unknown error"

def entryPart (pair : String × Value) : Part := do
  .ok (.text (plain ("    " ++ pair.1 ++ ": " ++ (← shownText pair.2))))

theorem entryPart_of_writable {pair : String × Value} (writable : pair.2.Writable) :
    entryPart pair = .ok (.text (plain ("    " ++ pair.1 ++ ": " ++ pair.2.display))) := by
  rw [entryPart, shownText_of_writable writable]
  rfl

def detailParts (verbose : Bool) : Option Failure → List Part
  | some failure =>
    if verbose && !failure.detail.isEmpty then
      .ok (.text (styled "dim" "  detail:")) :: failure.detail.map entryPart
    else []
  | none => []

def failureBlock (report : Report) : Block :=
  .text (styled "range.error" "ERROR" ++ styled "range.op" ("  " ++ report.op) ++
    plain (" — " ++ report.failureMessage))

def failureParts (verbose : Bool) (report : Report) : List Part :=
  .ok report.failureBlock :: detailParts verbose report.failure

def successParts (verbose : Bool) (report : Report) : List Part :=
  .ok (statusBlock report.op) ::
    if report.op = parseOp then parseParts report.data
    else if report.op = checkOp then checkParts verbose report.data
    else report.data.map plainPart

def parts (verbose : Bool) (report : Report) : List Part :=
  if report.ok then report.successParts verbose else report.failureParts verbose

def pageWidth : Nat := 120

/-- The columns of a screen of the width asked for: those of a page for none or zero, and no columns
below zero. -/
def screenWidth : Option Int → Nat
  | none => pageWidth
  | some width => if width = 0 then pageWidth else width.toNat

def printPart (part : Part) : Except FormError (List Char) := do
  ((← part).render pageWidth).mapError .screen

/-- The report as it is printed, without line ends after the last line. -/
def page (verbose : Bool) (report : Report) : Except FormError String := do
  .ok (.ofList (Text.trimEnd (· == '\n') ((← (report.parts verbose).mapM printPart).flatten)))

end AlertRange.Report

import AlertRange.CommandLine.Option
import AlertRange.Decimal.Numeral
import AlertRange.Text.Blank
import AlertRange.Text.Trim

namespace AlertRange.CommandLine

def valueDialect : Numeral.Dialect :=
  ⟨Text.digitValue?, true⟩

def joinDigits? (afterDigit : Bool) : List Char → Option (List Char)
  | [] => some []
  | '_' :: c :: rest =>
    if afterDigit && Text.isDigit c then (joinDigits? true rest).map (c :: ·) else none
  | c :: rest => if c = '_' then none else (joinDigits? (Text.isDigit c) rest).map (c :: ·)

def readValue? (word : String) : Option Binary64 :=
  ((joinDigits? false (Text.trim Text.isWhiteSpace word.toList)).bind valueDialect.read?).map
    Numeral.toBinary64

def readValues : List String → Except UsageFault (List Binary64)
  | [] => .ok []
  | word :: rest =>
    match readValue? word with
    | some value => (readValues rest).map (value :: ·)
    | none => .error (.notNumber "VALUES..." word)

def parseOperands : List String → Except UsageFault String
  | [] => .error (.missing "SPEC")
  | [spec] => .ok spec
  | _ :: extra => .error (.unexpected extra)

def checkOperands : List String → Except UsageFault (String × List Binary64)
  | [] => .error (.missing "SPEC")
  | [_] => .error (.missing "VALUES...")
  | spec :: values => (readValues values).map (spec, ·)

end AlertRange.CommandLine

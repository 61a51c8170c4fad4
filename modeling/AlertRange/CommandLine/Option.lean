import AlertRange.Text.Similar

namespace AlertRange.CommandLine

inductive Flag where
  | json
  | quiet
  | verbose
  | logJson
  deriving DecidableEq

inductive Request where
  | flag (flag : Flag)
  | version
  | examples
  | help
  deriving DecidableEq

namespace Request

def isEager : Request → Bool
  | .flag _ => false
  | _ => true

end Request

structure Switch where
  names : List String
  request : Request
  about : String

inductive UsageFault where
  | unknownOption (name : String) (similar : List String)
  | takesNoValue (name : String)
  | unknownCommand (name : String) (similar : List String)
  | missing (operand : String)
  | unexpected (words : List String)
  | notNumber (operand word : String)
  deriving DecidableEq

def isLong (name : String) : Bool :=
  "--".toList.isPrefixOf name.toList

def isOption (word : String) : Bool :=
  match word.toList with
  | '-' :: _ :: _ => true
  | _ => false

namespace Switch

def find? (switches : List Switch) (name : String) : Option Request :=
  (switches.find? fun switch => name ∈ switch.names).map Switch.request

def longNames (switches : List Switch) : List String :=
  (switches.flatMap Switch.names).filter isLong

end Switch

def readLetters (switches : List Switch) : List Char → Except UsageFault (List Request)
  | [] => .ok []
  | c :: rest =>
    let name := String.ofList ['-', c]
    match Switch.find? switches name with
    | some request => (readLetters switches rest).map (request :: ·)
    | none => .error (.unknownOption name [])

def readOption (switches : List Switch) (word : String) : Except UsageFault (List Request) :=
  let name := String.ofList (word.toList.takeWhile (· != '='))
  match if isLong name then Switch.find? switches name else none with
  | some request => if name = word then .ok [request] else .error (.takesNoValue name)
  | none =>
    if isLong word then
      .error (.unknownOption name (Text.suggestions name (Switch.longNames switches)))
    else readLetters switches (word.toList.drop 1)

/-- The requests of a command line in the order given, and its operands. -/
structure Scan where
  requests : List Request
  operands : List String
  deriving DecidableEq

/-- Separates options from operands. After `--` all words are operands; unless options may stand
`anywhere`, so are all words from the first operand on. -/
def scan (switches : List Switch) (anywhere : Bool) : List String → Except UsageFault Scan
  | [] => .ok ⟨[], []⟩
  | word :: rest =>
    if word = "--" then .ok ⟨[], rest⟩
    else if isOption word then
      (readOption switches word).bind fun requests =>
        (scan switches anywhere rest).map fun more => { more with requests := requests ++ more.requests }
    else if anywhere then
      (scan switches anywhere rest).map fun more => { more with operands := word :: more.operands }
    else .ok ⟨[], word :: rest⟩

def Scan.eager? (found : Scan) : Option Request :=
  found.requests.find? Request.isEager

def Scan.has (found : Scan) (flag : Flag) : Bool :=
  found.requests.contains (.flag flag)

end AlertRange.CommandLine

import AlertRange.CommandLine.Option
import AlertRange.Text.Quoted
import AlertRange.Text.Style

namespace AlertRange.CommandLine

structure Command where
  /-- The words by which it is called. -/
  path : String
  /-- The operands as usage shows them. -/
  operands : String
  about : String
  switches : List Switch
  examples : List String
  commands : List (String × String)

def programName : String := "nagrange"

def programVersion : String := "0.1.0"

def written (text : String) : String :=
  .ofList (Text.unstyled text.toList) ++ "\n"

def lines (texts : List String) : String :=
  String.join (texts.map (· ++ "\n"))

def definitions (rows : List (String × String)) : List String :=
  let width := (rows.map (·.1.length)).foldr max 0
  rows.map fun row =>
    "  " ++ .ofList (row.1.toList.rightpad (width + 2) ' ') ++ row.2

def heading (title : String) (rows : List (String × String)) : List String :=
  if rows.isEmpty then [] else "" :: (title ++ ":") :: definitions rows

namespace Command

def usage (command : Command) : String :=
  "Usage: " ++ command.path ++ " [OPTIONS] " ++ command.operands

def helpText (command : Command) : String :=
  lines ([command.usage, "", "  " ++ command.about] ++
    heading "Options" (command.switches.map fun switch => (", ".intercalate switch.names, switch.about)) ++
    heading "Commands" command.commands)

def examplesText (command : Command) : String :=
  lines (["Examples for '" ++ command.path ++ "':", ""] ++ command.examples.map ("  " ++ ·))

end Command

def versionText : String :=
  lines [programName ++ ", version " ++ programVersion]

def hint : List String → String
  | [] => ""
  | [name] => " Did you mean " ++ Text.quoted name ++ "?"
  | names =>
    " (Did you mean one of: " ++
      ", ".intercalate ((names.mergeSort fun a b => a ≤ b).map Text.quoted) ++ "?)"

namespace UsageFault

def message : UsageFault → String
  | .unknownOption name similar => "No such option " ++ Text.quoted name ++ "." ++ hint similar
  | .takesNoValue name => "Option " ++ Text.quoted name ++ " does not take a value."
  | .unknownCommand name similar => "No such command " ++ Text.quoted name ++ "." ++ hint similar
  | .missing operand => "Missing argument '" ++ operand ++ "'."
  | .unexpected words =>
    "Got unexpected extra argument" ++ (if words.length = 1 then "" else "s") ++ " (" ++
      " ".intercalate words ++ ")"
  | .notNumber operand word =>
    "Invalid value for '" ++ operand ++ "': " ++ Text.quoted word ++ " is not a valid float."

/-- A value given to an option that takes none is reported without the usage. -/
def showsUsage : UsageFault → Bool
  | .takesNoValue _ => false
  | _ => true

end UsageFault

def faultText (command : Command) (fault : UsageFault) : String :=
  (if fault.showsUsage then
    lines [command.usage, "Try '" ++ command.path ++ " --help' for help.", ""] else "") ++
    written ("Error: " ++ fault.message)

def examplesSwitch : Switch :=
  ⟨["--examples"], .examples, "Show usage examples."⟩

def helpSwitch : Switch :=
  ⟨["--help"], .help, "Show this message and exit."⟩

def parseCommand : Command where
  path := programName ++ " parse"
  operands := "SPEC"
  about := "Parse SPEC and print its start, end and invert flag."
  switches := [examplesSwitch, helpSwitch]
  examples := ["nagrange parse 10", "nagrange parse 10:", "nagrange parse '~:10'",
    "nagrange parse @10:20", "nagrange --json parse -- -5:5"]
  commands := []

def checkCommand : Command where
  path := programName ++ " check"
  operands := "SPEC VALUES..."
  about := "Check each VALUE against SPEC and report which ones alert."
  switches := [examplesSwitch, helpSwitch]
  examples := ["nagrange check 10 12.5", "nagrange check 10:20 5 15 25", "nagrange check @10:20 15",
    "nagrange -q check '~:10' 9 11", "nagrange --json check -- -5:5 -7"]
  commands := []

def rootCommand : Command where
  path := programName
  operands := "[COMMAND] [ARGS]..."
  about := "nagrange — Nagios/Icinga threshold range parser and checker."
  switches := [
    ⟨["--version"], .version, "Show the version and exit."⟩,
    ⟨["--json"], .flag .json, "Structured JSON output."⟩,
    ⟨["-q", "--quiet"], .flag .quiet, "Minimal output."⟩,
    ⟨["-v", "--verbose"], .flag .verbose, "Detailed output with debug info."⟩,
    ⟨["--log-json"], .flag .logJson, "Structured JSON log output to stderr."⟩,
    examplesSwitch, helpSwitch]
  examples := ["nagrange parse @10:20", "nagrange check 10:20 5 15 25", "nagrange --json check 10 11"]
  commands := [("check", checkCommand.about), ("parse", parseCommand.about)]

end AlertRange.CommandLine

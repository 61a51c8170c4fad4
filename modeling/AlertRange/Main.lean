import AlertRange.CommandLine.Run
import Std.Time.Format

namespace AlertRange.CommandLine

def readEnvironment : IO Environment :=
  Settings.fieldNames.filterMapM fun field => do
    let name := (Settings.variableName field).toUpper
    return (← IO.getEnv name).map (name, ·)

def readTime : IO String := do
  let now ← Std.Time.Timestamp.now
  return (Std.Time.DateTime.ofTimestamp now .UTC).format "uuuu-MM-dd'T'HH:mm:ss.SSSSSS'Z'"

def write (outcome : Outcome) : IO UInt32 := do
  IO.print outcome.out
  IO.eprint outcome.err
  if let some fault := outcome.fault then
    IO.eprintln fault.message
  return outcome.code.toUInt32

end AlertRange.CommandLine

def main (words : List String) : IO UInt32 := do
  let environment ← AlertRange.CommandLine.readEnvironment
  let time ← AlertRange.CommandLine.readTime
  AlertRange.CommandLine.write (AlertRange.CommandLine.run environment time words)

import Rescan.CommandLine.Response

/-! # The program

Reads the arguments, the environment and the settings file, and prints the response. There is no
cluster to watch from here.
-/

namespace Rescan.Program

def readFile? (path : List UInt8) : IO (Option (List UInt8)) := do
  try
    let bytes ← IO.FS.readBinFile (Text.Utf8.decodeLossy path)
    return some bytes.toList
  catch _ =>
    return none

/-- The variables of the settings that are set. -/
def readEnvironment : IO Settings.Environment :=
  Settings.variableNames.filterMapM fun name => do
    let value ← IO.getEnv name
    return value.map fun text => (name, Text.Utf8.encode text.toList)

def settingsFile? (arguments : List (List UInt8)) : Option (List UInt8) :=
  match CommandLine.parse arguments with
  | .command command => command.file
  | .version | .help _ | .misuse => none

def run (arguments : List String) : IO UInt32 := do
  let arguments := arguments.map fun argument => Text.Utf8.encode argument.toList
  let content ← match settingsFile? arguments with
    | some path => readFile? path
    | none => pure none
  let environment ← readEnvironment
  let response := (CommandLine.respond (fun _ => content) environment arguments).withoutCluster
  (← IO.getStdout).putStr response.stdout
  if !response.stderr.isEmpty then (← IO.getStderr).putStrLn response.stderr
  return UInt32.ofNat response.code

end Rescan.Program

def main (arguments : List String) : IO UInt32 := Rescan.Program.run arguments

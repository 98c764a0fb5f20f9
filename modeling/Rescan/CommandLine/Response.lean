import Rescan.CommandLine.Arguments
import Rescan.CommandLine.Help
import Rescan.Resource.Key
import Rescan.Settings.Check
import Rescan.Settings.Environment
import Rescan.Settings.File
import Rescan.Settings.Print

/-! # Responses of the command line

Settings are loaded before any command is carried out, from the named file or else from the
environment. A response is an exit code with what is printed. The command that watches the
cluster ends here if its settings are refused, and is handed on otherwise.
-/

namespace Rescan.CommandLine

/-- What the program prints, and the code it ends with. -/
structure Response where
  code : Nat
  stdout : String := ""
  stderr : String := ""
  deriving DecidableEq, Repr

namespace Response

def success (stdout : String) : Response := ⟨0, stdout, ""⟩

def failure (text : String) : Response := ⟨1, "", "Error: " ++ text⟩

/-- A misuse of the command line. Its explanation is not part of the response. -/
def misuse : Response := ⟨2, "", ""⟩

end Response

/-- What becomes of a command line. -/
inductive Outcome where
  /-- The program ends with a response. -/
  | ends (response : Response)
  /-- The cluster is watched with these settings, which pass their check. -/
  | watches (settings : Settings)

/-- The settings of a file, or of the environment. The text is that of a failure. -/
def load (readFile : List UInt8 → Option (List UInt8)) (env : Settings.Environment) :
    Option (List UInt8) → Except String Settings
  | some path =>
    match Settings.ofFile (Text.Utf8.decodeLossy path) (readFile path) with
    | .ok settings => .ok settings
    | .error fault => .error fault.message
  | none =>
    match Settings.ofEnvironment env with
    | .ok settings => .ok settings
    | .error fault => .error fault.message

/-- The file that a command reads settings from. -/
def Command.file : Command → Option (List UInt8)
  | .run file | .checkConfig file => file
  | .key _ _ _ => none

def showSettings (settings : Settings) : Response :=
  match settings.check with
  | .error fault => .failure fault.message
  | .ok _ =>
    match settings.shown? with
    | none => .failure "out-of-range value for u64 type"
    | some text => .success (text ++ "\n")

def showKey (kind ns name : String) : Response :=
  match Resource.Kind.ofName kind with
  | .error fault => .failure fault.message
  | .ok kind => .success ((Resource.Key.ofKind kind ns name).render ++ "\n")

def Command.perform (settings : Settings) : Command → Outcome
  | .checkConfig _ => .ends (showSettings settings)
  | .key kind ns name => .ends (showKey kind ns name)
  | .run _ =>
    match settings.check with
    | .error fault => .ends (.failure fault.message)
    | .ok _ => .watches settings

/-- What becomes of a command line with the given arguments. -/
def respond (readFile : List UInt8 → Option (List UInt8)) (env : Settings.Environment)
    (arguments : List (List UInt8)) : Outcome :=
  match parse arguments with
  | .misuse => .ends .misuse
  | .version => .ends (.success (versionText ++ "\n"))
  | .help command => .ends (.success (helpText command))
  | .command command =>
    match load readFile env command.file with
    | .error text => .ends (.failure text)
    | .ok settings => command.perform settings

def Outcome.withoutCluster : Outcome → Response
  | .ends response => response
  | .watches _ => .failure "Failed to create Kubernetes client"

end Rescan.CommandLine

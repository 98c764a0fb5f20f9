import Rescan.Settings.Tree
import Rescan.Text.Utf8
import Rescan.Toml.Reader

/-! # Settings files

A settings file is a TOML document in UTF-8. A file that is missing or is no text is told apart
from one whose text holds no settings.
-/

namespace Rescan.Settings

/-- Why a file holds no settings. -/
inductive FileFault where
  /-- The file cannot be read as text. -/
  | unreadable (path : String)
  /-- The text holds no settings. -/
  | malformed (path : String)
  deriving DecidableEq, Repr

def FileFault.message : FileFault → String
  | .unreadable path => "Failed to read config file: " ++ path
  | .malformed path => "Failed to parse TOML config file: " ++ path

def ofToml? (text : String) : Option Settings :=
  (Toml.parse? text).bind fun entries => ofTree? true (Tree.ofToml (.table entries))

/-- The settings in a file with the given bytes, if the file exists. -/
def ofFile (path : String) (bytes : Option (List UInt8)) : Except FileFault Settings :=
  match bytes.bind Text.Utf8.decode? with
  | none => .error (.unreadable path)
  | some text =>
    match ofToml? text with
    | none => .error (.malformed path)
    | some settings => .ok settings

end Rescan.Settings

import Rescan.Text.Utf8

/-! # Arguments of the command line

The arguments name one command. Before it stand options for all commands, after it the same
options, options of the command and its operands. An option is given once at most in either
place. After two hyphens everything is an operand. Arguments are bytes; only the path of a file
may be other than text.
-/

namespace Rescan.CommandLine

/-- What the program is asked to do. -/
inductive Command where
  /-- Watch the cluster with the settings of a file, or of the environment. -/
  | run (file : Option (List UInt8))
  /-- Show the settings of a file, or of the environment. -/
  | checkConfig (file : Option (List UInt8))
  /-- Show the key of an object. -/
  | key (kind ns name : String)
  deriving DecidableEq, Repr

/-- What the arguments ask for. -/
inductive Request where
  | command (command : Command)
  | version
  | help (command : Option String)
  /-- The arguments cannot be understood. -/
  | misuse
  deriving DecidableEq, Repr

/-- The commands by name. -/
inductive Verb where
  | run
  | checkConfig
  | key
  deriving DecidableEq, Repr

def Verb.ofName? : String → Option Verb
  | "run" => some .run
  | "check-config" => some .checkConfig
  | "key" => some .key
  | _ => none

def Verb.name : Verb → String
  | .run => "run"
  | .checkConfig => "check-config"
  | .key => "key"

/-- What has been read in one place, before or after the command. -/
structure Read where
  verbose : Bool := false
  logFormat : Option String := none
  file : Option (List UInt8) := none
  operands : List String := []
  deriving DecidableEq, Repr

/-- Whether bytes can be the value of an option of their own: they do not look like an
option. -/
def isValue : List UInt8 → Bool
  | 0x2D :: _ :: _ => false
  | _ => true

/-- The bytes before the first equals sign, and those after it if there is one. -/
def cutEquals (bytes : List UInt8) : List UInt8 × Option (List UInt8) :=
  match bytes.dropWhile (· != 0x3D) with
  | [] => (bytes, none)
  | _ :: value => (bytes.takeWhile (· != 0x3D), some value)

/-- What an option does. -/
inductive Effect where
  /-- Reading goes on. -/
  | proceed (read : Read)
  /-- The option needs the next argument. -/
  | needsFormat
  | needsFile
  /-- Reading ends. -/
  | finish (request : Request)
  deriving DecidableEq, Repr

namespace Read

def setVerbose (read : Read) : Effect :=
  if read.verbose then .finish .misuse else .proceed { read with verbose := true }

/-- Notes the form of the log, which is a text. -/
def setFormat (read : Read) (value : List UInt8) : Effect :=
  match Text.Utf8.decode? value with
  | none => .finish .misuse
  | some text =>
    if read.logFormat.isSome then .finish .misuse
    else .proceed { read with logFormat := some text }

def setFile (read : Read) (path : List UInt8) : Effect :=
  if read.file.isSome || path.isEmpty then .finish .misuse
  else .proceed { read with file := some path }

/-- Whether the settings file can be named here. -/
def takesFile (verb : Option Verb) : Bool := verb == some .run || verb == some .checkConfig

def nameOf (verb : Option Verb) : Option String := verb.map Verb.name

def longOption (verb : Option Verb) (read : Read) (bytes : List UInt8) : Effect :=
  let (name, value) := cutEquals bytes
  match Text.Utf8.decode? name, value with
  | some "verbose", none => read.setVerbose
  | some "log-format", none => .needsFormat
  | some "log-format", some value => read.setFormat value
  | some "config", none => if takesFile verb then .needsFile else .finish .misuse
  | some "config", some path => if takesFile verb then read.setFile path else .finish .misuse
  | some "help", none => .finish (.help (nameOf verb))
  | some "version", none => if verb.isNone then .finish .version else .finish .misuse
  | _, _ => .finish .misuse

/-- The letter that a byte stands for. -/
def letter (byte : UInt8) : Char := Char.ofNat byte.toNat

/-- Options of one letter, one after the other. The letter of an option with a value takes the
rest for its value, without an equals sign before it. -/
def shortOptions (verb : Option Verb) (read : Read) : List UInt8 → Effect
  | [] => .proceed read
  | byte :: rest =>
    match letter byte with
    | 'v' =>
      match read.setVerbose with
      | .proceed read => shortOptions verb read rest
      | effect => effect
    | 'h' => .finish (.help (nameOf verb))
    | 'V' => if verb.isNone then .finish .version else .finish .misuse
    | 'c' =>
      if !takesFile verb then .finish .misuse
      else
        match rest with
        | [] => .needsFile
        | 0x3D :: path => read.setFile path
        | path => read.setFile path
    | _ => .finish .misuse

def finish (verb : Verb) (read : Read) : Request :=
  match verb, read.operands with
  | .run, [] => .command (.run read.file)
  | .checkConfig, [] => .command (.checkConfig read.file)
  | .key, [kind, ns, name] => .command (.key kind ns name)
  | _, _ => .misuse

def addOperand (read : Read) (operand : String) : Read :=
  { read with operands := read.operands ++ [operand] }

end Read

/-- The effect of an argument that is an option. A hyphen alone is none. -/
def effectOf (verb : Option Verb) (read : Read) : List UInt8 → Option Effect
  | 0x2D :: 0x2D :: byte :: rest => some (read.longOption verb (byte :: rest))
  | [0x2D, 0x2D] => none
  | 0x2D :: byte :: rest => some (read.shortOptions verb (byte :: rest))
  | _ => none

def operandsOnly (verb : Verb) (read : Read) (arguments : List (List UInt8)) : Request :=
  match arguments.mapM Text.Utf8.decode? with
  | none => .misuse
  | some texts => (texts.foldl Read.addOperand read).finish verb

def afterVerb (verb : Verb) (read : Read) : List (List UInt8) → Request
  | [] => read.finish verb
  | [0x2D, 0x2D] :: rest => operandsOnly verb read rest
  | argument :: rest =>
    match effectOf (some verb) read argument with
    | none =>
      match Text.Utf8.decode? argument with
      | none => .misuse
      | some operand => afterVerb verb (read.addOperand operand) rest
    | some (.proceed read) => afterVerb verb read rest
    | some (.finish request) => request
    | some .needsFormat =>
      match rest with
      | [] => .misuse
      | value :: rest =>
        if !isValue value then .misuse
        else
          match read.setFormat value with
          | .proceed read => afterVerb verb read rest
          | _ => .misuse
    | some .needsFile =>
      match rest with
      | [] => .misuse
      | path :: rest =>
        if !isValue path then .misuse
        else
          match read.setFile path with
          | .proceed read => afterVerb verb read rest
          | _ => .misuse

def helpOn : List (List UInt8) → Request
  | [] => .help none
  | [bytes] =>
    match (Text.Utf8.decode? bytes).bind Verb.ofName? with
    | some verb => .help (some verb.name)
    | none => if Text.Utf8.decode? bytes = some "help" then .help none else .misuse
  | _ => .misuse

def beforeVerb (read : Read) : List (List UInt8) → Request
  | [] => .misuse
  | argument :: rest =>
    match effectOf none read argument with
    | none =>
      match Text.Utf8.decode? argument with
      | none => .misuse
      | some name =>
        match Verb.ofName? name with
        | some verb => afterVerb verb {} rest
        | none => if name = "help" then helpOn rest else .misuse
    | some (.proceed read) => beforeVerb read rest
    | some (.finish request) => request
    | some .needsFormat =>
      match rest with
      | [] => .misuse
      | value :: rest =>
        if !isValue value then .misuse
        else
          match read.setFormat value with
          | .proceed read => beforeVerb read rest
          | _ => .misuse
    | some .needsFile => .misuse

def parse (arguments : List (List UInt8)) : Request := beforeVerb {} arguments

end Rescan.CommandLine

/-! # Help

The texts that explain the commands and their options.
-/

namespace Rescan.CommandLine

def versionText : String := "scanwatch 0.1.0"

def commonOptions : String :=
  "  -v, --verbose                  Enable verbose logging\n" ++
  "      --log-format <LOG_FORMAT>  Log format (text, json); overrides the configured format\n" ++
  "  -h, --help                     Print help\n"

def generalHelp : String :=
  "Triggers debounced security scans for changed Kubernetes resources\n\n" ++
  "Usage: scanwatch [OPTIONS] <COMMAND>\n\nCommands:\n" ++
  "  run           Watch the cluster and dispatch scans\n" ++
  "  check-config  Load and validate configuration, then print it\n" ++
  "  key           Print the debouncer key for a resource\n" ++
  "  help          Print this message or the help of the given subcommand(s)\n\nOptions:\n" ++
  commonOptions ++
  "  -V, --version                  Print version\n"

/-- The help on a command, or on the whole program. -/
def helpText : Option String → String
  | some "run" =>
    "Watch the cluster and dispatch scans\n\nUsage: scanwatch run [OPTIONS]\n\nOptions:\n" ++
    "  -c, --config <CONFIG>          " ++
    "TOML config file; environment variables are used when omitted\n" ++ commonOptions
  | some "check-config" =>
    "Load and validate configuration, then print it\n\n" ++
    "Usage: scanwatch check-config [OPTIONS]\n\nOptions:\n" ++
    "  -c, --config <CONFIG>          \n" ++ commonOptions
  | some "key" =>
    "Print the debouncer key for a resource\n\n" ++
    "Usage: scanwatch key [OPTIONS] <KIND> <NAMESPACE> <NAME>\n\nArguments:\n" ++
    "  <KIND>       Resource kind (pod, deployment, node, ...)\n" ++
    "  <NAMESPACE>  Namespace; empty for cluster-scoped resources\n" ++
    "  <NAME>       \n\nOptions:\n" ++ commonOptions
  | _ => generalHelp

end Rescan.CommandLine

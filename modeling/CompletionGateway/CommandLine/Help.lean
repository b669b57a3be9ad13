import CompletionGateway.CommandLine.Arguments

/-! The help texts of the command. -/
namespace CompletionGateway.CommandLine

def lines (ls : List String) : String := String.join (ls.map (· ++ "\n"))

/-- Where the path comes from unless it is given. -/
def environmentNote (value : Option String) : String := "[env: PROMPTGATE_CONFIG=" ++ value.getD "" ++ "]"

/-- The options that stand anywhere. -/
def commonOptions (value : Option String) : List String :=
  ["  -v, --verbose          Enable verbose logging",
    "      --json             Emit logs as JSON lines",
    "  -c, --config <CONFIG>  Config file (default: ~/.promptgate/config.toml) " ++ environmentNote value,
    "  -h, --help             Print help"]

def helpLines (value : Option String) : Topic → List String
  | .general =>
    ["promptgate: caching, rate-limited gateway for text completion", "",
      "Usage: promptgate [OPTIONS] <COMMAND>", "",
      "Commands:",
      "  serve   Start the HTTP gateway",
      "  config  Configuration helpers (prints the default config when no action is given)",
      "  doctor  Diagnose collaborator health",
      "  help    Print this message or the help of the given subcommand(s)", "",
      "Options:"] ++ commonOptions value ++ ["  -V, --version          Print version"]
  | .serve =>
    ["Start the HTTP gateway", "", "Usage: promptgate serve [OPTIONS]", "", "Options:",
      "  -p, --port <PORT>      Override the port"] ++ commonOptions value
  | .config =>
    ["Configuration helpers (prints the default config when no action is given)", "",
      "Usage: promptgate config [OPTIONS] [COMMAND]", "",
      "Commands:",
      "  default   Print the default configuration as TOML",
      "  validate  Load and validate the effective configuration",
      "  path      Print the default config file path",
      "  help      Print this message or the help of the given subcommand(s)", "",
      "Options:"] ++ commonOptions value
  | .configAction .default =>
    ["Print the default configuration as TOML", "", "Usage: promptgate config default [OPTIONS]", "",
      "Options:"] ++ commonOptions value
  | .configAction .validate =>
    ["Load and validate the effective configuration", "", "Usage: promptgate config validate [OPTIONS]", "",
      "Options:"] ++ commonOptions value
  | .configAction .path =>
    ["Print the default config file path", "", "Usage: promptgate config path [OPTIONS]", "", "Options:"] ++
      commonOptions value
  | .doctor =>
    ["Diagnose collaborator health", "", "Usage: promptgate doctor [OPTIONS]", "", "Options:"] ++
      commonOptions value

def helpText (value : Option String) (t : Topic) : String := lines (helpLines value t)

end CompletionGateway.CommandLine

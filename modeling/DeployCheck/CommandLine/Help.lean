import DeployCheck.CommandLine.Grammar

/-!
What the program says about itself and its commands.
-/
namespace DeployCheck.CommandLine.Help

def usage : List String :=
  ["Usage: veriscan <COMMAND>",
    "",
    "Commands:",
    "  run      Verify the contracts of a config file or a directory of config files",
    "  decode   Decode bytecode to an instruction listing",
    "  trim     Split off the metadata trailer and appended string literal",
    "  compare  Compare deployed bytecode against expected bytecode",
    "  encode   ABI-encode constructor arguments",
    "  help     Print this message or the help of the given subcommand(s)",
    "",
    "Options:"]

def inBrief : List String :=
  ["Veriscan: verify deployed contracts against their sources", ""] ++ usage ++
    ["  -h, --help     Print help (see more with '--help')",
      "  -V, --version  Print version"]

def onProgram : List String :=
  ["Command-line interface for Veriscan.",
    "",
    "Veriscan diffs the verified sources of deployed contracts against a GitHub repository and " ++
      "compares their on-chain bytecode with bytecode compiled from those sources.",
    ""] ++ usage ++
    ["  -h, --help",
      "          Print help (see a summary with '-h')",
      "",
      "  -V, --version",
      "          Print version"]

def onHelp : List String :=
  ["Print this message or the help of the given subcommand(s)",
    "",
    "Usage: veriscan help [COMMAND]...",
    "",
    "Arguments:",
    "  [COMMAND]...  Print help for the subcommand(s)"]

/-- Help on runs, where the variable for the local node has the value `localUrl`. -/
def onRun (localUrl : String) : List String :=
  ["Verify the contracts of a config file or a directory of config files",
    "",
    "Usage: veriscan run [OPTIONS] [PATH]",
    "",
    "Arguments:",
    "  [PATH]  Config file, or a directory whose \x60.json\x60 files are all run " ++
      "[default: config.json]",
    "",
    "Options:",
    "  -y, --yes",
    "          Don't wait for Enter before each contract",
    "      --support-brownie",
    "          Search repositories by file name, for sources whose import paths were flattened " ++
      "by brownie",
    "      --skip-binary-comparison",
    "          ",
    "      --hardhat-path <HARDHAT_PATH>",
    "          Directory containing the hardhat project used for the fork node [default: .]",
    "      --local-rpc-url <LOCAL_RPC_URL>",
    "          [env: LOCAL_RPC_URL=" ++ localUrl ++ "] [default: http://127.0.0.1:7545]",
    "      --remote-rpc-url <REMOTE_RPC_URL>",
    "          [env: REMOTE_RPC_URL]",
    "      --digest-dir <DIGEST_DIR>",
    "          Output directory for reports and logs (default: digest/<unix timestamp>)",
    "      --color",
    "          Print colored report tables and diffs; log files always get the plain text",
    "  -h, --help",
    "          Print help"]

def inputPlace : String :=
  "  <INPUT>  Bytecode as a hex string (0x...) or file path prefixed with @"

def onDecode : List String :=
  ["Decode bytecode to an instruction listing",
    "",
    "Usage: veriscan decode <INPUT>",
    "",
    "Arguments:",
    inputPlace,
    "",
    "Options:",
    "  -h, --help  Print help"]

def onTrim : List String :=
  ["Split off the metadata trailer and appended string literal",
    "",
    "Usage: veriscan trim [OPTIONS] <INPUT>",
    "",
    "Arguments:",
    inputPlace,
    "",
    "Options:",
    "      --raw   Output the trimmed code hex instead of a JSON report",
    "  -h, --help  Print help"]

def onCompare : List String :=
  ["Compare deployed bytecode against expected bytecode",
    "",
    "Usage: veriscan compare [OPTIONS] <ACTUAL> <EXPECTED>",
    "",
    "Arguments:",
    "  <ACTUAL>    Deployed bytecode, hex or @file",
    "  <EXPECTED>  Expected bytecode, hex or @file",
    "",
    "Options:",
    "      --immutables <IMMUTABLES>  solc \x60immutableReferences\x60 JSON of the expected " ++
      "code, inline or @file",
    "      --context <CONTEXT>        Instructions shown around each difference [default: 3]",
    "      --no-color                 Disable colored output",
    "  -h, --help                     Print help"]

def onEncode : List String :=
  ["ABI-encode constructor arguments",
    "",
    "Usage: veriscan encode <ABI> <ARGS>",
    "",
    "Arguments:",
    "  <ABI>   Contract ABI JSON (or compiler output with an \x60abi\x60 field), inline or @file",
    "  <ARGS>  Constructor arguments as a JSON array, inline or @file",
    "",
    "Options:",
    "  -h, --help  Print help"]

def lines (localUrl : String) : Topic → List String
  | .brief => inBrief
  | .program => onProgram
  | .command "run" => onRun localUrl
  | .command "decode" => onDecode
  | .command "trim" => onTrim
  | .command "compare" => onCompare
  | .command "encode" => onEncode
  | .command _ => onHelp

def text (localUrl : String) (topic : Topic) : String :=
  String.intercalate "\n" (lines localUrl topic)

/-- What is said about arguments that are no command. -/
def hint : String := "error: invalid arguments\n\nFor more information, try '--help'."

end DeployCheck.CommandLine.Help

-- The command line of the program.
import ArgTable.Program

namespace ArgTable

/-- What is said of a mistake on the command line. -/
def CommandLine.Stop.message : CommandLine.Stop → String
  | .help | .version => ""
  | .invalidValue => "error: an option has no value or none that it knows"
  | .repeatedOption => "error: an option cannot be used multiple times"
  | .unexpectedValue => "error: a flag takes no value"

/-- The help of the program itself. -/
def helpText : String :=
  "Usage: argmatch [OPTIONS] [TOKENS]...\n\n"
    ++ "Options:\n"
    ++ "  -n, --no-color\n"
    ++ "      --verbose\n"
    ++ "  -f, --format <FORMAT>  plain or json\n"
    ++ "  -m, --mode <MODE>  bootstrapper, pre-processor or generic\n"
    ++ "  -p, --prefix <PREFIX>\n"
    ++ "      --verb <VERB>\n"
    ++ "  -a, --allow-unrecognized\n"
    ++ "  -M, --allow-multiple\n"
    ++ "  -h, --help\n"
    ++ "  -V, --version\n\n"
    ++ Report.helpTail ++ "\n"

end ArgTable

open ArgTable in
def main (words : List String) : IO UInt32 := do
  let stdout ← IO.getStdout
  let stderr ← IO.getStderr
  let colored ← stdout.isTty
  match Program.run colored words with
  | .ok ending =>
    stderr.putStr ending.errors
    stdout.putStr ending.output
    stdout.flush
    return UInt32.ofNat ending.exitCode
  | .error .help =>
    stdout.putStr helpText
    stdout.flush
    return 0
  | .error stop =>
    stderr.putStrLn stop.message
    return UInt32.ofNat stop.exitCode

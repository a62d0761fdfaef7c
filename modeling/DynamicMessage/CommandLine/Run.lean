/-
# CommandLine.Run -- one run of the command

A run takes the words after the program's name and gives the exit code and the two outputs: code 0
with a report, code 1 with an error of the command, code 2 when the words make no request.  JSON
text comes from a writer that the run is given.
-/
import DynamicMessage.CommandLine.Arguments
import DynamicMessage.CommandLine.Report
import DynamicMessage.Hex

namespace DynamicMessage.CommandLine

set_option autoImplicit false

/-- What a command prints. -/
structure Output where
  stdout : String := ""
  stderr : String := ""
deriving DecidableEq, Repr

/-- What a run leaves. -/
structure Finished where
  code : Nat
  stdout : String := ""
  stderr : String := ""
deriving DecidableEq, Repr

/-- The usage text. -/
def usage : String :=
  "Usage: dynamic-message [-v|--verbose] <COMMAND>\n\n" ++
    "Commands:\n" ++
    "  names [--json] IDENTS...  Print camel, pascal and snake casings of identifiers\n" ++
    "  wire [--json] HEX         List the records of a hex-encoded raw wire run\n"

/-- Prints a value in JSON form.  A value that cannot be written is reported, and is no error of the
command. -/
def emit (write : Json.Writer) (payload : Json) : Output :=
  match write payload with
  | .ok text => { stdout := text ++ "\n" }
  | .error why => { stderr := s!"error: json encoding failed: {why}\n" }

/-- The report of a command, or the error that keeps it from one. -/
def Command.report (write : Json.Writer) : Command → Except Error Output
  | .names idents json =>
    .ok (if json then emit write (namesJson idents) else { stdout := namesTable idents })
  | .wire hex json =>
    match Hex.parse hex with
    | .error e => .error e
    | .ok bytes =>
      let listing := Listing.of ⟨bytes⟩
      .ok (if json then emit write listing.json else { stdout := listing.table })

/-- Runs the command line with a writer for JSON. -/
def runWith (write : Json.Writer) (words : List String) : Finished :=
  match read words with
  | .error e => { code := 2, stderr := s!"error: {e.message}\n" }
  | .ok .help => { code := 0, stdout := usage }
  | .ok (.run command) =>
    match command.report write with
    | .error e => { code := 1, stderr := s!"error: {e.message}\n" }
    | .ok output => { code := 0, stdout := output.stdout, stderr := output.stderr }

/-- Runs the command line and writes JSON as indented text. -/
def run (words : List String) : Finished := runWith Json.indented words

end DynamicMessage.CommandLine

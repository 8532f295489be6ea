import Storyboard.CommandLine.Build

/-! # Responses

What the program answers to a command line: text for the output, text for the error output, and an
exit code, which is 1 for a build that fails and 2 for a command line that is not understood.
-/

namespace Storyboard

def versionText : String := "storyweave 0.1.0\n"

def textLines (lines : List String) : String := String.join (lines.map fun line => line ++ "\n")

def helpText : String :=
  textLines [
    "Usage: storyweave [OPTIONS] <COMMAND>",
    "",
    "Commands:",
    "  build  Compile a project into a storyboard",
    "  help   Print this message or the help of the given subcommand(s)",
    "",
    "Options:",
    "  -v, --verbose  Log generation progress to stderr",
    "  -h, --help     Print help",
    "  -V, --version  Print version"]

def buildHelpText : String :=
  textLines [
    "Compile a project into a storyboard",
    "",
    "Usage: storyweave build [OPTIONS] --in <IN_PATH> --out <OUT>",
    "",
    "Options:",
    "      --in <IN_PATH>               Input project JSON",
    "  -v, --verbose                    Log generation progress to stderr",
    "      --out <OUT>                  Output file",
    "      --format <FORMAT>            Output format: osb (the default) or json",
    "      --assets-root <ASSETS_ROOT>  Directory of generated assets (the project's by default)",
    "      --widescreen                 Shift x coordinates for the 16:9 playfield",
    "      --target <TARGET>            Export target; overrides the project's",
    "      --threads <THREADS>          Script worker threads",
    "  -h, --help                       Print help"]

def causesText (failure : Failure) : String :=
  match failure.chain with
  | _ :: causes@(_ :: _) =>
    "\n\nCaused by:" ++ String.join (causes.map fun cause => "\n    " ++ cause)
  | _ => ""

/-- What the program answers. -/
structure Response where
  output : String := ""
  errors : String := ""
  code : Nat := 0
  deriving DecidableEq, Repr

namespace Response

def failureText (failure : Failure) : String :=
  "Error: " ++ failure.message ++ causesText failure ++ "\n"

def faultsText (faults : List Failure) : String :=
  String.join (faults.map fun fault => fault.message ++ "\n")

def progressText (request : BuildRequest) : String :=
  if request.verbose then
    let (source, target) := (request.input, request.output)
    s!"building '{target}' from '{source}'\n"
  else ""

def ofReport (request : BuildRequest) (report : BuildRequest.Report) : Response :=
  let told := progressText request ++ faultsText report.faults
  match report.failure with
  | none => { errors := told }
  | some failure => { errors := told ++ failureText failure, code := 1 }

/-- The answer to a command line that is not understood. -/
def ofUsageError (e : UsageError) : Response :=
  { errors := "error: " ++ e.message ++ "\n\nFor more information, try '--help'.\n", code := 2 }

end Response

/-- Does what a command line asks for. -/
def respond {m : Type → Type} [Monad m] (disk : Disk m) (arguments : List String) : m Response :=
  match Invocation.parse arguments with
  | .ok .version => return { output := versionText }
  | .ok .help => return { output := helpText }
  | .ok .buildHelp => return { output := buildHelpText }
  | .ok (.build request) => do
    let report ← request.run disk
    return .ofReport request report
  | .error e => return .ofUsageError e

end Storyboard

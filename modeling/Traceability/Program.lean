import Traceability.CommandLine
import Traceability.Loading
import Traceability.Model.Generation
import Traceability.Pattern.Basic
import Traceability.Report.Validation
import Traceability.Settings.Written
import Traceability.Yaml.Node.Reader

/-!
Contract: from arguments and files to a report.

This is where the engine for patterns and the reader of YAML are settled on:
everything that leads to a model takes any of them.

Owns: which model a request is about, and the answers that need no model.
Does not own: the reports, and printing them.
-/

namespace Traceability

/-- Why there is no model. -/
inductive BuildError where
  | load (error : LoadError)
  | generation (error : GenerationError)
deriving DecidableEq, Repr

def BuildError.message : BuildError → String
  | .load error => error.message
  | .generation error => error.message

namespace Program

def version : String := "requirements-traceability 0.1.0"

def usage : String :=
  Report.lines [
    "Builds and checks a traceability model.",
    "",
    "Usage: reqtrace [OPTIONS] [COMMAND]",
    "",
    "Commands:",
    "  status    Show counts, test totals and the filtering trace (default)",
    "  validate  Check that references resolve and indices agree",
    "  help      Show this help",
    "",
    "Options:",
    "  -v, --verbose      Say more, several times for still more",
    "  -r, --root <ROOT>  The directory of the root module [default: .]",
    "  -h, --help         Show this help",
    "  -V, --version      Show the version",
    "",
    "Options of both commands:",
    "      --no-filter        Keep the full content of every module",
    "      --output <FORMAT>  table or json [default: table]",
    "      --quiet            Say less (-q with validate)"]

/-- The model of the root module in a directory, given by its absolute path,
under the settings found there. -/
def buildModel (tree : FileTree) (directory : String) (noFilter : Bool) :
    Except BuildError Model := do
  let settings := Settings.ofDirectory tree directory
  let graph ← (ModuleGraph.load tree settings directory).mapError .load
  (graph.generate (settings.filter && !noFilter)).mapError .generation

/-- Carries out a request in the directory `base`, given by its absolute path. -/
def report (tree : FileTree) (base : String) (request : CommandLine.Request) : Report :=
  match buildModel tree (joinPath base request.root) request.noFilter with
  | .error error => .failed error.message
  | .ok model =>
      match request.command with
      | .status => .status request.format request.quiet request.root model
      | .validate => .validation request.format request.quiet model

/-- What the program answers to its arguments in the directory `base`. -/
def run (tree : FileTree) (base : String) (arguments : List String) : Report :=
  match CommandLine.read arguments with
  | .ok request => report tree base request
  | .error .help => ⟨Report.success, usage, ""⟩
  | .error .version => ⟨Report.success, Report.lines [version], ""⟩
  | .error .misuse => ⟨Report.problem, "", "Error: the arguments make no sense\n\n" ++ usage⟩

end Program

end Traceability

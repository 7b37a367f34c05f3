import Traceability.Json
import Traceability.Model.Basic
import Traceability.Report.Basic

/-!
Contract: how much a model holds, module by module, and how its tests went.

Owns: the counts, and the three forms they are reported in.
Does not own: the model.
-/

namespace Traceability

/-- Forms of a report. -/
inductive OutputFormat where
  | table
  | json
deriving DecidableEq, Repr

/-- How many entities a module has in a model. -/
structure ModuleCounts where
  urn : String
  requirements : Nat
  cases : Nat
  results : Nat
deriving DecidableEq, Repr

namespace Model

def moduleCounts (model : Model) (urn : String) : ModuleCounts where
  urn := urn
  requirements := (model.requirementsOfUrn[urn]?).elim 0 (·.size)
  cases := (model.casesOfUrn[urn]?).elim 0 (·.size)
  results := (model.resultsOfUrn[urn]?).elim 0 (·.size)

/-- The counts of all modules, in the order in which they were read. -/
def allCounts (model : Model) : List ModuleCounts := model.order.map model.moduleCounts

/-- The statuses of all tests that annotations stand for. -/
def testStatuses (model : Model) : List TestStatus :=
  model.testOutcomes.values.flatten.map (·.status)

/-- How many tests have a status. -/
def testCount (model : Model) (status : TestStatus) : Nat := model.testStatuses.count status

/-- The statuses that some test has, with their counts. -/
def testCounts (model : Model) : List (TestStatus × Nat) :=
  (Spelled.values.map fun status => (status, model.testCount status)).filter (0 < ·.2)

/-- Whether some test failed, or is missing. -/
def hasUnverified (model : Model) : Bool :=
  0 < model.testCount .failed + model.testCount .missing

end Model

namespace Report.Status

def rule (length : Nat) : String := "".pushn '─' length

def row (label requirements cases results : String) : String :=
  " ".intercalate [atLeft 24 label, atRight 6 requirements, atRight 6 cases, atRight 6 results]

def moduleRow (counts : ModuleCounts) : String :=
  row counts.urn (toString counts.requirements) (toString counts.cases)
    (toString counts.results)

def moduleLines (model : Model) : List String :=
  [s!"Modules from {model.root}", rule 17, row "Module" "Reqs" "SVCs" "MVRs"] ++
    model.allCounts.map moduleRow ++
    [row "Total" (toString model.requirements.size) (toString model.cases.size)
      (toString model.results.size)]

def testLines (model : Model) : List String :=
  if model.testCounts.isEmpty then []
  else
    ["", "Automated tests", rule 15] ++ model.testCounts.map fun (status, count) =>
      atLeft 8 (Spelled.spelling status) ++ " " ++ toString count

def filterLine (model : Model) : String :=
  if model.filtered then "Filtered: " ++ " → ".intercalate model.visited
  else "Unfiltered: every module's full content is included"

/-- The report as a table. -/
def table (model : Model) : String :=
  lines (moduleLines model ++ testLines model ++ ["", filterLine model] ++
    model.warnings.map fun warning => "⚠️  " ++ warning.message)

/-- The totals on one line. -/
def summary (model : Model) : String :=
  lines [" ".intercalate [s!"requirements={model.requirements.size}",
    s!"svcs={model.cases.size}", s!"mvrs={model.results.size}",
    s!"failed={model.testCount TestStatus.failed}",
    s!"missing={model.testCount TestStatus.missing}"]]

def countsJson (counts : ModuleCounts) : Json :=
  .object [("mvrs", .nat counts.results), ("requirements", .nat counts.requirements),
    ("svcs", .nat counts.cases), ("urn", .string counts.urn)]

/-- The report as JSON, with the members of every object in order. -/
def json (model : Model) : Json :=
  let tests := [TestStatus.failed, .missing, .passed, .skipped].filter (0 < model.testCount ·)
  .object [
    ("automated_tests", .object (tests.map fun status =>
      (Spelled.spelling status, .nat (model.testCount status)))),
    ("filtered", .bool model.filtered),
    ("modules", .array (model.allCounts.map countsJson)),
    ("root", .string model.root),
    ("total", .object [("mvrs", .nat model.results.size),
      ("requirements", .nat model.requirements.size), ("svcs", .nat model.cases.size)]),
    ("visited", .strings model.visited),
    ("warnings", .strings (model.warnings.map FilterWarning.message))]

def output (format : OutputFormat) (quiet : Bool) (model : Model) : String :=
  match format with
  | .json => (json model).pretty 0 ++ "\n"
  | .table => if quiet then summary model else table model

end Report.Status

/-- The status of a model that was read from the directory `root`. A test that
failed or is missing is a problem. Without requirements no test is looked at. -/
def Report.status (format : OutputFormat) (quiet : Bool) (root : String) (model : Model) :
    Report :=
  if model.requirements.isEmpty then
    { exitCode := success, output := lines [s!"No requirements found in {root}."] }
  else
    { exitCode := if model.hasUnverified then problem else success
      output := Status.output format quiet model }

end Traceability

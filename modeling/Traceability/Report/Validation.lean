import Traceability.Model.Consistency
import Traceability.Report.Status

/-!
Contract: whether a model is consistent, and what is wrong if it is not.

Owns: the forms in which findings are reported.
Does not own: the findings.
-/

namespace Traceability

namespace Report.Validation

/-- The findings as a list. -/
def table (findings : List String) : String :=
  if findings.isEmpty then lines ["✅ No inconsistencies found"]
  else
    lines (s!"⚠️  {findings.length} inconsistencies found" ::
      findings.map fun finding => "  • " ++ finding)

/-- The findings as JSON, with the members of every object in order. -/
def json (model : Model) (findings : List String) : Json :=
  .object [("filtered", .bool model.filtered), ("inconsistencies", .strings findings),
    ("root", .string model.root)]

def output (format : OutputFormat) (quiet : Bool) (model : Model) (findings : List String) :
    String :=
  match format with
  | .json => (json model findings).pretty 0 ++ "\n"
  | .table => if quiet then "" else table findings

end Report.Validation

/-- The findings about a model, any of which is a problem. -/
def Report.validation (format : OutputFormat) (quiet : Bool) (model : Model) : Report :=
  let findings := model.inconsistencies.map Inconsistency.message
  { exitCode := if findings.isEmpty then success else problem
    output := Validation.output format quiet model findings }

end Traceability

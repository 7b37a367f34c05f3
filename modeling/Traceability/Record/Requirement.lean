import Traceability.Identifier
import Traceability.Record.Spelling

/-!
Contract: what is recorded of a requirement.

Owns: the record and the enumerations in it.
Does not own: which cases verify a requirement.
-/

namespace Traceability

/-- How binding a requirement is. -/
inductive Significance where
  | shall
  | should
  | may
deriving DecidableEq, Repr

instance : Spelled Significance where
  values := [.shall, .should, .may]
  spelling
    | .shall => "shall"
    | .should => "should"
    | .may => "may"

/-- Where a requirement is implemented. -/
inductive Implementation where
  | inCode
  | notApplicable
deriving DecidableEq, Repr

instance : Spelled Implementation where
  values := [.inCode, .notApplicable]
  spelling
    | .inCode => "in-code"
    | .notApplicable => "N/A"

structure Requirement where
  id : Identifier
  title : String
  significance : Significance
  description : String
  rationale : Option String
  categories : Std.ExtTreeSet String
  revision : String
  implementation : Implementation
deriving DecidableEq

end Traceability

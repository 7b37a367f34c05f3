import Traceability.Identifier
import Traceability.NonEmptyList
import Traceability.Record.Spelling

/-!
Contract: what is recorded of verification.

A verification case (SVC) names the requirements it verifies, and a manual
verification result (MVR) names the cases it reports on. Neither list is ever
empty.

Owns: the two records, and how they lose references.
Does not own: which of the references resolve.
-/

namespace Traceability

/-- How a case is carried out. -/
inductive VerificationKind where
  | automatedTest
  | manualTest
  | review
  | platform
  | other
deriving DecidableEq, Repr

instance : Spelled VerificationKind where
  values := [.automatedTest, .manualTest, .review, .platform, .other]
  spelling
    | .automatedTest => "automated-test"
    | .manualTest => "manual-test"
    | .review => "review"
    | .platform => "platform"
    | .other => "other"

structure VerificationCase where
  id : Identifier
  title : String
  description : Option String
  verification : VerificationKind
  instructions : Option String
  revision : String
  requirements : NonEmptyList Identifier
deriving DecidableEq, Repr

/-- The case with the references that satisfy `keep`, unless none does. -/
def VerificationCase.retain? (verificationCase : VerificationCase)
    (keep : Identifier → Bool) : Option VerificationCase :=
  (verificationCase.requirements.retain? keep).map fun requirements =>
    { verificationCase with requirements }

structure ManualResult where
  id : Identifier
  cases : NonEmptyList Identifier
  passed : Bool
  comment : Option String
deriving DecidableEq, Repr

/-- The result with the references that satisfy `keep`, unless none does. -/
def ManualResult.retain? (result : ManualResult)
    (keep : Identifier → Bool) : Option ManualResult :=
  (result.cases.retain? keep).map fun cases => { result with cases }

end Traceability

import Traceability.Expression.Parser

/-!
Contract: filter expressions as values.

An expression is a text together with the condition it states; it is read once
and asked many times.

Owns: reading and asking.
Does not own: which filter an expression belongs to.
-/

namespace Traceability

variable [PatternEngine]

structure Expression where
  source : String
  condition : Condition
deriving DecidableEq

namespace Expression

def parse (source : String) : Except SyntaxError Expression :=
  match parseCondition source with
  | .ok condition => .ok ⟨source, condition⟩
  | .error failure => .error failure

/-- Whether the expression holds of the candidate; bare literals belong to the
module `urn`. -/
def holds (expression : Expression) (urn : String) (candidate : Identifier) : Bool :=
  expression.condition.holds urn candidate

end Expression

end Traceability

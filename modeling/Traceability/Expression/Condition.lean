import Traceability.Expression.PatternEngine
import Traceability.Identifier
import Traceability.NonEmptyList

/-!
Contract: the conditions that filter expressions state of identifiers.

A comparison holds of an identifier when one of its operands matches it, or
none if it is negated. A literal names one identifier; a pattern is searched
in the text of the identifier. Conditions combine by `all`, `any` and `not`;
one read from a text has at least two members under `all` and `any`.

Owns: the tree, its equality, and its meaning.
Does not own: the notation.
-/

namespace Traceability

variable [PatternEngine]

inductive Operand where
  | literal (text : String)
  | pattern (regex : PatternEngine.Compiled)
deriving DecidableEq

/-- Whether the operand matches, a bare literal being local to `urn`. -/
def Operand.accepts (urn : String) (candidate : Identifier) : Operand → Bool
  | .literal text => candidate.matchesLiteral urn text
  | .pattern regex => PatternEngine.occursIn regex candidate.display

inductive Condition where
  | comparison (negated : Bool) (operands : NonEmptyList Operand)
  | all (members : List Condition)
  | any (members : List Condition)
  | not (member : Condition)

namespace Condition

mutual

/-- Whether the condition holds of the candidate, bare literals being local to
`urn`. -/
def holds (urn : String) (candidate : Identifier) : Condition → Bool
  | .comparison negated operands =>
      operands.toList.any (Operand.accepts urn candidate) != negated
  | .all members => allHold urn candidate members
  | .any members => anyHolds urn candidate members
  | .not member => !holds urn candidate member

def allHold (urn : String) (candidate : Identifier) : List Condition → Bool
  | [] => true
  | head :: tail => holds urn candidate head && allHold urn candidate tail

def anyHolds (urn : String) (candidate : Identifier) : List Condition → Bool
  | [] => false
  | head :: tail => holds urn candidate head || anyHolds urn candidate tail

end

theorem allHold_eq_all (urn : String) (candidate : Identifier) (members : List Condition) :
    allHold urn candidate members = members.all (holds urn candidate) := by
  induction members with
  | nil => simp [allHold]
  | cons head tail inductionHypothesis => rw [allHold, inductionHypothesis, List.all_cons]

theorem anyHolds_eq_any (urn : String) (candidate : Identifier) (members : List Condition) :
    anyHolds urn candidate members = members.any (holds urn candidate) := by
  induction members with
  | nil => simp [anyHolds]
  | cons head tail inductionHypothesis => rw [anyHolds, inductionHypothesis, List.any_cons]

mutual

def decideEq : (left right : Condition) → Decidable (left = right)
  | .comparison leftNegated leftOperands, .comparison rightNegated rightOperands =>
      decidable_of_iff (leftNegated = rightNegated ∧ leftOperands = rightOperands) (by simp)
  | .all left, .all right =>
      match decideListEq left right with
      | isTrue equal => isTrue (by rw [equal])
      | isFalse different => isFalse (by simpa using different)
  | .any left, .any right =>
      match decideListEq left right with
      | isTrue equal => isTrue (by rw [equal])
      | isFalse different => isFalse (by simpa using different)
  | .not left, .not right =>
      match decideEq left right with
      | isTrue equal => isTrue (by rw [equal])
      | isFalse different => isFalse (by simpa using different)
  | .comparison _ _, .all _ | .comparison _ _, .any _ | .comparison _ _, .not _
  | .all _, .comparison _ _ | .all _, .any _ | .all _, .not _
  | .any _, .comparison _ _ | .any _, .all _ | .any _, .not _
  | .not _, .comparison _ _ | .not _, .all _ | .not _, .any _ => isFalse (by simp)

def decideListEq : (left right : List Condition) → Decidable (left = right)
  | [], [] => isTrue rfl
  | [], _ :: _ => isFalse (by simp)
  | _ :: _, [] => isFalse (by simp)
  | leftHead :: leftTail, rightHead :: rightTail =>
      match decideEq leftHead rightHead with
      | isFalse different => isFalse (by simp [different])
      | isTrue headEqual =>
          match decideListEq leftTail rightTail with
          | isTrue tailEqual => isTrue (by rw [headEqual, tailEqual])
          | isFalse different => isFalse (by simp [different])

end

instance : DecidableEq Condition := decideEq

end Condition

end Traceability

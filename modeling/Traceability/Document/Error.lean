import Traceability.Expression.Error
import Traceability.Identifier

/-!
Contract: why a document that is well formed cannot be used.

Owns: the causes and their messages, and adding a record under a new name.
Does not own: the documents.
-/

namespace Traceability.Document

inductive Error where
  | identifier (error : Identifier.Error)
  | expression (error : Expression.SyntaxError)
  /-- A case or a result refers to nothing. -/
  | emptyReferences (owner : Identifier)
  | duplicate (id : Identifier)
deriving DecidableEq, Repr

def Error.message : Error → String
  | .identifier error => error.message
  | .expression error => error.message
  | .emptyReferences owner => s!"{owner.display} has an empty reference list"
  | .duplicate id => s!"{id.display} is defined more than once"

/-- The identifier that `text` names from within the module `urn`. -/
def resolve (urn text : String) : Except Error Identifier :=
  (Identifier.qualify urn text).mapError .identifier

/-- Adds a record unless there is one of its name. -/
def insertNew {α : Type} (records : IdentifierMap α) (id : Identifier) (record : α) :
    Except Error (IdentifierMap α) :=
  if records.contains id then .error (.duplicate id) else .ok (records.insert id record)

end Traceability.Document

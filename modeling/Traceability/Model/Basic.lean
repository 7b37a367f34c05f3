import Traceability.ImportGraph

/-!
Contract: the merged model of all modules that a root may see.

The model holds the entities of all modules under their identifiers, and five
indices over them: three list the entities by the urn in their identifiers, and
two list the cases of a requirement and the results on a case. Annotations and
test outcomes have no identity of their own and are listed under what they
belong to.

Owns: the record, and the operations on one index.
Does not own: keeping entities and indices in step.
-/

namespace Traceability

/-- Identifiers listed under keys. A key may list none. -/
abbrev Index (κ : Type) [Ord κ] := Std.ExtTreeMap κ IdentifierSet

namespace Index

variable {κ : Type} [Ord κ] [Std.TransOrd κ]

/-- Adds a key, which lists nothing unless it was there. -/
def addKey (index : Index κ) (key : κ) : Index κ :=
  index.alter key fun ids => some (ids.getD ∅)

/-- Lists an identifier under a key. -/
def add (index : Index κ) (key : κ) (id : Identifier) : Index κ :=
  index.alter key fun ids => some ((ids.getD ∅).insert id)

/-- Lists an identifier no longer under a key, and keeps the key. -/
def remove (index : Index κ) (key : κ) (id : Identifier) : Index κ :=
  index.modify key fun ids => ids.erase id

/-- Lists an identifier no longer under a key, and drops a key that lists
nothing then. -/
def prune (index : Index κ) (key : κ) (id : Identifier) : Index κ :=
  index.alter key fun
    | none => none
    | some ids => if (ids.erase id).isEmpty then none else some (ids.erase id)

/-- Whether an identifier is listed under a key. -/
def lists (index : Index κ) (key : κ) (id : Identifier) : Bool :=
  (index[key]?).any fun ids => ids.contains id

end Index

/-- A rule of a module names an identifier that is not among its candidates. -/
structure FilterWarning where
  module : String
  action : FilterAction
  id : Identifier
deriving DecidableEq, Repr

def FilterWarning.message (warning : FilterWarning) : String :=
  s!"Cannot {warning.action.display}: {warning.id.display} does not exist or is not accessible"

structure Model where
  root : String
  /-- The modules in the order in which they were added to the graph. -/
  order : List String
  /-- For every module, the modules it reaches by imports. -/
  accessible : UrnMap UrnSet
  /-- The modules that filtering went through, imports first. -/
  visited : List String
  filtered : Bool
  requirements : IdentifierMap Requirement
  cases : IdentifierMap VerificationCase
  results : IdentifierMap ManualResult
  /-- Annotations of implementations, by requirement. -/
  implementations : IdentifierMap (List Annotation)
  /-- Annotations of tests, by case. -/
  tests : IdentifierMap (List Annotation)
  /-- Outcomes by the urn of a case and the name of an annotation. -/
  testOutcomes : IdentifierMap (List TestOutcome)
  requirementsOfUrn : Index String
  casesOfUrn : Index String
  casesOfRequirement : Index Identifier
  resultsOfUrn : Index String
  resultsOfCase : Index Identifier
  warnings : List FilterWarning

/-- The model without entities. -/
def Model.empty (root : String) (order : List String) (accessible : UrnMap UrnSet) : Model where
  root := root
  order := order
  accessible := accessible
  visited := []
  filtered := false
  requirements := ∅
  cases := ∅
  results := ∅
  implementations := ∅
  tests := ∅
  testOutcomes := ∅
  requirementsOfUrn := ∅
  casesOfUrn := ∅
  casesOfRequirement := ∅
  resultsOfUrn := ∅
  resultsOfCase := ∅
  warnings := []

end Traceability

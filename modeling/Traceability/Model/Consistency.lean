import Traceability.Model.Basic

/-!
Contract: finding what is broken in a model.

A finding is a reference to an entity that is not there, an entry that an index
should list and does not, or one that it lists without reason. What an index
should list follows from the entities alone.

Owns: the findings and their order, and the message for each.
Does not own: repair.
-/

namespace Traceability

inductive Inconsistency where
  | danglingRequirement (verificationCase requirement : Identifier)
  | danglingCase (result verificationCase : Identifier)
  | missingEntry (index key : String) (id : Identifier)
  | staleEntry (index key : String) (id : Identifier)
deriving DecidableEq, Repr

def Inconsistency.message : Inconsistency → String
  | .danglingRequirement verificationCase requirement =>
      s!"SVC {verificationCase.display} references missing requirement {requirement.display}"
  | .danglingCase result verificationCase =>
      s!"MVR {result.display} references missing SVC {verificationCase.display}"
  | .missingEntry index key id => s!"index {index}[{key}] is missing {id.display}"
  | .staleEntry index key id => s!"index {index}[{key}] lists stale entry {id.display}"

/-- Compares an index with the entries it should list: first those it lacks,
as often as they are implied, then those it lists without reason. Keys are told
apart by their texts. -/
def Index.compare {κ : Type} [Ord κ] [Std.TransOrd κ] (name : String) (keyText : κ → String)
    (index : Index κ) (implied : List (κ × Identifier)) : List Inconsistency :=
  let lacking := (implied.filter fun entry => !index.lists entry.1 entry.2).map fun entry =>
    Inconsistency.missingEntry name (keyText entry.1) entry.2
  let expected := implied.map fun entry => (keyText entry.1, entry.2)
  let stale := index.toList.flatMap fun (key, ids) =>
    (ids.toList.filter fun id => !expected.contains (keyText key, id)).map fun id =>
      Inconsistency.staleEntry name (keyText key) id
  lacking ++ stale

namespace Model

/-- Every reference of a case, with the case. -/
def requirementReferences (model : Model) : List (Identifier × Identifier) :=
  model.cases.values.flatMap fun verificationCase =>
    verificationCase.requirements.toList.map fun reference => (reference, verificationCase.id)

/-- Every reference of a result, with the result. -/
def caseReferences (model : Model) : List (Identifier × Identifier) :=
  model.results.values.flatMap fun result =>
    result.cases.toList.map fun reference => (reference, result.id)

/-- Everything that is broken: references first, then the indices. -/
def inconsistencies (model : Model) : List Inconsistency :=
  let byUrn (ids : List Identifier) : List (String × Identifier) := ids.map fun id => (id.urn, id)
  ((model.requirementReferences.filter fun entry => !model.requirements.contains entry.1).map
    fun entry => .danglingRequirement entry.2 entry.1) ++
  ((model.caseReferences.filter fun entry => !model.cases.contains entry.1).map
    fun entry => .danglingCase entry.2 entry.1) ++
  model.requirementsOfUrn.compare "reqs_from_urn" id (byUrn model.requirements.keys) ++
  model.casesOfUrn.compare "svcs_from_urn" id (byUrn model.cases.keys) ++
  model.resultsOfUrn.compare "mvrs_from_urn" id (byUrn model.results.keys) ++
  model.casesOfRequirement.compare "svcs_from_req" Identifier.display
    model.requirementReferences ++
  model.resultsOfCase.compare "mvrs_from_svc" Identifier.display model.caseReferences

end Model

end Traceability

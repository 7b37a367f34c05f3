import Traceability.Proofs.Model.Findings

/-!
Contract: models whose parts agree with each other.

A coherent model keeps every entity under its own identifier, resolves every
reference, and has indices that list exactly what the entities imply; an index
by reference has no empty keys. Nothing is ever broken in such a model.

Owns: coherence of a model, and its two tables.
Does not own: which operations keep a model coherent.
-/

namespace Traceability

namespace Model

/-- The cases with their indices. -/
def caseTable (model : Model) : Table VerificationCase :=
  ⟨model.cases, model.casesOfUrn, model.casesOfRequirement⟩

/-- The results with their indices. -/
def resultTable (model : Model) : Table ManualResult :=
  ⟨model.results, model.resultsOfUrn, model.resultsOfCase⟩

/-- Replaces the requirements together with their index. -/
def withRequirements (model : Model) (requirements : IdentifierMap Requirement)
    (requirementsOfUrn : Index String) : Model :=
  { model with requirements, requirementsOfUrn }

/-- Replaces the cases together with their indices. -/
def withCases (model : Model) (table : Table VerificationCase) : Model :=
  { model with
    cases := table.entities
    casesOfUrn := table.ofUrn
    casesOfRequirement := table.ofReference }

/-- Replaces the results together with their indices. -/
def withResults (model : Model) (table : Table ManualResult) : Model :=
  { model with
    results := table.entities
    resultsOfUrn := table.ofUrn
    resultsOfCase := table.ofReference }

/-- Entities are kept under their own identifiers, references resolve, and the
indices list exactly what the entities imply. -/
structure Coherent (model : Model) : Prop where
  requirement_keyed : ∀ {id : Identifier} {requirement : Requirement},
    model.requirements[id]? = some requirement → requirement.id = id
  requirement_located : ∀ urn id,
    model.requirementsOfUrn.lists urn id ↔ id ∈ model.requirements ∧ id.urn = urn
  cases : model.caseTable.Coherent
  results : model.resultTable.Coherent
  requirement_mem : ∀ {id : Identifier} {verificationCase : VerificationCase},
    model.cases[id]? = some verificationCase →
      ∀ reference ∈ verificationCase.requirements.toList, reference ∈ model.requirements
  case_mem : ∀ {id : Identifier} {result : ManualResult},
    model.results[id]? = some result →
      ∀ reference ∈ result.cases.toList, reference ∈ model.cases

end Model

namespace Model

variable {model : Model}

theorem Coherent.keyed (coherent : model.Coherent) : model.Keyed :=
  ⟨coherent.cases.keyed, coherent.results.keyed⟩

theorem Coherent.inOrder (coherent : model.Coherent) : model.InOrder where
  requirement_mem := by
    rintro id requirement ⟨verificationCase, found, member⟩
    exact coherent.requirement_mem found requirement member
  case_mem := by
    rintro id verificationCase ⟨result, found, member⟩
    exact coherent.case_mem found verificationCase member
  requirementsOfUrn_iff := coherent.requirement_located _ _
  casesOfUrn_iff := coherent.cases.located _ _
  resultsOfUrn_iff := coherent.results.located _ _
  casesOfRequirement_iff := coherent.cases.lists_ofReference
  resultsOfCase_iff := coherent.results.lists_ofReference

theorem Coherent.inconsistencies_eq_nil (coherent : model.Coherent) :
    model.inconsistencies = [] :=
  coherent.inOrder.inconsistencies_eq_nil coherent.keyed

end Model

end Traceability

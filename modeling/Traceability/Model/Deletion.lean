import Traceability.Model.Basic

/-!
Contract: deleting entities from a model.

A deletion takes an entity out of its map and its indices and takes the
references to it away; whatever is left without a reference is deleted in
turn. A key of an index by urn stays when it lists nothing more, a key of an
index by reference goes. Deleting what is not there changes nothing.

Owns: the three deletions.
Does not own: what to delete.
-/

namespace Traceability.Model

/-- Takes a result out. -/
def deleteResult (model : Model) (id : Identifier) : Model :=
  match model.results[id]? with
  | none => model
  | some result =>
      { model with
        results := model.results.erase id
        resultsOfUrn := model.resultsOfUrn.remove id.urn id
        resultsOfCase := result.cases.toList.foldl
          (fun index reference => index.prune reference id) model.resultsOfCase }

/-- Takes the reference to `gone` from a result, and the result out if that was
its last. -/
def dropCaseFrom (gone : Identifier) (model : Model) (id : Identifier) : Model :=
  match model.results[id]? with
  | none => model
  | some result =>
      match result.retain? (· ≠ gone) with
      | some kept => { model with results := model.results.insert id kept }
      | none => model.deleteResult id

/-- Takes a case out, and the results that reported on nothing else. -/
def deleteCase (model : Model) (id : Identifier) : Model :=
  match model.cases[id]? with
  | none => model
  | some verificationCase =>
      let reporting := (model.resultsOfCase[id]?).getD ∅
      reporting.toList.foldl (dropCaseFrom id)
        { model with
          cases := model.cases.erase id
          casesOfUrn := model.casesOfUrn.remove id.urn id
          casesOfRequirement := verificationCase.requirements.toList.foldl
            (fun index reference => index.prune reference id) model.casesOfRequirement
          resultsOfCase := model.resultsOfCase.erase id }

/-- Takes the reference to `gone` from a case, and the case out if that was its
last. -/
def dropRequirementFrom (gone : Identifier) (model : Model) (id : Identifier) : Model :=
  match model.cases[id]? with
  | none => model
  | some verificationCase =>
      match verificationCase.retain? (· ≠ gone) with
      | some kept => { model with cases := model.cases.insert id kept }
      | none => model.deleteCase id

/-- Takes a requirement out, and the cases that verified nothing else. -/
def deleteRequirement (model : Model) (id : Identifier) : Model :=
  match model.requirements[id]? with
  | none => model
  | some _ =>
      let verifying := (model.casesOfRequirement[id]?).getD ∅
      verifying.toList.foldl (dropRequirementFrom id)
        { model with
          requirements := model.requirements.erase id
          requirementsOfUrn := model.requirementsOfUrn.remove id.urn id
          casesOfRequirement := model.casesOfRequirement.erase id }

end Traceability.Model

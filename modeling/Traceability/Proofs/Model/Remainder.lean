import Traceability.Proofs.Model.Deletion

/-!
Contract: what is left of a coherent model after any deletions.

Deletions cascade from requirements to cases and from cases to results, and
may be asked for in any order and more than once. What is left depends only on
what was asked for: the cases and results that were not deleted keep the
references to what is left, and those without any go.

Owns: the closed form, and its equality with any run of deletions.
Does not own: which deletions narrow a model to what its root may see.
-/

namespace Traceability

/-- One deletion that is asked for. -/
inductive Deletion where
  | requirement (id : Identifier)
  | verificationCase (id : Identifier)
  | manualResult (id : Identifier)
deriving DecidableEq

namespace Model

/-- Carries out one deletion. -/
def delete (model : Model) : Deletion → Model
  | .requirement id => model.deleteRequirement id
  | .verificationCase id => model.deleteCase id
  | .manualResult id => model.deleteResult id

/-- Carries out deletions one after the other. -/
def deleteAll (model : Model) (deletions : List Deletion) : Model :=
  deletions.foldl delete model

/-- The model without what is deleted. Requirements go only if they are
deleted. A case goes if it is deleted or if all its requirements are, and a
result if it is deleted or if all its cases go. References to what goes are
dropped. An index by urn keeps its keys, one by reference only those under
which something is left. -/
def without (model : Model) (deleted : Deletion → Bool) : Model :=
  let requirements := model.requirements.filter fun id _ => !deleted (.requirement id)
  let cases := model.cases.filterMap fun id verificationCase =>
    if deleted (.verificationCase id) then none
    else verificationCase.retain? fun reference => !deleted (.requirement reference)
  let results := model.results.filterMap fun id result =>
    if deleted (.manualResult id) then none else result.retain? cases.contains
  { model with
    requirements
    cases
    results
    requirementsOfUrn := model.requirementsOfUrn.filterIds requirements.contains
    casesOfUrn := model.casesOfUrn.filterIds cases.contains
    resultsOfUrn := model.resultsOfUrn.filterIds results.contains
    casesOfRequirement := model.casesOfRequirement.pruneIds fun reference id =>
      requirements.contains reference && cases.contains id
    resultsOfCase := model.resultsOfCase.pruneIds fun reference id =>
      cases.contains reference && results.contains id }

/-- Keeps some of the requirements, and every key of their index. -/
def keepRequirements (model : Model) (keep : Identifier → Bool) : Model :=
  model.withRequirements (model.requirements.filter fun id _ => keep id)
    (model.requirementsOfUrn.filterIds keep)

/-- The cases that are left. -/
def casesWithout (model : Model) (deleted : Deletion → Bool) : Table VerificationCase :=
  model.caseTable.restrict fun id reference =>
    !deleted (.verificationCase id) && !deleted (.requirement reference)

/-- The results that are left. -/
def resultsWithout (model : Model) (deleted : Deletion → Bool) : Table ManualResult :=
  model.resultTable.restrict fun id reference =>
    !deleted (.manualResult id) && (model.casesWithout deleted).entities.contains reference

variable {model : Model} {deleted : Deletion → Bool} {id : Identifier}

theorem mem_filter_requirements {keep : Identifier → Bool} :
    id ∈ (model.requirements.filter fun id _ => keep id) ↔ id ∈ model.requirements ∧ keep id := by
  simp [Std.ExtTreeMap.mem_filter]

theorem cases_without : (model.without deleted).cases = (model.casesWithout deleted).entities := by
  apply Std.ExtTreeMap.ext_getElem?
  intro id
  rw [casesWithout, Table.entities_restrict, without, Std.ExtTreeMap.getElem?_filterMap']
  apply congrArg (Option.bind _)
  funext verificationCase
  cases deleted (.verificationCase id) with
  | false =>
      simp
      rfl
  | true => exact (Referring.retain?_eq_none_iff.mpr (by simp)).symm

theorem results_without :
    (model.without deleted).results = (model.resultsWithout deleted).entities := by
  apply Std.ExtTreeMap.ext_getElem?
  intro id
  rw [resultsWithout, Table.entities_restrict, ← cases_without, without,
    Std.ExtTreeMap.getElem?_filterMap']
  apply congrArg (Option.bind _)
  funext result
  cases deleted (.manualResult id) with
  | false =>
      simp
      rfl
  | true => exact (Referring.retain?_eq_none_iff.mpr (by simp)).symm

theorem Coherent.requirementsOfUrn_without (coherent : model.Coherent) :
    (model.without deleted).requirementsOfUrn =
      model.requirementsOfUrn.filterIds fun id => !deleted (.requirement id) := by
  apply Index.ext_lists
  · intro urn
    rw [without, Index.mem_filterIds, Index.mem_filterIds]
  · intro urn id
    rw [without, Index.lists_filterIds, Index.lists_filterIds, coherent.requirement_located,
      Std.ExtTreeMap.contains_iff_mem, mem_filter_requirements]
    grind

theorem Coherent.contains_requirements_without (coherent : model.Coherent)
    {verificationCase : VerificationCase} (found : model.cases[id]? = some verificationCase)
    {reference : Identifier} (member : reference ∈ verificationCase.requirements.toList) :
    (model.without deleted).requirements.contains reference =
      !deleted (.requirement reference) := by
  have present := coherent.requirement_mem found reference member
  rw [Bool.eq_iff_iff, Std.ExtTreeMap.contains_iff_mem, without, mem_filter_requirements,
    and_iff_right present]

/-- A case that is not deleted keeps the requirements that are left. -/
theorem Coherent.getElem?_cases_without (coherent : model.Coherent) :
    (model.without deleted).cases[id]? =
      (model.cases[id]?).bind fun verificationCase =>
        if deleted (.verificationCase id) then none
        else verificationCase.retain? (model.without deleted).requirements.contains := by
  have explicit : (model.without deleted).cases[id]? =
      (model.cases[id]?).bind fun verificationCase =>
        if deleted (.verificationCase id) then none
        else verificationCase.retain? fun reference => !deleted (.requirement reference) :=
    Std.ExtTreeMap.getElem?_filterMap'
  rw [explicit]
  cases found : model.cases[id]? with
  | none => rfl
  | some verificationCase =>
      have sameReferences : (verificationCase.retain? fun reference =>
          !deleted (.requirement reference)) =
          verificationCase.retain? (model.without deleted).requirements.contains :=
        Referring.retain?_congr fun reference member =>
          (coherent.contains_requirements_without found member).symm
      rw [Option.bind_some, Option.bind_some, sameReferences]

/-- A result that is not deleted keeps the cases that are left. -/
theorem getElem?_results_without :
    (model.without deleted).results[id]? =
      (model.results[id]?).bind fun result =>
        if deleted (.manualResult id) then none
        else result.retain? (model.without deleted).cases.contains :=
  Std.ExtTreeMap.getElem?_filterMap'

theorem Coherent.casesOfRequirement_without (coherent : model.Coherent) :
    (model.without deleted).casesOfRequirement = (model.casesWithout deleted).ofReference := by
  have live : ∀ (id : Identifier) (verificationCase : VerificationCase),
      model.caseTable.entities[id]? = some verificationCase →
        ∀ reference ∈ verificationCase.requirements.toList,
          (model.without deleted).requirements.contains reference =
            !deleted (.requirement reference) :=
    fun _ _ found _ member => coherent.contains_requirements_without found member
  rw [casesWithout, coherent.cases.ofReference_restrict live, ← casesWithout, ← cases_without]
  rfl

theorem Coherent.resultsOfCase_without (coherent : model.Coherent) :
    (model.without deleted).resultsOfCase = (model.resultsWithout deleted).ofReference := by
  have live : ∀ (id : Identifier) (result : ManualResult),
      model.resultTable.entities[id]? = some result → ∀ reference ∈ result.cases.toList,
        (model.without deleted).cases.contains reference =
          (model.casesWithout deleted).entities.contains reference := by
    intro id result found reference member
    rw [cases_without]
  rw [resultsWithout, coherent.results.ofReference_restrict live, ← resultsWithout,
    ← results_without]
  rfl

theorem Coherent.without_eq (coherent : model.Coherent) :
    model.without deleted =
      ((model.keepRequirements fun id => !deleted (.requirement id)).withCases
        (model.casesWithout deleted)).withResults (model.resultsWithout deleted) := by
  have casesOfUrn : (model.without deleted).casesOfUrn = (model.casesWithout deleted).ofUrn :=
    congrArg (fun cases : IdentifierMap VerificationCase =>
      model.casesOfUrn.filterIds cases.contains) cases_without
  have resultsOfUrn : (model.without deleted).resultsOfUrn =
      (model.resultsWithout deleted).ofUrn :=
    congrArg (fun results : IdentifierMap ManualResult =>
      model.resultsOfUrn.filterIds results.contains) results_without
  rw [keepRequirements, withRequirements, withCases, withResults, ← cases_without,
    ← results_without, ← coherent.requirementsOfUrn_without, ← casesOfUrn, ← resultsOfUrn,
    ← coherent.casesOfRequirement_without, ← coherent.resultsOfCase_without]
  rfl

theorem Coherent.without (coherent : model.Coherent) : (model.without deleted).Coherent := by
  rw [coherent.without_eq]
  refine ⟨?_, ?_, coherent.cases.restrict, coherent.results.restrict, ?_, ?_⟩
  · intro id requirement found
    have kept : (model.requirements.filter fun id _ => !deleted (.requirement id))[id]? =
        some requirement := found
    rw [Std.ExtTreeMap.getElem?_filter', Option.filter_eq_some_iff] at kept
    exact coherent.requirement_keyed kept.1
  · intro urn id
    show (model.requirementsOfUrn.filterIds _).lists urn id ↔
      id ∈ (model.requirements.filter fun id _ => !deleted (.requirement id)) ∧ id.urn = urn
    rw [Index.lists_filterIds, mem_filter_requirements, coherent.requirement_located]
    exact and_right_comm
  · intro id verificationCase found reference member
    have restricted : (model.casesWithout deleted).entities[id]? = some verificationCase := found
    obtain ⟨kept, original, originalFound, originalMember⟩ :=
      Table.of_mem_references_restrict restricted member
    rw [Bool.and_eq_true] at kept
    exact mem_filter_requirements.mpr
      ⟨coherent.requirement_mem originalFound reference originalMember, kept.2⟩
  · intro id result found reference member
    have restricted : (model.resultsWithout deleted).entities[id]? = some result := found
    have kept := (Table.of_mem_references_restrict restricted member).1
    rw [Bool.and_eq_true, Std.ExtTreeMap.contains_iff_mem] at kept
    exact kept.2

/-! ### Keeping requirements -/

theorem Coherent.keepRequirements_congr (coherent : model.Coherent)
    {keep other : Identifier → Bool} (agree : ∀ id ∈ model.requirements, keep id = other id) :
    model.keepRequirements keep = model.keepRequirements other := by
  have sameRequirements : (model.requirements.filter fun id _ => keep id) =
      model.requirements.filter fun id _ => other id := by
    apply Std.ExtTreeMap.ext_getElem?
    intro id
    rw [Std.ExtTreeMap.getElem?_filter', Std.ExtTreeMap.getElem?_filter']
    by_cases present : id ∈ model.requirements
    · rw [agree id present]
    · rw [Std.ExtTreeMap.getElem?_eq_none present]
      rfl
  have sameIndex : model.requirementsOfUrn.filterIds keep =
      model.requirementsOfUrn.filterIds other := by
    apply Index.ext_lists
    · intro urn
      rw [Index.mem_filterIds, Index.mem_filterIds]
    · intro urn id
      rw [Index.lists_filterIds, Index.lists_filterIds, coherent.requirement_located]
      apply and_congr_right
      rintro ⟨present, _⟩
      rw [agree id present]
  rw [keepRequirements, sameRequirements, sameIndex, keepRequirements]

theorem keepRequirements_keepRequirements {keep other : Identifier → Bool} :
    (model.keepRequirements keep).keepRequirements other =
      model.keepRequirements fun id => keep id && other id := by
  have sameRequirements : ((model.requirements.filter fun id _ => keep id).filter fun id _ =>
      other id) = model.requirements.filter fun id _ => keep id && other id := by
    apply Std.ExtTreeMap.ext_getElem?
    intro id
    simp only [Std.ExtTreeMap.getElem?_filter', Option.filter_filter]
  have sameIndex : (model.requirementsOfUrn.filterIds keep).filterIds other =
      model.requirementsOfUrn.filterIds fun id => keep id && other id := by
    apply Index.ext_lists
    · intro urn
      rw [Index.mem_filterIds, Index.mem_filterIds, Index.mem_filterIds]
    · intro urn id
      rw [Index.lists_filterIds, Index.lists_filterIds, Index.lists_filterIds, and_assoc,
        Bool.and_eq_true]
  rw [keepRequirements, keepRequirements, keepRequirements, ← sameRequirements, ← sameIndex]
  rfl

theorem keepRequirements_eq_self {keep : Identifier → Bool} (all : ∀ id, keep id) :
    model.keepRequirements keep = model := by
  have sameRequirements : (model.requirements.filter fun id _ => keep id) = model.requirements := by
    apply Std.ExtTreeMap.ext_getElem?
    intro id
    rw [Std.ExtTreeMap.getElem?_filter', all id]
    cases model.requirements[id]? <;> rfl
  have sameIndex : model.requirementsOfUrn.filterIds keep = model.requirementsOfUrn := by
    apply Index.ext_lists
    · exact fun _ => Index.mem_filterIds
    · intro urn id
      rw [Index.lists_filterIds, and_iff_left (all id)]
  rw [keepRequirements, sameRequirements, sameIndex]
  rfl

theorem Coherent.keepRequirements_ne (coherent : model.Coherent) :
    (model.keepRequirements fun other => other ≠ id) =
      model.withRequirements (model.requirements.erase id)
        (model.requirementsOfUrn.remove id.urn id) := by
  have sameRequirements : (model.requirements.filter fun other _ => other ≠ id) =
      model.requirements.erase id := by
    apply Std.ExtTreeMap.ext_getElem?
    intro other
    rw [Std.ExtTreeMap.getElem?_filter', Std.ExtTreeMap.getElem?_erase]
    simp only [Std.LawfulEqOrd.compare_eq_iff_eq]
    split
    case isTrue same =>
      subst same
      simp
    case isFalse different =>
      have apart : other ≠ id := Ne.symm different
      rw [decide_eq_true apart]
      cases model.requirements[other]? <;> rfl
  have sameIndex : (model.requirementsOfUrn.filterIds fun other => other ≠ id) =
      model.requirementsOfUrn.remove id.urn id := by
    apply Index.ext_lists
    · intro urn
      rw [Index.mem_filterIds, Index.mem_remove]
    · intro urn other
      rw [Index.lists_filterIds, coherent.lists_remove_requirement, decide_eq_true_iff]
  rw [keepRequirements, sameRequirements, sameIndex]

/-! ### One deletion -/

/-- Where no result is deleted, the results that go do so with their cases. -/
theorem Coherent.without_eq_cascade (coherent : model.Coherent)
    (noResult : ∀ id, deleted (.manualResult id) = false) :
    model.without deleted =
      (model.keepRequirements fun id => !deleted (.requirement id)).cascade
        (model.casesWithout deleted) := by
  rw [coherent.without_eq, resultsWithout]
  simp only [noResult, Bool.not_false, Bool.true_and]
  rfl

theorem Coherent.delete_eq_without (coherent : model.Coherent) (deletion : Deletion) :
    model.delete deletion = model.without fun other => other = deletion := by
  cases deletion with
  | requirement id =>
      rw [delete, coherent.deleteRequirement_eq_restrict, ← coherent.keepRequirements_ne,
        coherent.without_eq_cascade (by simp), casesWithout]
      simp
  | verificationCase id =>
      rw [delete, coherent.deleteCase_eq_restrict, coherent.without_eq_cascade (by simp),
        keepRequirements_eq_self (by simp), casesWithout]
      simp
  | manualResult id =>
      have allCases : model.casesWithout (fun other => other = .manualResult id) =
          model.caseTable := coherent.cases.restrict_eq_self (by simp)
      have sameResults : model.resultsWithout (fun other => other = .manualResult id) =
          model.resultTable.restrict fun other _ => other ≠ id := by
        apply coherent.results.restrict_congr
        intro other result found reference member
        have present := coherent.case_mem found reference member
        have kept : model.caseTable.entities.contains reference = true :=
          Std.ExtTreeMap.contains_iff_mem.mpr present
        rw [allCases, kept]
        simp
      rw [delete, coherent.deleteResult_eq_restrict, coherent.without_eq,
        keepRequirements_eq_self (by simp), allCases, sameResults]
      rfl

theorem Coherent.delete (coherent : model.Coherent) (deletion : Deletion) :
    (model.delete deletion).Coherent := by
  rw [coherent.delete_eq_without]
  exact coherent.without

/-! ### Several deletions -/

/-- What is left depends only on the requirements that are there, and on which
cases and results are deleted. -/
theorem Coherent.without_congr (coherent : model.Coherent) {first second : Deletion → Bool}
    (requirements : ∀ id ∈ model.requirements,
      first (.requirement id) = second (.requirement id))
    (cases : ∀ id, first (.verificationCase id) = second (.verificationCase id))
    (results : ∀ id, first (.manualResult id) = second (.manualResult id)) :
    model.without first = model.without second := by
  have sameRequirements : (model.keepRequirements fun id => !first (.requirement id)) =
      model.keepRequirements fun id => !second (.requirement id) :=
    coherent.keepRequirements_congr fun id present => by rw [requirements id present]
  have sameCases : model.casesWithout first = model.casesWithout second := by
    apply coherent.cases.restrict_congr
    intro id verificationCase found reference member
    rw [cases id, requirements reference (coherent.requirement_mem found reference member)]
  have sameResults : model.resultsWithout first = model.resultsWithout second := by
    rw [resultsWithout, resultsWithout, sameCases]
    simp only [results]
  have closed : model.without second = _ := coherent.without_eq
  rw [closed, coherent.without_eq, sameRequirements, sameCases, sameResults]

/-- Deleting nothing leaves everything. -/
theorem Coherent.without_nothing (coherent : model.Coherent) :
    (model.without fun _ => false) = model := by
  have allCases : model.casesWithout (fun _ => false) = model.caseTable :=
    coherent.cases.restrict_eq_self (by simp)
  rw [coherent.without_eq_cascade (by simp), keepRequirements_eq_self (by simp), allCases]
  exact coherent.reported.cascade_eq fun _ member => member

theorem Coherent.caseTable_without (coherent : model.Coherent) :
    (model.without deleted).caseTable = model.casesWithout deleted := by
  rw [coherent.without_eq]
  rfl

theorem Coherent.resultTable_without (coherent : model.Coherent) :
    (model.without deleted).resultTable = model.resultsWithout deleted := by
  rw [coherent.without_eq]
  rfl

/-- What is left after two rounds was asked for in neither. -/
theorem Coherent.without_without (coherent : model.Coherent) {first second : Deletion → Bool} :
    (model.without first).without second =
      model.without fun deletion => first deletion || second deletion := by
  have sameRequirements : ((model.keepRequirements fun id =>
      !first (.requirement id)).keepRequirements fun id => !second (.requirement id)) =
        model.keepRequirements fun id =>
          !(first (.requirement id) || second (.requirement id)) := by
    rw [keepRequirements_keepRequirements]
    simp only [Bool.not_or]
  have sameCases : (model.without first).casesWithout second =
      model.casesWithout fun deletion => first deletion || second deletion := by
    rw [casesWithout, coherent.caseTable_without, casesWithout, Table.restrict_restrict,
      casesWithout]
    congr 1
    funext id reference
    grind
  have fewer (id : Identifier) (left : id ∈ (model.casesWithout fun deletion =>
      first deletion || second deletion).entities) : id ∈ (model.casesWithout first).entities := by
    rw [← sameCases, casesWithout, coherent.caseTable_without] at left
    exact Table.mem_of_mem_restrict left
  have sameResults : (model.without first).resultsWithout second =
      model.resultsWithout fun deletion => first deletion || second deletion := by
    rw [resultsWithout, coherent.resultTable_without, sameCases, resultsWithout,
      Table.restrict_restrict, resultsWithout]
    congr 1
    funext id reference
    have atReference := fewer reference
    rw [← Std.ExtTreeMap.contains_iff_mem, ← Std.ExtTreeMap.contains_iff_mem] at atReference
    grind
  have closed : model.without (fun deletion => first deletion || second deletion) = _ :=
    coherent.without_eq
  rw [closed, coherent.without.without_eq, sameCases, sameResults, ← sameRequirements,
    coherent.without_eq]
  rfl

theorem Coherent.deleteAll_eq (coherent : model.Coherent) (deletions : List Deletion) :
    model.deleteAll deletions = model.without deletions.contains := by
  unfold deleteAll
  induction deletions generalizing model with
  | nil => exact coherent.without_nothing.symm
  | cons head tail inductionHypothesis =>
      have sameDeletions : (fun deletion => decide (deletion = head) || tail.contains deletion) =
          (head :: tail).contains := by
        funext deletion
        rw [List.contains_cons]
        grind
      rw [List.foldl_cons, inductionHypothesis (coherent.delete head), coherent.delete_eq_without,
        coherent.without_without, sameDeletions]

end Model

end Traceability

import Traceability.Model.Deletion
import Traceability.Proofs.Model.Coherence
import Traceability.Proofs.Table.Removal

/-!
Contract: a single deletion as a restriction of the tables of a model.

The programs walk over what an index lists and update entities and indices one
after the other, so that in between a case may refer to a requirement that is
gone. What holds throughout is that the results report on cases that are there,
and this is enough to replace each walk over results by a restriction.

Owns: the three deletions of a coherent model in terms of its tables.
Does not own: what is left after several deletions.
-/

namespace Traceability

namespace Model

variable {model : Model} {id gone : Identifier}

/-! ### Deletions as operations on tables -/

theorem deleteResult_eq :
    model.deleteResult id = model.withResults (model.resultTable.erase id) := by
  unfold deleteResult
  cases found : model.results[id]? with
  | none =>
      have absent : model.resultTable.entities[id]? = none := found
      rw [Table.erase_of_absent absent]
      rfl
  | some result =>
      have present : model.resultTable.entities[id]? = some result := found
      rw [Table.erase_of_found present]
      rfl

theorem dropCaseFrom_eq :
    model.dropCaseFrom gone id = model.withResults (model.resultTable.dropReference gone id) := by
  unfold dropCaseFrom
  rcases Table.dropReference_cases gone model.resultTable id with
    ⟨absent, step⟩ | ⟨result, kept, found, retained, step⟩ | ⟨result, found, last, step⟩
  · rw [step, show model.results[id]? = none from absent]
    rfl
  · rw [step, show model.results[id]? = some result from found]
    simp only [show result.retain? (· ≠ gone) = some kept from retained]
    rfl
  · rw [step, show model.results[id]? = some result from found]
    simp only [show result.retain? (· ≠ gone) = none from last]
    rw [deleteResult_eq, Table.erase_of_found found]

theorem foldl_dropCaseFrom_eq (ids : List Identifier) :
    ids.foldl (dropCaseFrom gone) model =
      model.withResults (ids.foldl (Table.dropReference gone) model.resultTable) := by
  induction ids generalizing model with
  | nil => rfl
  | cons head tail inductionHypothesis =>
      rw [List.foldl_cons, dropCaseFrom_eq, inductionHypothesis]
      rfl

/-- Replaces the cases, and leaves the results on what is still there. -/
def cascade (model : Model) (table : Table VerificationCase) : Model :=
  (model.withCases table).withResults
    (model.resultTable.restrict fun _ reference => table.entities.contains reference)

/-- The results are coherent by themselves, and report on cases that are there.
This much of coherence is kept while requirements are being deleted. -/
structure Reported (model : Model) : Prop where
  coherent : model.resultTable.Coherent
  case_mem : ∀ {id : Identifier} {result : ManualResult},
    model.results[id]? = some result →
      ∀ reference ∈ result.cases.toList, reference ∈ model.cases

theorem Coherent.reported (coherent : model.Coherent) : model.Reported :=
  ⟨coherent.results, coherent.case_mem⟩

/-- Nothing is lost where all cases stay. -/
theorem Reported.cascade_eq (reported : model.Reported) {table : Table VerificationCase}
    (stay : ∀ id ∈ model.cases, id ∈ table.entities) :
    model.cascade table = model.withCases table := by
  have sameResults : (model.resultTable.restrict fun _ reference =>
      table.entities.contains reference) = model.resultTable := by
    apply reported.coherent.restrict_eq_self
    intro id result found reference member
    rw [Std.ExtTreeMap.contains_iff_mem]
    exact stay reference (reported.case_mem found reference member)
  rw [cascade, sameResults]
  rfl

theorem Reported.cascade (reported : model.Reported) {table : Table VerificationCase} :
    (model.cascade table).Reported where
  coherent := reported.coherent.restrict
  case_mem := by
    intro id result found reference member
    have restricted : (model.resultTable.restrict fun _ reference =>
        table.entities.contains reference).entities[id]? = some result := found
    exact Std.ExtTreeMap.contains_iff_mem.mp (Table.of_mem_references_restrict restricted member).1

/-- Of two replacements with ever fewer cases only the second counts. -/
theorem cascade_cascade {first second : Table VerificationCase}
    (fewer : ∀ id ∈ second.entities, id ∈ first.entities) :
    (model.cascade first).cascade second = model.cascade second := by
  have sameResults : ((model.resultTable.restrict fun _ reference =>
      first.entities.contains reference).restrict fun _ reference =>
        second.entities.contains reference) =
      model.resultTable.restrict fun _ reference => second.entities.contains reference := by
    rw [Table.restrict_restrict]
    congr 1
    funext _ reference
    rw [Bool.eq_iff_iff, Bool.and_eq_true, Std.ExtTreeMap.contains_iff_mem,
      Std.ExtTreeMap.contains_iff_mem]
    exact and_iff_right_of_imp (fewer reference)
  exact congrArg (model.withCases second).withResults sameResults

/-- Forgetting a case that goes leaves the results on the other cases. -/
theorem Reported.forget_eq_restrict (reported : model.Reported) :
    model.resultTable.forget id =
      model.resultTable.restrict fun _ reference => (model.cases.erase id).contains reference := by
  rw [reported.coherent.forget_eq_restrict]
  apply reported.coherent.restrict_congr
  intro other result found reference member
  have present : reference ∈ model.cases := reported.case_mem found reference member
  have kept : reference ∈ model.cases.erase id ↔ reference ≠ id := by
    rw [Std.ExtTreeMap.mem_erase, ne_eq, Std.LawfulEqOrd.compare_eq_iff_eq, and_iff_left present]
    exact ne_comm
  rw [Bool.eq_iff_iff, Std.ExtTreeMap.contains_iff_mem, kept, decide_eq_true_iff]

theorem Reported.deleteCase_eq (reported : model.Reported) :
    model.deleteCase id = model.cascade (model.caseTable.erase id) := by
  unfold deleteCase
  cases found : model.cases[id]? with
  | none =>
      have absent : model.caseTable.entities[id]? = none := found
      rw [Table.erase_of_absent absent, reported.cascade_eq fun _ member => member]
      rfl
  | some verificationCase =>
      have present : model.caseTable.entities[id]? = some verificationCase := found
      have sameResults : model.resultTable.forget id =
          model.resultTable.restrict fun _ reference =>
            (model.cases.erase id).contains reference := reported.forget_eq_restrict
      have afterwards := congrArg (model.withCases (model.caseTable.erase id)).withResults
        sameResults
      rw [Table.erase_of_found present] at afterwards ⊢
      simp only [foldl_dropCaseFrom_eq]
      exact afterwards

theorem Reported.dropRequirementFrom_eq (reported : model.Reported) :
    model.dropRequirementFrom gone id =
      model.cascade (model.caseTable.dropReference gone id) := by
  unfold dropRequirementFrom
  rcases Table.dropReference_cases gone model.caseTable id with
    ⟨absent, step⟩ | ⟨verificationCase, kept, found, retained, step⟩ |
      ⟨verificationCase, found, last, step⟩
  · rw [step, show model.cases[id]? = none from absent,
      reported.cascade_eq fun _ member => member]
    rfl
  · have stay : ∀ other ∈ model.cases, other ∈ model.cases.insert id kept := by
      intro other member
      exact Std.ExtTreeMap.mem_insert.mpr (Or.inr member)
    rw [step, show model.cases[id]? = some verificationCase from found, reported.cascade_eq stay]
    simp only [show verificationCase.retain? (· ≠ gone) = some kept from retained]
    rfl
  · rw [step, show model.cases[id]? = some verificationCase from found]
    simp only [show verificationCase.retain? (· ≠ gone) = none from last]
    rw [reported.deleteCase_eq, Table.erase_of_found found]

theorem Reported.foldl_dropRequirementFrom_eq (reported : model.Reported) (gone : Identifier)
    (ids : List Identifier) :
    ids.foldl (dropRequirementFrom gone) model =
      model.cascade (ids.foldl (Table.dropReference gone) model.caseTable) := by
  induction ids generalizing model with
  | nil =>
      have unchanged : model.cascade model.caseTable = model :=
        reported.cascade_eq fun _ member => member
      exact unchanged.symm
  | cons head tail inductionHypothesis =>
      have fewer := Table.mem_of_mem_foldl_dropReference gone tail
        (model.caseTable.dropReference gone head)
      rw [List.foldl_cons, reported.dropRequirementFrom_eq, inductionHypothesis reported.cascade]
      exact cascade_cascade fewer

/-! ### Deletions in a coherent model -/

theorem Coherent.deleteResult_eq_restrict (coherent : model.Coherent) :
    model.deleteResult id =
      model.withResults (model.resultTable.restrict fun other _ => other ≠ id) := by
  rw [deleteResult_eq, coherent.results.erase_eq_restrict]

theorem Coherent.deleteCase_eq_restrict (coherent : model.Coherent) :
    model.deleteCase id = model.cascade (model.caseTable.restrict fun other _ => other ≠ id) := by
  rw [coherent.reported.deleteCase_eq, coherent.cases.erase_eq_restrict]

/-- The index by urn without a requirement, which need not be there. -/
theorem Coherent.lists_remove_requirement (coherent : model.Coherent) {urn : String}
    {other : Identifier} :
    (model.requirementsOfUrn.remove id.urn id).lists urn other ↔
      model.requirementsOfUrn.lists urn other ∧ other ≠ id := by
  rw [Index.lists_remove, coherent.requirement_located]
  grind

/-- Taking out a requirement that is not there changes nothing. -/
theorem Coherent.withRequirements_of_absent (coherent : model.Coherent)
    (absent : id ∉ model.requirements) :
    model.withRequirements (model.requirements.erase id)
      (model.requirementsOfUrn.remove id.urn id) = model := by
  have sameRequirements : model.requirements.erase id = model.requirements := by
    apply Std.ExtTreeMap.ext_getElem?
    intro other
    rw [Std.ExtTreeMap.getElem?_erase]
    split
    case isTrue same =>
      obtain rfl := Std.LawfulEqOrd.eq_of_compare same
      exact (Std.ExtTreeMap.getElem?_eq_none absent).symm
    case isFalse => rfl
  have sameIndex : model.requirementsOfUrn.remove id.urn id = model.requirementsOfUrn := by
    apply Index.ext_lists
    · exact fun _ => Index.mem_remove
    · intro urn other
      rw [coherent.lists_remove_requirement, coherent.requirement_located]
      grind
  rw [sameRequirements, sameIndex]
  rfl

theorem Coherent.deleteRequirement_eq_restrict (coherent : model.Coherent) :
    model.deleteRequirement id =
      (model.withRequirements (model.requirements.erase id)
        (model.requirementsOfUrn.remove id.urn id)).cascade
          (model.caseTable.restrict fun _ reference => reference ≠ id) := by
  unfold deleteRequirement
  cases found : model.requirements[id]? with
  | some requirement =>
      let start := (model.withRequirements (model.requirements.erase id)
        (model.requirementsOfUrn.remove id.urn id)).withCases
          { model.caseTable with ofReference := model.casesOfRequirement.erase id }
      have reported : start.Reported := ⟨coherent.results, coherent.case_mem⟩
      have walked := reported.foldl_dropRequirementFrom_eq id
        ((model.casesOfRequirement[id]?).getD ∅).toList
      rw [← coherent.cases.forget_eq_restrict]
      exact walked
  | none =>
      have absent : id ∉ model.requirements := by
        simp [mem_iff_exists_getElem?, found]
      have allStay : (model.caseTable.restrict fun _ reference => reference ≠ id) =
          model.caseTable := by
        apply coherent.cases.restrict_eq_self
        intro other verificationCase otherFound reference member
        have present := coherent.requirement_mem otherFound reference member
        rw [decide_eq_true_iff]
        rintro rfl
        exact absent present
      have unchanged : model.cascade model.caseTable = model :=
        coherent.reported.cascade_eq fun _ member => member
      rw [coherent.withRequirements_of_absent absent, allStay, unchanged]

end Model

end Traceability

import Traceability.Model.Generation
import Traceability.Proofs.Collections
import Traceability.Proofs.ImportGraph.Cycle

/-!
Contract: why a module graph has no model.

Its imports are not accepted, or an identifier is taken. Narrowing never fails.

Owns: which errors there are.
Does not own: which of several errors is told.
-/

namespace Traceability

/-- The error tells of an identifier that is taken. -/
inductive GenerationError.IsDuplicate : GenerationError → Prop where
  | requirement (id : Identifier) : IsDuplicate (.duplicateRequirement id)
  | verificationCase (id : Identifier) : IsDuplicate (.duplicateCase id)
  | result (id : Identifier) : IsDuplicate (.duplicateResult id)

namespace Model

variable {model : Model} {failure : GenerationError}

theorem isDuplicate_of_mergeRequirement {requirement : Requirement}
    (failed : model.mergeRequirement requirement = .error failure) : failure.IsDuplicate := by
  unfold mergeRequirement at failed
  split at failed
  case isTrue =>
    cases failed
    exact .requirement _
  case isFalse => cases failed

theorem isDuplicate_of_mergeCase {visible : UrnSet} {verificationCase : VerificationCase}
    (failed : model.mergeCase visible verificationCase = .error failure) :
    failure.IsDuplicate := by
  unfold mergeCase at failed
  split at failed
  case isTrue =>
    cases failed
    exact .verificationCase _
  case isFalse => split at failed <;> cases failed

theorem isDuplicate_of_mergeResult {visible : UrnSet} {urn : String} {result : ManualResult}
    (failed : model.mergeResult visible urn result = .error failure) : failure.IsDuplicate := by
  unfold mergeResult at failed
  split at failed
  case isTrue =>
    cases failed
    exact .result _
  case isFalse => split at failed <;> cases failed

end Model

namespace ModuleGraph

variable [PatternEngine] {graph : ModuleGraph} {closure : UrnMap UrnSet} {visible : UrnSet}
  {model : Model} {failure : GenerationError}

theorem isDuplicate_of_mergeRequirements
    (failed : graph.mergeRequirements closure = .error failure) : failure.IsDuplicate := by
  obtain ⟨before, requirement, _, stepped⟩ := exists_step_of_foldlM_error failed
  exact Model.isDuplicate_of_mergeRequirement stepped

theorem isDuplicate_of_mergeCases (failed : graph.mergeCases visible model = .error failure) :
    failure.IsDuplicate := by
  obtain ⟨before, verificationCase, _, stepped⟩ := exists_step_of_foldlM_error failed
  exact Model.isDuplicate_of_mergeCase stepped

theorem isDuplicate_of_mergeResults (failed : graph.mergeResults visible model = .error failure) :
    failure.IsDuplicate := by
  obtain ⟨before, ⟨urn, module⟩, _, ofModule⟩ := exists_step_of_foldlM_error failed
  obtain ⟨before, result, _, stepped⟩ := exists_step_of_foldlM_error ofModule
  exact Model.isDuplicate_of_mergeResult stepped

/-- A graph whose imports are rejected has no model, for the same reason. -/
theorem generateBy_eq_error_of_checkImportsBy {algorithms : DigraphAlgorithms} {filter : Bool}
    (rejected : graph.checkImportsBy algorithms = .error failure) :
    graph.generateBy algorithms filter = .error failure := by
  rw [generateBy, mergeBy, rejected]
  rfl

/-- A graph that has no model has imports that are not accepted, or an
identifier is taken. -/
theorem checkImports_or_isDuplicate_of_generate {algorithms : DigraphAlgorithms} {filter : Bool}
    (failed : graph.generateBy algorithms filter = .error failure) :
    graph.checkImportsBy algorithms = .error failure ∨ failure.IsDuplicate := by
  have merging : graph.mergeBy algorithms = .error failure := by
    unfold generateBy at failed
    split at failed
    next other merging =>
      cases failed
      exact merging
    next => cases failed
  simp only [mergeBy, build, bind_eq_error_iff] at merging
  rcases merging with imports | ⟨closure, _, requirements | ⟨model, _, cases | ⟨model, _, results |
    ⟨_, _, annotations⟩⟩⟩⟩
  · exact Or.inl imports
  · exact Or.inr (isDuplicate_of_mergeRequirements requirements)
  · exact Or.inr (isDuplicate_of_mergeCases cases)
  · exact Or.inr (isDuplicate_of_mergeResults results)
  · cases annotations

/-- Lawful algorithms lead to the same model or to the same error. -/
theorem generateBy_eq {algorithms others : DigraphAlgorithms} {filter : Bool}
    (lawful : algorithms.Lawful) (othersLawful : others.Lawful) :
    graph.generateBy algorithms filter = graph.generateBy others filter := by
  rw [generateBy, generateBy, mergeBy_eq lawful othersLawful]

theorem exists_generateBy_eq_cyclicImports {algorithms : DigraphAlgorithms} {filter : Bool}
    {urn : String} (lawful : algorithms.Lawful) (rootMem : graph.root ∈ graph.modules)
    (known : graph.ImportsKnown) (reaches : graph.Reaches urn urn) :
    ∃ modules, graph.generateBy algorithms filter = .error (.cyclicImports modules) := by
  cases answer : graph.checkImportsBy algorithms with
  | ok closure =>
      obtain ⟨valid, -⟩ := (checkImportsBy_eq_ok_iff lawful).mp answer
      exact absurd reaches (valid.acyclic urn)
  | error failure =>
      obtain ⟨modules, -, rfl⟩ := (checkImportsBy_eq_error_iff lawful rootMem known).mp answer
      exact ⟨modules, generateBy_eq_error_of_checkImportsBy answer⟩

end ModuleGraph

end Traceability

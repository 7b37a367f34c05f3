import Traceability.Model.Merge
import Traceability.Proofs.Model.Coherence

/-!
Contract: a merged model is coherent.

Every entity is added with its index entries, under an identifier that was
free, and refers only to what was added before: all requirements come before
the cases, and all cases before the results. Nothing but the entities and their
indices changes until the annotations are added.

Owns: adding an entity to a coherent model, the coherence of what is merged, and
what merging leaves as it is.
Does not own: which entities are merged.
-/

namespace Traceability

namespace Model

variable {model : Model}

/-! ### Adding one entity -/

theorem Coherent.insertRequirement (coherent : model.Coherent) (requirement : Requirement) :
    (model.insertRequirement requirement).Coherent where
  requirement_keyed := by
    intro id stored found
    rw [Model.insertRequirement, Std.ExtTreeMap.getElem?_insert] at found
    split at found
    case isTrue same =>
      rw [← Option.some.inj found]
      exact Std.LawfulEqOrd.eq_of_compare same
    case isFalse => exact coherent.requirement_keyed found
  requirement_located := by
    intro urn id
    rw [Model.insertRequirement, Index.lists_add, coherent.requirement_located,
      Std.ExtTreeMap.mem_insert, Std.LawfulEqOrd.compare_eq_iff_eq]
    grind
  cases := coherent.cases
  results := coherent.results
  requirement_mem := by
    intro id verificationCase found reference member
    exact Std.ExtTreeMap.mem_insert.mpr
      (Or.inr (coherent.requirement_mem found reference member))
  case_mem := coherent.case_mem

theorem Coherent.insertCase (coherent : model.Coherent) {verificationCase : VerificationCase}
    (fresh : verificationCase.id ∉ model.cases)
    (resolved : ∀ reference ∈ verificationCase.requirements.toList,
      reference ∈ model.requirements) :
    (model.insertCase verificationCase).Coherent where
  requirement_keyed := coherent.requirement_keyed
  requirement_located := coherent.requirement_located
  cases := coherent.cases.insert fresh
  results := coherent.results
  requirement_mem := by
    intro id stored found
    have inserted : (model.caseTable.insert verificationCase).entities[id]? = some stored := found
    rw [Table.entities_insert] at inserted
    split at inserted
    case isTrue =>
      rw [← Option.some.inj inserted]
      exact resolved
    case isFalse => exact coherent.requirement_mem inserted
  case_mem := by
    intro id result found reference member
    exact Std.ExtTreeMap.mem_insert.mpr (Or.inr (coherent.case_mem found reference member))

theorem Coherent.insertResult (coherent : model.Coherent) {result : ManualResult}
    (fresh : result.id ∉ model.results)
    (resolved : ∀ reference ∈ result.cases.toList, reference ∈ model.cases) :
    (model.insertResult result).Coherent where
  requirement_keyed := coherent.requirement_keyed
  requirement_located := coherent.requirement_located
  cases := coherent.cases
  results := coherent.results.insert fresh
  requirement_mem := coherent.requirement_mem
  case_mem := by
    intro id stored found
    have inserted : (model.resultTable.insert result).entities[id]? = some stored := found
    rw [Table.entities_insert] at inserted
    split at inserted
    case isTrue =>
      rw [← Option.some.inj inserted]
      exact resolved
    case isFalse => exact coherent.case_mem inserted

/-! ### Merging one entity -/

theorem Coherent.mergeRequirement (coherent : model.Coherent) {requirement : Requirement}
    {merged : Model} (added : model.mergeRequirement requirement = .ok merged) :
    merged.Coherent := by
  unfold Model.mergeRequirement at added
  split at added
  · contradiction
  · cases added
    exact coherent.insertRequirement requirement

theorem Coherent.mergeCase (coherent : model.Coherent) {visible : UrnSet}
    {verificationCase : VerificationCase} {merged : Model}
    (added : model.mergeCase visible verificationCase = .ok merged) : merged.Coherent := by
  unfold Model.mergeCase at added
  split at added
  · contradiction
  case isFalse taken =>
    split at added
    · cases added
      exact coherent
    next kept retained =>
      cases added
      have sameId : kept.id = verificationCase.id := Referring.identifier_of_retain? retained
      apply coherent.insertCase
      · rwa [sameId, ← Std.ExtTreeMap.contains_iff_mem]
      · intro reference member
        have holds := ((Referring.mem_references_of_retain? retained).mp member).2
        rw [Bool.and_eq_true, Std.ExtTreeMap.contains_iff_mem] at holds
        exact holds.2

theorem Coherent.mergeResult (coherent : model.Coherent) {visible : UrnSet} {urn : String}
    {result : ManualResult} {merged : Model}
    (added : model.mergeResult visible urn result = .ok merged) : merged.Coherent := by
  unfold Model.mergeResult at added
  split at added
  · contradiction
  case isFalse taken =>
    split at added
    · cases added
      exact coherent
    next kept retained =>
      cases added
      have sameId : kept.id = result.id := Referring.identifier_of_retain? retained
      apply coherent.insertResult
      · rwa [sameId, ← Std.ExtTreeMap.contains_iff_mem]
      · intro reference member
        have holds := ((Referring.mem_references_of_retain? retained).mp member).2
        rw [Bool.and_eq_true, Std.ExtTreeMap.contains_iff_mem] at holds
        exact holds.2

/-! ### What merging one entity leaves as it is -/

/-- A model without its entities and their indices. -/
def rest (model : Model) : Model :=
  { model with
    requirements := ∅
    cases := ∅
    results := ∅
    requirementsOfUrn := ∅
    casesOfUrn := ∅
    casesOfRequirement := ∅
    resultsOfUrn := ∅
    resultsOfCase := ∅ }

theorem rest_of_mergeRequirement {requirement : Requirement} {merged : Model}
    (added : model.mergeRequirement requirement = .ok merged) : merged.rest = model.rest := by
  unfold Model.mergeRequirement at added
  split at added
  · contradiction
  · cases added
    rfl

theorem rest_of_mergeCase {visible : UrnSet} {verificationCase : VerificationCase}
    {merged : Model} (added : model.mergeCase visible verificationCase = .ok merged) :
    merged.rest = model.rest := by
  unfold Model.mergeCase at added
  split at added
  · contradiction
  · split at added <;> cases added <;> rfl

theorem rest_of_mergeResult {visible : UrnSet} {urn : String} {result : ManualResult}
    {merged : Model} (added : model.mergeResult visible urn result = .ok merged) :
    merged.rest = model.rest := by
  unfold Model.mergeResult at added
  split at added
  · contradiction
  · split at added <;> cases added <;> rfl

/-- What single steps leave as it is, a run of them does. -/
theorem rest_of_foldlM {α : Type} {step : Model → α → Except GenerationError Model}
    (keeps : ∀ {before after entry}, step before entry = .ok after → after.rest = before.rest)
    {entries : List α} {start finish : Model} (ran : entries.foldlM step start = .ok finish) :
    finish.rest = start.rest := by
  have preserved : ∀ {before after : Model} {entry : α}, before.rest = start.rest →
      step before entry = .ok after → after.rest = start.rest :=
    fun same stepped => (keeps stepped).trans same
  exact foldlM_preserves preserved rfl ran

end Model

namespace ModuleGraph

variable [PatternEngine] {graph : ModuleGraph} {closure : UrnMap UrnSet} {visible : UrnSet}
  {model merged : Model}

/-! ### Merging all entities -/

/-- Urns alone list nothing. -/
theorem lists_foldl_addKey (modules : List (String × Module)) (index : Index String)
    {urn : String} {id : Identifier} :
    (modules.foldl (fun index (urn, _) => index.addKey urn) index).lists urn id =
      index.lists urn id := by
  induction modules generalizing index with
  | nil => rfl
  | cons head tail inductionHypothesis =>
      rw [List.foldl_cons, inductionHypothesis, Index.lists_addKey]

theorem coherent_of_mergeRequirements (added : graph.mergeRequirements closure = .ok merged) :
    merged.Coherent := by
  refine foldlM_preserves (fun coherent => coherent.mergeRequirement) ?_ added
  refine ⟨by simp [Model.empty], ?_, Table.coherent_empty, Table.coherent_empty, ?_, ?_⟩
  · intro urn id
    rw [lists_foldl_addKey]
    simp [Model.empty]
  · simp [Model.empty]
  · simp [Model.empty]

theorem coherent_of_mergeCases (coherent : model.Coherent)
    (added : graph.mergeCases visible model = .ok merged) : merged.Coherent :=
  foldlM_preserves (fun coherent => coherent.mergeCase) coherent added

theorem coherent_of_mergeResults (coherent : model.Coherent)
    (added : graph.mergeResults visible model = .ok merged) : merged.Coherent :=
  foldlM_preserves
    (fun coherent ofModule => foldlM_preserves (fun coherent => coherent.mergeResult) coherent
      ofModule)
    coherent added

/-- The stages of a successful merge. -/
theorem stages_of_merge (merges : graph.merge = .ok merged) :
    ∃ closure ofRequirements ofCases ofResults,
      graph.checkImports = .ok closure ∧
      graph.mergeRequirements closure = .ok ofRequirements ∧
      graph.mergeCases (graph.visible closure) ofRequirements = .ok ofCases ∧
      graph.mergeResults (graph.visible closure) ofCases = .ok ofResults ∧
      merged = graph.mergeAnnotations ofResults := by
  simp only [merge, mergeBy, build, bind_eq_ok_iff] at merges
  obtain ⟨closure, checked, ofRequirements, requirements, ofCases, cases, ofResults, results,
    annotated⟩ := merges
  cases annotated
  exact ⟨closure, ofRequirements, ofCases, ofResults, checked, requirements, cases, results, rfl⟩

theorem coherent_of_merge (merges : graph.merge = .ok merged) : merged.Coherent := by
  obtain ⟨closure, ofRequirements, ofCases, ofResults, _, requirements, cases, results, rfl⟩ :=
    stages_of_merge merges
  have coherent := coherent_of_mergeResults
    (coherent_of_mergeCases (coherent_of_mergeRequirements requirements) cases) results
  exact { coherent with }

/-- Apart from entities, a merged model is made of the graph and its annotations. -/
theorem rest_of_merge (merges : graph.merge = .ok merged) :
    ∃ closure, graph.checkImports = .ok closure ∧
      merged.rest = graph.mergeAnnotations (Model.empty graph.root graph.order closure) := by
  obtain ⟨closure, ofRequirements, ofCases, ofResults, accepted, requirements, cases, results,
    rfl⟩ := stages_of_merge merges
  have same : ofResults.rest = Model.empty graph.root graph.order closure := calc
    ofResults.rest = ofCases.rest :=
      Model.rest_of_foldlM (Model.rest_of_foldlM Model.rest_of_mergeResult) results
    _ = ofRequirements.rest := Model.rest_of_foldlM Model.rest_of_mergeCase cases
    _ = Model.empty graph.root graph.order closure :=
      Model.rest_of_foldlM Model.rest_of_mergeRequirement requirements
  exact ⟨closure, accepted, congrArg graph.mergeAnnotations same⟩

end ModuleGraph

end Traceability

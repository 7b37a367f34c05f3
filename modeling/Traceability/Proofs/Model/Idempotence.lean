import Traceability.Proofs.Model.Origin

/-!
Contract: narrowing a model that has been narrowed.

Scopes are computed from the indices of a model, and these have shrunk. Still
the chain that once passed a requirement on is there, since chains depend on the
graph alone, and on none of the chains to a case that is left anybody blocks it.
So the first pass finds nothing to delete, and neither does the second.

Owns: when a pass deletes nothing, and what a second narrowing does.
Does not own: what the first one does.
-/

namespace Traceability

namespace Model

/-! ### Passes that delete nothing -/

/-- Nothing goes where none of what is there is deleted. -/
theorem Coherent.without_eq_self {model : Model} (coherent : model.Coherent)
    {deleted : Deletion → Bool}
    (requirements : ∀ id ∈ model.requirements, deleted (.requirement id) = false)
    (cases : ∀ id, deleted (.verificationCase id) = false)
    (results : ∀ id, deleted (.manualResult id) = false) : model.without deleted = model := by
  have asNothing : model.without deleted = model.without fun _ => false :=
    coherent.without_congr requirements cases results
  rw [asNothing, coherent.without_nothing]

variable [PatternEngine] {graph : ModuleGraph} {model : Model}

/-- The first pass deletes nothing where all requirements are passed on. -/
theorem Coherent.afterRequirements_eq_self (coherent : model.Coherent)
    (valid : graph.ValidImports)
    (permitted : ∀ id ∈ model.requirements, Pass.requirements.Permits graph id) :
    model.afterRequirements graph = model := by
  rw [Model.afterRequirements, coherent.narrowRequirements_eq]
  apply coherent.without_eq_self _ (fun _ => rfl) (fun _ => rfl)
  intro id present
  have kept : id ∈ (scopeOf .requirements graph model graph.importTree).kept :=
    (coherent.mem_kept_iff valid).mpr
      ⟨Std.ExtTreeMap.contains_iff_mem.mpr present, permitted id present⟩
  rw [deletesUnkept, Std.ExtTreeSet.contains_iff_mem.mpr kept, Bool.not_true]

/-- The second pass deletes nothing where no case is excluded. -/
theorem Coherent.without_filteredOut_eq_self (coherent : model.Coherent)
    (valid : graph.ValidImports)
    (free : ∀ id ∈ model.cases, ¬Pass.cases.Excludes graph id) :
    model.without (deletesFilteredOut (scopeOf .cases graph model graph.importTree).filteredOut) =
      model := by
  apply coherent.without_eq_self (fun _ _ => rfl) _ (fun _ => rfl)
  intro id
  rw [deletesFilteredOut, ← Bool.not_eq_true, Std.ExtTreeSet.contains_iff_mem,
    coherent.mem_filteredOut_iff valid]
  rintro ⟨present, excluded⟩
  exact free id (Std.ExtTreeMap.contains_iff_mem.mp present) excluded

/-! ### A second narrowing -/

theorem Coherent.permits_of_mem_narrow (coherent : model.Coherent) (valid : graph.ValidImports)
    {id : Identifier} (present : id ∈ (model.narrow graph).requirements) :
    Pass.requirements.Permits graph id := by
  obtain ⟨requirement, found⟩ := mem_iff_exists_getElem?.mp present
  rw [coherent.requirements_narrow, coherent.requirements_afterRequirements valid] at found
  exact found.2

theorem Coherent.not_excludes_of_mem_narrow (coherent : model.Coherent)
    (valid : graph.ValidImports) {id : Identifier} (present : id ∈ (model.narrow graph).cases) :
    ¬Pass.cases.Excludes graph id := by
  obtain ⟨kept, found⟩ := mem_iff_exists_getElem?.mp present
  exact ((coherent.cases_narrow valid).mp found).2

/-- A second narrowing deletes nothing, and goes through the same modules. -/
theorem Coherent.narrow_narrow (coherent : model.Coherent) (valid : graph.ValidImports) :
    (model.narrow graph).narrow graph =
      { model.narrow graph with warnings := ((model.narrow graph).narrow graph).warnings } := by
  have narrowed := coherent.narrow graph
  have firstPass : (model.narrow graph).afterRequirements graph = model.narrow graph :=
    narrowed.afterRequirements_eq_self valid fun _ => coherent.permits_of_mem_narrow valid
  have secondPass : (model.narrow graph).without
      (deletesFilteredOut ((model.narrow graph).caseScope graph).filteredOut) =
        model.narrow graph := by
    rw [caseScope, firstPass]
    exact narrowed.without_filteredOut_eq_self valid fun _ =>
      coherent.not_excludes_of_mem_narrow valid
  have again : (model.narrow graph).narrow graph = _ := narrowed.narrow_eq
  have sameVisited : graph.trace graph.root = (model.narrow graph).visited := visited_narrow.symm
  rw [firstPass, secondPass, sameVisited] at again
  rw [again]
  rfl

end Model

/-- Narrowing a filtered model once more leaves everything as it is but for the
warnings: the entities with their references, the five indices, annotations and
outcomes, and the modules that were gone through. -/
theorem ModuleGraph.narrow_of_filtered [PatternEngine] {graph : ModuleGraph} {model : Model}
    (filtered : graph.generate true = .ok model) :
    model.narrow graph = { model with warnings := (model.narrow graph).warnings } := by
  obtain ⟨merged, valid, coherent, _, rfl⟩ := filtered_of_generate filtered
  exact coherent.narrow_narrow valid

/-- The first narrowing drops the third requirement and its case, the second
nothing more. -/
theorem Sample.nothing_left_to_narrow :
    ∃ model, graph.generate true = .ok model ∧ third ∉ model.requirements ∧
      third ∉ model.cases ∧
      model.narrow graph = { model with warnings := (model.narrow graph).warnings } := by
  have evaluated : (graph.generate true).toOption.any fun model =>
      third ∉ model.requirements ∧ third ∉ model.cases := by decide +kernel
  obtain ⟨model, filtered, dropped⟩ := any_toOption_iff.mp evaluated
  rw [decide_eq_true_iff] at dropped
  exact ⟨model, filtered, dropped.1, dropped.2, ModuleGraph.narrow_of_filtered filtered⟩

end Traceability

import Traceability.Proofs.ImportGraph.Reordering
import Traceability.Proofs.Model.Visibility

/-!
Contract: the model does not depend on the order in which imports are listed.

Merging does not look at import lists at all, once they have been accepted.
Narrowing goes through the imports one after the other, but what they pass on
and what they filter out is put together in sets. The order shows only in the
two traces that narrowing leaves, the modules gone through and the warnings,
which hold the same in another order.

Owns: the outcomes for a graph and a reordered one, side by side.
Does not own: the order of the traces.
-/

namespace Traceability

/-! ### Scopes -/

/-- Two scopes with the same sets, and the same notes and warnings in some
order. -/
structure Scope.SameUpToOrder (left right : Scope) : Prop where
  kept_eq : left.kept = right.kept
  filteredOut_eq : left.filteredOut = right.filteredOut
  visited_perm : left.visited.Perm right.visited
  warnings_perm : left.warnings.Perm right.warnings

namespace ModuleGraph

variable [PatternEngine] {graph other : ModuleGraph} {model : Model} {pass : Pass}

theorem Reordered.rules_eq (reordered : graph.Reordered other) (urn : String) :
    pass.rules other urn = pass.rules graph urn := by
  cases pass <;> rw [Pass.rules, Pass.rules, reordered.modules_eq]

/-- What a module makes of its imports depends on their sets alone. -/
theorem Reordered.scopeAt_same (reordered : graph.Reordered other) {urn : String}
    {inherited otherInherited : Scope} (same : inherited.SameUpToOrder otherInherited) :
    (scopeAt pass graph model urn inherited).SameUpToOrder
      (scopeAt pass other model urn otherInherited) := by
  unfold scopeAt
  rw [reordered.rules_eq, same.kept_eq, same.filteredOut_eq]
  exact ⟨rfl, rfl, same.visited_perm.append_right _, same.warnings_perm.append_right _⟩

theorem Reordered.scopeOf_unfold_same (reordered : graph.Reordered other) (depth : Nat)
    (urn : String) :
    (scopeOf pass graph model (graph.unfold depth urn)).SameUpToOrder
      (scopeOf pass other model (other.unfold depth urn)) := by
  induction depth generalizing urn with
  | zero =>
      rw [unfold, unfold, scopeOf, scopeOf]
      exact reordered.scopeAt_same ⟨rfl, rfl, .refl _, .refl _⟩
  | succ depth inductionHypothesis =>
      have permuted := reordered.followedImports_perm urn
      rw [unfold, unfold, scopeOf, scopeOf]
      apply reordered.scopeAt_same
      constructor
      · apply Std.ExtTreeSet.ext_mem
        intro id
        simp only [mem_kept_scopeOfAll_iff, permuted.mem_iff, (inductionHypothesis _).kept_eq]
      · apply Std.ExtTreeSet.ext_mem
        intro id
        simp only [mem_filteredOut_scopeOfAll_iff, permuted.mem_iff,
          (inductionHypothesis _).filteredOut_eq]
      · rw [visited_scopeOfAll_map, visited_scopeOfAll_map]
        exact permuted.flatMap fun imported _ => (inductionHypothesis imported).visited_perm
      · rw [warnings_scopeOfAll_map, warnings_scopeOfAll_map]
        exact permuted.flatMap fun imported _ => (inductionHypothesis imported).warnings_perm

theorem Reordered.scopeOf_importTree_same (reordered : graph.Reordered other) :
    (scopeOf pass graph model graph.importTree).SameUpToOrder
      (scopeOf pass other model other.importTree) := by
  rw [importTree, importTree, reordered.modules_eq, reordered.root_eq]
  exact reordered.scopeOf_unfold_same graph.modules.size graph.root

end ModuleGraph

/-! ### Models -/

/-- Two models that differ at most in the order of their traces. -/
structure Model.SameUpToTraces (model other : Model) : Prop where
  otherwise_same : other = { model with visited := other.visited, warnings := other.warnings }
  visited_perm : model.visited.Perm other.visited
  warnings_perm : model.warnings.Perm other.warnings

namespace ModuleGraph

variable [PatternEngine] {graph other : ModuleGraph} {algorithms others : DigraphAlgorithms}

theorem Reordered.narrow_same (reordered : graph.Reordered other) (model : Model) :
    (model.narrow graph).SameUpToTraces (model.narrow other) := by
  have firstPass : (scopeOf .requirements graph model graph.importTree).SameUpToOrder
      (scopeOf .requirements other model other.importTree) := reordered.scopeOf_importTree_same
  have sameRequirements : model.afterRequirements other = model.afterRequirements graph :=
    Model.afterRequirements_congr firstPass.kept_eq.symm
  have secondPass : (model.caseScope graph).SameUpToOrder (model.caseScope other) := by
    rw [Model.caseScope, Model.caseScope, sameRequirements]
    exact reordered.scopeOf_importTree_same
  refine ⟨model.narrow_congr firstPass.kept_eq.symm ?_,
    firstPass.visited_perm.append secondPass.visited_perm,
    firstPass.warnings_perm.append secondPass.warnings_perm⟩
  rw [← sameRequirements]
  exact secondPass.filteredOut_eq.symm

/-- Merging is the same for both, or fails for both. -/
theorem Reordered.mergeBy_cases (reordered : graph.Reordered other)
    (lawful : algorithms.Lawful) (othersLawful : others.Lawful) :
    graph.mergeBy algorithms = other.mergeBy others ∨
    ∃ failure otherFailure, graph.mergeBy algorithms = .error failure ∧
      other.mergeBy others = .error otherFailure ∧ failure.SameKind otherFailure := by
  rcases reordered.checkImportsBy_cases lawful othersLawful with
    ⟨closure, accepted, otherAccepted⟩ | ⟨failure, otherFailure, rejected, otherRejected, sameKind⟩
  · left
    rw [mergeBy, accepted, mergeBy, otherAccepted, reordered.otherwise_same]
    rfl
  · right
    refine ⟨failure, otherFailure, ?_, ?_, sameKind⟩
    · rw [mergeBy, rejected]
      rfl
    · rw [mergeBy, otherRejected]
      rfl

/-- A graph and a reordered one have the same model but for the order of its
traces, or neither has one, for a reason of one kind. Neither the order of the
components nor the topological order has a part in it: they may be found by
different algorithms. -/
theorem generate_of_reordered (lawful : algorithms.Lawful) (othersLawful : others.Lawful)
    (reordered : graph.Reordered other) (filter : Bool) :
    (∃ model otherModel, graph.generateBy algorithms filter = .ok model ∧
      other.generateBy others filter = .ok otherModel ∧ model.SameUpToTraces otherModel) ∨
    ∃ failure otherFailure, graph.generateBy algorithms filter = .error failure ∧
      other.generateBy others filter = .error otherFailure ∧ failure.SameKind otherFailure := by
  rcases reordered.mergeBy_cases lawful othersLawful with
    sameMerge | ⟨failure, otherFailure, fails, otherFails, sameKind⟩
  · unfold generateBy
    rw [← sameMerge]
    cases graph.mergeBy algorithms with
    | error failure => exact Or.inr ⟨failure, failure, rfl, rfl, .same failure⟩
    | ok merged =>
        refine Or.inl ⟨_, _, rfl, rfl, ?_⟩
        cases filter with
        | false =>
            simp only [Bool.false_eq_true, if_false]
            exact ⟨rfl, .refl _, .refl _⟩
        | true =>
            simp only [if_true]
            exact reordered.narrow_same merged
  · right
    refine ⟨failure, otherFailure, ?_, ?_, sameKind⟩
    · rw [generateBy, fails]
    · rw [generateBy, otherFails]

end ModuleGraph

/-- The root imports the same modules in another order, and another order is
what the trace shows. -/
theorem Sample.reordered_trace :
    ∃ model otherModel, graph.generate true = .ok model ∧
      (graph.relist "root" ["right", "left"]).generate true = .ok otherModel ∧
      model.visited ≠ otherModel.visited ∧ model.SameUpToTraces otherModel := by
  have reordered : graph.Reordered (graph.relist "root" ["right", "left"]) :=
    ModuleGraph.reordered_relist
      (by decide +kernel : graph.importLists["root"]? = some ["left", "right"])
      (.swap "right" "left" [])
  have evaluated : (graph.generate true).toOption.any fun model =>
      ((graph.relist "root" ["right", "left"]).generate true).toOption.any fun otherModel =>
        model.visited ≠ otherModel.visited := by decide +kernel
  obtain ⟨model, generated, evaluated⟩ := any_toOption_iff.mp evaluated
  obtain ⟨otherModel, otherGenerated, apart⟩ := any_toOption_iff.mp evaluated
  have lawful := DigraphAlgorithms.lawful_byReach
  rcases ModuleGraph.generate_of_reordered lawful lawful reordered true with
    ⟨_, _, found, otherFound, same⟩ | ⟨_, _, fails, _⟩
  · obtain rfl := Except.ok.inj (generated.symm.trans found)
    obtain rfl := Except.ok.inj (otherGenerated.symm.trans otherFound)
    exact ⟨_, _, generated, otherGenerated, by simpa using apart, same⟩
  · cases generated.symm.trans fails

end Traceability

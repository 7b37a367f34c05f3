import Traceability.Proofs.Model.Narrowing

/-!
Contract: runs of deletions on a model.

Nothing is ever broken on the way, and where a run ends depends only on which
deletions were asked for, not on their order or on how often.

Owns: what every run preserves, and what it leaves.
Does not own: a single deletion.
-/

namespace Traceability

/-- Every model on the way from a coherent one is coherent. -/
theorem Model.Coherent.scanl_delete {model : Model} (coherent : model.Coherent)
    (deletions : List Deletion) :
    ∀ reached ∈ deletions.scanl Model.delete model, reached.Coherent := by
  induction deletions generalizing model with
  | nil =>
      intro reached member
      rw [List.scanl_nil, List.mem_singleton] at member
      rwa [member]
  | cons head tail inductionHypothesis =>
      intro reached member
      rw [List.scanl_cons, List.mem_cons] at member
      rcases member with rfl | later
      · exact coherent
      · exact inductionHypothesis (coherent.delete head) reached later

/-- From a generated model, filtered or not, no run of deletions of anything
ever reaches a model that is not coherent, so that nothing is found broken. -/
theorem ModuleGraph.consistent_of_run [PatternEngine] {graph : ModuleGraph} {filter : Bool}
    {model : Model} (generates : graph.generate filter = .ok model) (deletions : List Deletion) :
    ∀ reached ∈ deletions.scanl Model.delete model,
      reached.Coherent ∧ reached.inconsistencies = [] := by
  intro reached member
  have coherent := (coherent_of_generate generates).scanl_delete deletions reached member
  exact ⟨coherent, coherent.inconsistencies_eq_nil⟩

theorem Sample.consistent_on_the_way :
    ∃ model, graph.generate true = .ok model ∧
      ∀ reached ∈ [.requirement third, .requirement first, .verificationCase second,
          .manualResult first].scanl Model.delete model,
        reached.Coherent ∧ reached.inconsistencies = [] := by
  obtain ⟨model, generates⟩ := generates true
  exact ⟨model, generates, ModuleGraph.consistent_of_run generates _⟩

/-- What a run leaves is what none of its deletions takes away. The indices by
urn keep their keys, those by reference have the keys that are still referred
to, and every run of the same deletions leaves the same. -/
theorem Model.Coherent.determined_by_deletions {model : Model} (coherent : model.Coherent)
    (deletions : List Deletion) :
    model.deleteAll deletions = model.without deletions.contains ∧
    (∀ urn, urn ∈ (model.deleteAll deletions).requirementsOfUrn ↔
      urn ∈ model.requirementsOfUrn) ∧
    (∀ urn, urn ∈ (model.deleteAll deletions).casesOfUrn ↔ urn ∈ model.casesOfUrn) ∧
    (∀ urn, urn ∈ (model.deleteAll deletions).resultsOfUrn ↔ urn ∈ model.resultsOfUrn) ∧
    (∀ reference, reference ∈ (model.deleteAll deletions).casesOfRequirement ↔
      ∃ (id : Identifier) (verificationCase : VerificationCase),
        (model.deleteAll deletions).cases[id]? = some verificationCase ∧
          reference ∈ verificationCase.requirements.toList) ∧
    (∀ reference, reference ∈ (model.deleteAll deletions).resultsOfCase ↔
      ∃ (id : Identifier) (result : ManualResult),
        (model.deleteAll deletions).results[id]? = some result ∧
          reference ∈ result.cases.toList) ∧
    ∀ same : List Deletion, (∀ deletion, deletion ∈ same ↔ deletion ∈ deletions) →
      model.deleteAll same = model.deleteAll deletions := by
  have left : (model.without deletions.contains).Coherent := coherent.without
  rw [coherent.deleteAll_eq]
  refine ⟨rfl, fun _ => Index.mem_filterIds, fun _ => Index.mem_filterIds,
    fun _ => Index.mem_filterIds, fun _ => left.cases.mem_ofReference_iff,
    fun _ => left.results.mem_ofReference_iff, ?_⟩
  intro same sameMembers
  have sameDeletions : same.contains = deletions.contains := by
    funext deletion
    rw [Bool.eq_iff_iff, List.contains_iff_mem, List.contains_iff_mem]
    exact sameMembers deletion
  rw [coherent.deleteAll_eq, sameDeletions]

theorem Sample.same_after_repeated_deletions :
    ∃ model, graph.generate false = .ok model ∧ model.Coherent ∧
      model.deleteAll [.requirement third, .verificationCase second] =
        model.without [.requirement third, .verificationCase second].contains ∧
      model.deleteAll [.verificationCase second, .requirement third, .verificationCase second] =
        model.deleteAll [.requirement third, .verificationCase second] := by
  obtain ⟨model, generates⟩ := generates false
  have coherent := ModuleGraph.coherent_of_generate generates
  obtain ⟨closed, _, _, _, _, _, same⟩ := coherent.determined_by_deletions
    [.requirement third, .verificationCase second]
  exact ⟨model, generates, coherent, closed, same _ (by simp [or_comm, or_left_comm])⟩

end Traceability

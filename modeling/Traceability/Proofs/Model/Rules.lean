import Traceability.Proofs.Model.Warnings

/-!
Contract: graphs whose modules have other rules.

Merging does not look at rules, and narrowing asks a rule about nothing but the
entities that the imports of its module pass on. So wherever the other rules
decide the same about these, the narrowed models are the same but for their
warnings.

Owns: changing the rules of a graph, and when that changes the model.
Does not own: which changes decide the same.
-/

namespace Traceability

variable [PatternEngine]

/-- The module with its rules changed, each by its pass and its target. -/
def Module.mapRules (change : Pass → String → FilterRule → FilterRule) (module : Module) :
    Module :=
  { module with
    filters := module.filters.map (change .requirements)
    caseDocument := module.caseDocument.map fun document =>
      { document with filters := document.filters.map (change .cases) } }

/-- The model that a pass narrows. -/
def Pass.start (graph : ModuleGraph) (merged : Model) : Pass → Model
  | .requirements => merged
  | .cases => merged.afterRequirements graph

namespace ModuleGraph

/-- The graph with the rules of its modules changed. -/
def mapRules (graph : ModuleGraph) (change : String → Pass → String → FilterRule → FilterRule) :
    ModuleGraph :=
  { graph with modules := graph.modules.map fun urn => Module.mapRules (change urn) }

variable {graph : ModuleGraph} {change : String → Pass → String → FilterRule → FilterRule}
  {pass : Pass} {model : Model} {urn target : String} {id : Identifier}

theorem getElem?_modules_mapRules :
    (graph.mapRules change).modules[urn]? =
      (graph.modules[urn]?).map (Module.mapRules (change urn)) :=
  Std.ExtTreeMap.getElem?_map

theorem rules_mapRules :
    pass.rules (graph.mapRules change) urn = (pass.rules graph urn).map (change urn pass) := by
  unfold Pass.rules
  rw [getElem?_modules_mapRules]
  cases graph.modules[urn]? with
  | none => cases pass <;> simp
  | some module =>
      cases pass with
      | requirements => rfl
      | cases =>
          simp only [Option.map_some, Option.elim_some, Module.caseFilters, Module.mapRules]
          cases module.caseDocument <;> simp

/-! ### What stays -/

theorem isMicroservice_mapRules :
    (graph.mapRules change).isMicroservice urn = graph.isMicroservice urn := by
  rw [isMicroservice, getElem?_modules_mapRules, Option.any_map]
  rfl

theorem followedImports_mapRules :
    (graph.mapRules change).followedImports urn = graph.followedImports urn := by
  simp only [followedImports, isMicroservice_mapRules]
  rfl

theorem unfold_mapRules (depth : Nat) (urn : String) :
    (graph.mapRules change).unfold depth urn = graph.unfold depth urn := by
  induction depth generalizing urn with
  | zero => rfl
  | succ depth inductionHypothesis =>
      rw [unfold, unfold, followedImports_mapRules, funext inductionHypothesis]

theorem importTree_mapRules : (graph.mapRules change).importTree = graph.importTree := by
  have sameSize : (graph.mapRules change).modules.size = graph.modules.size :=
    Std.ExtTreeMap.size_map
  rw [importTree, unfold_mapRules, sameSize]
  rfl

theorem toList_modules_mapRules :
    (graph.mapRules change).modules.toList =
      graph.modules.toList.map fun (urn, module) => (urn, module.mapRules (change urn)) :=
  Std.ExtTreeMap.toList_map

theorem moduleList_mapRules :
    (graph.mapRules change).moduleList =
      graph.modules.toList.map fun (urn, module) => module.mapRules (change urn) := by
  rw [moduleList, values_eq_map_snd_toList, toList_modules_mapRules, List.map_map]
  rfl

theorem digraph_mapRules : (graph.mapRules change).digraph = graph.digraph := by
  have sameKeys : (graph.mapRules change).modules.keys = graph.modules.keys :=
    Std.ExtTreeMap.keys_map
  rw [digraph, sameKeys]
  rfl

theorem contains_mapRules :
    (graph.mapRules change).modules.contains urn = graph.modules.contains urn :=
  Std.ExtTreeMap.contains_map

theorem checkImportsBy_mapRules {algorithms : DigraphAlgorithms} :
    (graph.mapRules change).checkImportsBy algorithms = graph.checkImportsBy algorithms := by
  simp only [checkImportsBy, unknownImport?, contains_mapRules, digraph_mapRules]
  rfl

theorem contributing_mapRules :
    (graph.mapRules change).contributing =
      graph.contributing.map fun (urn, module) => (urn, module.mapRules (change urn)) := by
  rw [contributing, toList_modules_mapRules, List.filter_map]
  rfl

theorem visible_mapRules (closure : UrnMap UrnSet) :
    (graph.mapRules change).visible closure = graph.visible closure := by
  simp only [visible, isMicroservice_mapRules]
  rfl

theorem cases_mapRules (change : Pass → String → FilterRule → FilterRule) (module : Module) :
    (module.mapRules change).cases = module.cases := by
  unfold Module.cases Module.mapRules
  cases module.caseDocument <;> rfl

theorem mergeRequirements_mapRules (closure : UrnMap UrnSet) :
    (graph.mapRules change).mergeRequirements closure = graph.mergeRequirements closure := by
  rw [mergeRequirements, contributing_mapRules, List.foldl_map, List.flatMap_map]
  rfl

theorem mergeCases_mapRules (visible : UrnSet) (model : Model) :
    (graph.mapRules change).mergeCases visible model = graph.mergeCases visible model := by
  rw [mergeCases, moduleList_mapRules, List.flatMap_map, mergeCases, moduleList,
    values_eq_map_snd_toList, List.flatMap_map]
  simp only [cases_mapRules]

theorem mergeResults_mapRules (visible : UrnSet) (model : Model) :
    (graph.mapRules change).mergeResults visible model = graph.mergeResults visible model := by
  rw [mergeResults, toList_modules_mapRules, List.foldlM_map]
  rfl

theorem mergeAnnotations_mapRules (model : Model) :
    (graph.mapRules change).mergeAnnotations model = graph.mergeAnnotations model := by
  rw [mergeAnnotations, moduleList_mapRules, toList_modules_mapRules, List.flatMap_map,
    List.flatMap_map, List.flatMap_map, mergeAnnotations, moduleList, values_eq_map_snd_toList,
    List.flatMap_map, List.flatMap_map]
  rfl

/-- Rules have no part in merging. -/
theorem merge_mapRules : (graph.mapRules change).merge = graph.merge := by
  simp only [merge, mergeBy, build, checkImportsBy_mapRules, visible_mapRules,
    mergeRequirements_mapRules, mergeCases_mapRules, mergeResults_mapRules,
    mergeAnnotations_mapRules]

/-! ### What rules are asked about -/

/-- The changed rules decide the same about what they are asked in a pass. -/
def DecidesSame (graph : ModuleGraph)
    (change : String → Pass → String → FilterRule → FilterRule) (pass : Pass) (model : Model) :
    Prop :=
  ∀ urn target rule, (pass.rules graph urn)[target]? = some rule →
    ∀ id ∈ graph.inherited pass model urn target,
      (change urn pass target rule).filtersOut target id = rule.filtersOut target id

theorem DecidesSame.blocks_eq (same : graph.DecidesSame change pass model)
    (passedOn : id ∈
      (scopeOfAll pass graph model ((graph.followedImports urn).map graph.tree)).kept) :
    pass.blocks (graph.mapRules change) urn id = pass.blocks graph urn id := by
  unfold Pass.blocks
  rw [rules_mapRules, Std.ExtTreeMap.getElem?_map, Option.any_map]
  cases found : (pass.rules graph urn)[id.urn]? with
  | none => rfl
  | some rule =>
      have asked : id ∈ graph.inherited pass model urn id.urn :=
        mem_candidates_iff.mpr ⟨passedOn, rfl⟩
      exact same urn id.urn rule found id asked

/-- Then every module keeps the same and filters out the same. -/
theorem DecidesSame.scopeOf_tree_same (same : graph.DecidesSame change pass model)
    (valid : graph.ValidImports) (urn : String) :
    (scopeOf pass (graph.mapRules change) model (graph.tree urn)).kept =
        (scopeOf pass graph model (graph.tree urn)).kept ∧
      (scopeOf pass (graph.mapRules change) model (graph.tree urn)).filteredOut =
        (scopeOf pass graph model (graph.tree urn)).filteredOut := by
  apply valid.induction (motive := fun urn =>
    (scopeOf pass (graph.mapRules change) model (graph.tree urn)).kept =
        (scopeOf pass graph model (graph.tree urn)).kept ∧
      (scopeOf pass (graph.mapRules change) model (graph.tree urn)).filteredOut =
        (scopeOf pass graph model (graph.tree urn)).filteredOut)
  intro urn ofImports
  let trees := (graph.followedImports urn).map graph.tree
  have sameKept (id : Identifier) :
      id ∈ (scopeOfAll pass (graph.mapRules change) model trees).kept ↔
        id ∈ (scopeOfAll pass graph model trees).kept := by
    rw [mem_kept_scopeOfAll_iff, mem_kept_scopeOfAll_iff]
    exact exists_congr fun imported => and_congr_right fun follows => by
      rw [(ofImports imported follows).1]
  have sameFilteredOut (id : Identifier) :
      id ∈ (scopeOfAll pass (graph.mapRules change) model trees).filteredOut ↔
        id ∈ (scopeOfAll pass graph model trees).filteredOut := by
    rw [mem_filteredOut_scopeOfAll_iff, mem_filteredOut_scopeOfAll_iff]
    exact exists_congr fun imported => and_congr_right fun follows => by
      rw [(ofImports imported follows).2]
  rw [valid.tree_eq, scopeOf, scopeOf]
  constructor
  · apply Std.ExtTreeSet.ext_mem
    intro id
    rw [mem_kept_scopeAt_iff, mem_kept_scopeAt_iff, sameKept]
    apply or_congr_left
    apply and_congr_right
    intro passedOn
    rw [same.blocks_eq passedOn]
  · apply Std.ExtTreeSet.ext_mem
    intro id
    rw [mem_filteredOut_scopeAt_iff, mem_filteredOut_scopeAt_iff, sameKept, sameFilteredOut]
    apply or_congr_left
    apply and_congr_right
    intro passedOn
    rw [same.blocks_eq passedOn]

/-- Rules that decide the same in both passes narrow a model to the same. -/
theorem narrow_mapRules (valid : graph.ValidImports)
    (sameRequirements : graph.DecidesSame change .requirements model)
    (sameCases : graph.DecidesSame change .cases (model.afterRequirements graph)) :
    model.narrow (graph.mapRules change) =
      { model.narrow graph with warnings := (model.narrow (graph.mapRules change)).warnings } := by
  have sameTree : (graph.mapRules change).importTree = graph.tree graph.root :=
    importTree_mapRules
  have sameKept : (scopeOf .requirements (graph.mapRules change) model
      (graph.mapRules change).importTree).kept =
        (scopeOf .requirements graph model graph.importTree).kept := by
    rw [sameTree, (sameRequirements.scopeOf_tree_same valid graph.root).1, importTree_eq_tree]
  have sameFilteredOut : (scopeOf .cases (graph.mapRules change) (model.afterRequirements graph)
      (graph.mapRules change).importTree).filteredOut = (model.caseScope graph).filteredOut := by
    rw [sameTree, (sameCases.scopeOf_tree_same valid graph.root).2, Model.caseScope,
      importTree_eq_tree]
  have narrows := Model.narrow_congr sameKept sameFilteredOut
  have sameVisited : (model.narrow (graph.mapRules change)).visited =
      (model.narrow graph).visited := by
    rw [visited_narrow, visited_narrow]
    exact congrArg ImportTree.postorder sameTree
  rw [sameVisited] at narrows
  exact narrows

/-- A graph with rules that decide the same has the same filtered model, but for
the warnings. -/
theorem generate_mapRules {merged narrowed : Model} (unfiltered : graph.generate false = .ok merged)
    (filtered : graph.generate true = .ok narrowed)
    (same : ∀ pass, graph.DecidesSame change pass (pass.start graph merged)) :
    ∃ again, (graph.mapRules change).generate true = .ok again ∧
      again = { narrowed with warnings := again.warnings } := by
  obtain ⟨valid, _, rfl⟩ := narrow_of_generate unfiltered filtered
  obtain ⟨_, merges, rfl⟩ := generate_eq_ok_iff.mp unfiltered
  refine ⟨merged.narrow (graph.mapRules change), ?_, ?_⟩
  · exact generate_eq_ok_iff.mpr ⟨merged, merge_mapRules.trans merges, rfl⟩
  · exact narrow_mapRules valid (same .requirements) (same .cases)

end ModuleGraph

end Traceability

import Traceability.Model.Scope
import Traceability.Proofs.ImportGraph.Unfolding
import Traceability.Proofs.Model.Coherence

/-!
Contract: scopes in terms of chains of imports.

A module passes an entity on if some chain leads from it to the module in the
entity's identifier on which nobody blocks the entity, and an entity is
filtered out if somebody blocks it on some chain. Which of several blocking
modules is asked does not matter: below the last one on a chain the entity is
still passed on.

Owns: the two sets of a scope and its trace, for each module and for the root.
Does not own: what is done with them.
-/

namespace Traceability

/-! ### What a module starts from -/

theorem mem_candidates_iff {id : Identifier} {target : String} {kept : IdentifierSet} :
    id ∈ candidates kept target ↔ id ∈ kept ∧ id.urn = target := by
  simp [candidates, Std.ExtTreeSet.mem_filter]

theorem Model.Coherent.mem_own_iff {model : Model} (coherent : model.Coherent) {pass : Pass}
    {urn : String} {id : Identifier} :
    id ∈ pass.own model urn ↔ pass.isPresent model id ∧ id.urn = urn := by
  cases pass with
  | requirements =>
      rw [Pass.own, Index.mem_getD_iff, coherent.requirement_located, Pass.isPresent,
        Std.ExtTreeMap.contains_iff_mem]
  | cases =>
      rw [Pass.own, Index.mem_getD_iff, Pass.isPresent, Std.ExtTreeMap.contains_iff_mem]
      exact coherent.cases.located urn id

variable [PatternEngine]

/-- Whether a rule of the module for the urn of an entity filters it out. -/
def Pass.blocks (pass : Pass) (graph : ModuleGraph) (urn : String) (id : Identifier) : Bool :=
  ((pass.rules graph urn)[id.urn]?).any fun rule => rule.filtersOut id.urn id

variable {pass : Pass} {graph : ModuleGraph} {model : Model} {urn : String} {id : Identifier}

/-! ### One module -/

theorem mem_ruleFiltersOut_iff {target : String} {rule : FilterRule} {kept : IdentifierSet} :
    id ∈ ruleFiltersOut pass model target rule (candidates kept target) ↔
      id ∈ kept ∧ id.urn = target ∧ pass.isPresent model id ∧ rule.filtersOut target id := by
  simp [ruleFiltersOut, Std.ExtTreeSet.mem_filter, mem_candidates_iff]
  grind

theorem mem_foldl_rules_iff (rules : List (String × FilterRule)) {kept start : IdentifierSet} :
    id ∈ rules.foldl (fun out (target, rule) =>
        out ∪ ruleFiltersOut pass model target rule (candidates kept target)) start ↔
      id ∈ start ∨ ∃ target rule, (target, rule) ∈ rules ∧
        id ∈ ruleFiltersOut pass model target rule (candidates kept target) := by
  induction rules generalizing start with
  | nil => simp
  | cons head tail inductionHypothesis =>
      rw [List.foldl_cons, inductionHypothesis, Std.ExtTreeSet.mem_union_iff, or_assoc]
      simp only [List.mem_cons, or_and_right, exists_or]
      grind

/-- Of all the rules of a module only that for the urn of an entity counts. -/
theorem mem_rulesFilterOut_iff {kept : IdentifierSet} :
    id ∈ (pass.rules graph urn).toList.foldl (fun out (target, rule) =>
        out ∪ ruleFiltersOut pass model target rule (candidates kept target)) ∅ ↔
      id ∈ kept ∧ pass.isPresent model id ∧ pass.blocks graph urn id := by
  rw [mem_foldl_rules_iff]
  simp only [Std.ExtTreeSet.not_mem_empty, false_or, mem_ruleFiltersOut_iff,
    Std.ExtTreeMap.mem_toList_iff_getElem?_eq_some]
  unfold Pass.blocks
  rw [Option.any_eq_true]
  constructor
  · rintro ⟨target, rule, found, member, rfl, present, filtered⟩
    exact ⟨member, present, rule, found, filtered⟩
  · rintro ⟨member, present, rule, found, filtered⟩
    exact ⟨id.urn, rule, found, member, rfl, present, filtered⟩

theorem mem_kept_scopeAt_iff {inherited : Scope} :
    id ∈ (scopeAt pass graph model urn inherited).kept ↔
      (id ∈ inherited.kept ∧ ¬(pass.isPresent model id ∧ pass.blocks graph urn id)) ∨
        id ∈ pass.own model urn := by
  simp only [scopeAt, Std.ExtTreeSet.mem_union_iff, Std.ExtTreeSet.mem_diff_iff,
    mem_rulesFilterOut_iff]
  grind

theorem mem_filteredOut_scopeAt_iff {inherited : Scope} :
    id ∈ (scopeAt pass graph model urn inherited).filteredOut ↔
      (id ∈ inherited.kept ∧ pass.isPresent model id ∧ pass.blocks graph urn id) ∨
        id ∈ inherited.filteredOut := by
  simp only [scopeAt, Std.ExtTreeSet.mem_union_iff, mem_rulesFilterOut_iff]

/-! ### The trace -/

mutual

/-- A walk notes the modules of a tree in postorder, if it notes any. -/
theorem visited_scopeOf : (tree : ImportTree) →
    (scopeOf pass graph model tree).visited = tree.postorder.flatMap fun urn => pass.note urn
  | .node urn imports => by
      rw [scopeOf, scopeAt, ImportTree.postorder, List.flatMap_append, visited_scopeOfAll imports,
        List.flatMap_singleton]

theorem visited_scopeOfAll : (trees : List ImportTree) →
    (scopeOfAll pass graph model trees).visited =
      (ImportTree.postorderAll trees).flatMap fun urn => pass.note urn
  | [] => rfl
  | head :: tail => by
      rw [scopeOfAll, Scope.union, ImportTree.postorderAll, List.flatMap_append,
        visited_scopeOf head, visited_scopeOfAll tail]

end

/-- Only the walk for requirements leaves a trace of a narrowed model, and the
root ends it. -/
theorem visited_narrow : (model.narrow graph).visited = graph.trace graph.root := by
  have second (narrowed : Model) :
      (scopeOf .cases graph narrowed graph.importTree).visited = [] := by
    rw [visited_scopeOf, List.flatMap_eq_nil_iff]
    exact fun _ _ => rfl
  have first : (scopeOf .requirements graph model graph.importTree).visited =
      graph.trace graph.root := by
    rw [visited_scopeOf]
    exact List.flatMap_singleton' _
  rw [Model.narrow, second, List.append_nil, first]

/-! ### Several imports -/

variable {imports : List String} {tree : String → ImportTree}

theorem mem_kept_scopeOfAll_iff :
    id ∈ (scopeOfAll pass graph model (imports.map tree)).kept ↔
      ∃ imported ∈ imports, id ∈ (scopeOf pass graph model (tree imported)).kept := by
  induction imports with
  | nil => simp [scopeOfAll, Scope.empty]
  | cons head tail inductionHypothesis =>
      simp only [List.map_cons, scopeOfAll, Scope.union, Std.ExtTreeSet.mem_union_iff,
        inductionHypothesis, List.mem_cons, exists_eq_or_imp]

theorem mem_filteredOut_scopeOfAll_iff :
    id ∈ (scopeOfAll pass graph model (imports.map tree)).filteredOut ↔
      ∃ imported ∈ imports, id ∈ (scopeOf pass graph model (tree imported)).filteredOut := by
  induction imports with
  | nil => simp [scopeOfAll, Scope.empty]
  | cons head tail inductionHypothesis =>
      simp only [List.map_cons, scopeOfAll, Scope.union, Std.ExtTreeSet.mem_union_iff,
        inductionHypothesis, List.mem_cons, exists_eq_or_imp]

theorem visited_scopeOfAll_map :
    (scopeOfAll pass graph model (imports.map tree)).visited =
      imports.flatMap fun imported => (scopeOf pass graph model (tree imported)).visited := by
  induction imports with
  | nil => rfl
  | cons head tail inductionHypothesis =>
      rw [List.map_cons, scopeOfAll, Scope.union, inductionHypothesis, List.flatMap_cons]

theorem warnings_scopeOfAll_map :
    (scopeOfAll pass graph model (imports.map tree)).warnings =
      imports.flatMap fun imported => (scopeOf pass graph model (tree imported)).warnings := by
  induction imports with
  | nil => rfl
  | cons head tail inductionHypothesis =>
      rw [List.map_cons, scopeOfAll, Scope.union, inductionHypothesis, List.flatMap_cons]

/-! ### Unfolded imports -/

/-- An entity is passed on if it is there and nobody blocks it on some chain
within the depth to which imports are unfolded. -/
theorem Model.Coherent.mem_kept_unfold_iff (coherent : model.Coherent) (depth : Nat) :
    id ∈ (scopeOf pass graph model (graph.unfold depth urn)).kept ↔
      pass.isPresent model id ∧ ∃ importers, graph.FollowedChain urn importers id.urn ∧
        importers.length ≤ depth ∧
          ∀ importer ∈ importers, pass.blocks graph importer id = false := by
  induction depth generalizing urn with
  | zero =>
      have noImports : id ∉ (scopeOfAll pass graph model []).kept := by
        simp [scopeOfAll, Scope.empty]
      rw [ModuleGraph.unfold, scopeOf, mem_kept_scopeAt_iff, coherent.mem_own_iff]
      constructor
      · rintro (⟨inherited, _⟩ | ⟨present, own⟩)
        · contradiction
        · exact ⟨present, [], own ▸ .here, by simp, by simp⟩
      · rintro ⟨present, importers, chain, short, _⟩
        cases chain with
        | here => exact Or.inr ⟨present, rfl⟩
        | step => simp at short
  | succ depth inductionHypothesis =>
      rw [ModuleGraph.unfold, scopeOf, mem_kept_scopeAt_iff, coherent.mem_own_iff,
        mem_kept_scopeOfAll_iff]
      simp only [inductionHypothesis]
      constructor
      · rintro (⟨⟨imported, follows, present, rest, chain, short, free⟩, unblocked⟩ |
          ⟨present, own⟩)
        · refine ⟨present, urn :: rest, ?_, ?_, ?_⟩
          · exact ModuleGraph.followedChain_iff.mpr (Or.inr ⟨imported, follows, rest, rfl, chain⟩)
          · simpa using short
          · intro importer member
            rcases List.mem_cons.mp member with rfl | later
            · simpa [present] using unblocked
            · exact free importer later
        · exact ⟨present, [], own ▸ .here, by simp, by simp⟩
      · rintro ⟨present, importers, chain, short, free⟩
        rcases ModuleGraph.followedChain_iff.mp chain with
          ⟨rfl, own⟩ | ⟨imported, follows, rest, rfl, remaining⟩
        · exact Or.inr ⟨present, own.symm⟩
        · rw [List.length_cons] at short
          have unblocked := free urn (by simp)
          refine Or.inl ⟨⟨imported, follows, present, rest, remaining, by omega, ?_⟩, ?_⟩
          · exact fun importer later => free importer (List.mem_cons_of_mem _ later)
          · simp [unblocked]

/-- An entity is filtered out if it is there and somebody blocks it on some
chain within that depth. -/
theorem Model.Coherent.mem_filteredOut_unfold_iff (coherent : model.Coherent) (depth : Nat) :
    id ∈ (scopeOf pass graph model (graph.unfold depth urn)).filteredOut ↔
      pass.isPresent model id ∧ ∃ importers, graph.FollowedChain urn importers id.urn ∧
        importers.length ≤ depth ∧ ∃ importer ∈ importers, pass.blocks graph importer id := by
  induction depth generalizing urn with
  | zero =>
      have noneKept : id ∉ (scopeOfAll pass graph model []).kept := by
        simp [scopeOfAll, Scope.empty]
      have noneOut : id ∉ (scopeOfAll pass graph model []).filteredOut := by
        simp [scopeOfAll, Scope.empty]
      rw [ModuleGraph.unfold, scopeOf, mem_filteredOut_scopeAt_iff]
      constructor
      · rintro (⟨inherited, _⟩ | inherited)
        · contradiction
        · contradiction
      · rintro ⟨_, importers, _, short, importer, member, _⟩
        rw [List.eq_nil_of_length_eq_zero (Nat.le_zero.mp short)] at member
        contradiction
  | succ depth inductionHypothesis =>
      rw [ModuleGraph.unfold, scopeOf, mem_filteredOut_scopeAt_iff, mem_kept_scopeOfAll_iff,
        mem_filteredOut_scopeOfAll_iff]
      simp only [inductionHypothesis, coherent.mem_kept_unfold_iff depth]
      constructor
      · rintro (⟨⟨imported, follows, _, rest, chain, short, _⟩, present, blocked⟩ |
          ⟨imported, follows, present, rest, chain, short, importer, member, blocked⟩)
        · have longer := ModuleGraph.followedChain_iff.mpr
            (Or.inr ⟨imported, follows, rest, rfl, chain⟩)
          exact ⟨present, urn :: rest, longer, by simpa using short, urn, by simp, blocked⟩
        · have longer := ModuleGraph.followedChain_iff.mpr
            (Or.inr ⟨imported, follows, rest, rfl, chain⟩)
          exact ⟨present, urn :: rest, longer, by simpa using short, importer,
            List.mem_cons_of_mem _ member, blocked⟩
      · rintro ⟨present, importers, chain, short, importer, member, blocked⟩
        rcases ModuleGraph.followedChain_iff.mp chain with
          ⟨rfl, _⟩ | ⟨imported, follows, rest, rfl, remaining⟩
        · contradiction
        · rw [List.length_cons] at short
          -- The last module that blocks is the first one itself, or comes later.
          by_cases later : ∃ importer ∈ rest, pass.blocks graph importer id
          · exact Or.inr ⟨imported, follows, present, rest, remaining, by omega, later⟩
          · rcases List.mem_cons.mp member with rfl | inRest
            · refine Or.inl ⟨⟨imported, follows, present, rest, remaining, by omega, ?_⟩,
                present, blocked⟩
              intro other otherMember
              rw [Bool.eq_false_iff]
              exact fun blocks => later ⟨other, otherMember, blocks⟩
            · exact absurd ⟨importer, inRest, blocked⟩ later

/-! ### Trees -/

theorem Model.Coherent.mem_kept_tree_iff (coherent : model.Coherent)
    (valid : graph.ValidImports) :
    id ∈ (scopeOf pass graph model (graph.tree urn)).kept ↔
      pass.isPresent model id ∧ ∃ importers, graph.FollowedChain urn importers id.urn ∧
        ∀ importer ∈ importers, pass.blocks graph importer id = false := by
  rw [ModuleGraph.tree, coherent.mem_kept_unfold_iff]
  constructor
  · rintro ⟨present, importers, chain, _, free⟩
    exact ⟨present, importers, chain, free⟩
  · rintro ⟨present, importers, chain, free⟩
    exact ⟨present, importers, chain, chain.length_le valid, free⟩

theorem Model.Coherent.mem_kept_iff (coherent : model.Coherent) (valid : graph.ValidImports) :
    id ∈ (scopeOf pass graph model graph.importTree).kept ↔
      pass.isPresent model id ∧ ∃ importers, graph.FollowedChain graph.root importers id.urn ∧
        ∀ importer ∈ importers, pass.blocks graph importer id = false :=
  coherent.mem_kept_tree_iff valid

theorem Model.Coherent.mem_filteredOut_iff (coherent : model.Coherent)
    (valid : graph.ValidImports) :
    id ∈ (scopeOf pass graph model graph.importTree).filteredOut ↔
      pass.isPresent model id ∧ ∃ importers, graph.FollowedChain graph.root importers id.urn ∧
        ∃ importer ∈ importers, pass.blocks graph importer id := by
  rw [ModuleGraph.importTree, coherent.mem_filteredOut_unfold_iff]
  constructor
  · rintro ⟨present, importers, chain, _, blocked⟩
    exact ⟨present, importers, chain, blocked⟩
  · rintro ⟨present, importers, chain, blocked⟩
    exact ⟨present, importers, chain, chain.length_le valid, blocked⟩

end Traceability

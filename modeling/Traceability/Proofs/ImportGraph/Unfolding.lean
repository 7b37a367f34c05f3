import Traceability.Proofs.ImportGraph.Chain

/-!
Contract: imports unfolded as far as they go.

Imports are unfolded to a depth, and where no module reaches itself this depth
is never used up. So every module has one tree, whatever the depth it is met
at, and the tree of a module is the module above the trees of the imports that
are followed from it. What holds of a module as soon as it holds of these
imports holds of all modules.

Owns: the tree of a module, its trace, and induction along imports.
Does not own: what is computed over a tree.
-/

namespace Traceability

namespace ImportTree

mutual

/-- The urns of a tree, those of the imports before that of the importer. -/
def postorder : ImportTree → List String
  | .node urn imports => postorderAll imports ++ [urn]

def postorderAll : List ImportTree → List String
  | [] => []
  | head :: tail => postorder head ++ postorderAll tail

end

theorem postorderAll_map {imports : List String} {tree : String → ImportTree} :
    postorderAll (imports.map tree) =
      imports.flatMap fun imported => (tree imported).postorder := by
  induction imports with
  | nil => rfl
  | cons head tail inductionHypothesis =>
      rw [List.map_cons, postorderAll, inductionHypothesis, List.flatMap_cons]

end ImportTree

namespace ModuleGraph

variable [PatternEngine] {graph : ModuleGraph} {urn imported : String} {depth other : Nat}

/-- No chain that starts at the module has more than `depth` imports. -/
def EndsWithin (graph : ModuleGraph) (depth : Nat) (urn : String) : Prop :=
  ∀ importers last, graph.FollowedChain urn importers last → importers.length ≤ depth

theorem ValidImports.endsWithin (valid : graph.ValidImports) (urn : String) :
    graph.EndsWithin graph.modules.size urn :=
  fun _ _ chain => chain.length_le valid

theorem EndsWithin.succ (ends : graph.EndsWithin depth urn) : graph.EndsWithin (depth + 1) urn :=
  fun importers last chain => Nat.le_succ_of_le (ends importers last chain)

/-- Every import uses up one step. -/
theorem EndsWithin.of_followed (ends : graph.EndsWithin (depth + 1) urn)
    (follows : imported ∈ graph.followedImports urn) : graph.EndsWithin depth imported := by
  intro importers last chain
  have longer : graph.FollowedChain urn (urn :: importers) last :=
    followedChain_cons_iff.mpr ⟨imported, follows, chain⟩
  have bound := ends _ _ longer
  rw [List.length_cons] at bound
  omega

theorem EndsWithin.followedImports_eq_nil (ends : graph.EndsWithin 0 urn) :
    graph.followedImports urn = [] := by
  rw [List.eq_nil_iff_forall_not_mem]
  intro imported follows
  have chain : graph.FollowedChain urn [urn] imported :=
    followedChain_cons_iff.mpr ⟨imported, follows, .here⟩
  have bound := ends _ _ chain
  rw [List.length_singleton] at bound
  omega

/-- What holds of a module if it holds of the imports that are followed from it
holds of all modules. -/
theorem ValidImports.induction {motive : String → Prop} (valid : graph.ValidImports)
    (step : ∀ urn, (∀ imported ∈ graph.followedImports urn, motive imported) → motive urn)
    (urn : String) : motive urn := by
  have within (depth : Nat) : ∀ urn, graph.EndsWithin depth urn → motive urn := by
    induction depth with
    | zero =>
        intro urn ends
        apply step
        intro imported follows
        rw [ends.followedImports_eq_nil] at follows
        contradiction
    | succ depth inductionHypothesis =>
        intro urn ends
        apply step
        intro imported follows
        exact inductionHypothesis imported (ends.of_followed follows)
  exact within graph.modules.size urn (valid.endsWithin urn)

/-! ### Trees -/

theorem EndsWithin.unfold_eq (ends : graph.EndsWithin depth urn)
    (alsoEnds : graph.EndsWithin other urn) : graph.unfold depth urn = graph.unfold other urn := by
  induction depth generalizing other urn with
  | zero =>
      have noImports := ends.followedImports_eq_nil
      cases other with
      | zero => rfl
      | succ other => rw [unfold, unfold, noImports, List.map_nil]
  | succ depth inductionHypothesis =>
      cases other with
      | zero => rw [unfold, unfold, alsoEnds.followedImports_eq_nil, List.map_nil]
      | succ other =>
          rw [unfold, unfold]
          congr 1
          apply List.map_congr_left
          intro imported follows
          exact inductionHypothesis (ends.of_followed follows) (alsoEnds.of_followed follows)

/-- The tree of the imports that are followed from a module. -/
def tree (graph : ModuleGraph) (urn : String) : ImportTree :=
  graph.unfold graph.modules.size urn

theorem importTree_eq_tree : graph.importTree = graph.tree graph.root := rfl

theorem ValidImports.tree_eq (valid : graph.ValidImports) (urn : String) :
    graph.tree urn = .node urn ((graph.followedImports urn).map graph.tree) := by
  have ends := valid.endsWithin urn
  have oneDeeper : graph.tree urn = graph.unfold (graph.modules.size + 1) urn :=
    ends.unfold_eq ends.succ
  rw [oneDeeper, unfold]
  rfl

/-! ### Traces -/

/-- The modules that are gone through from a module on, itself last. -/
def trace (graph : ModuleGraph) (urn : String) : List String := (graph.tree urn).postorder

/-- The trace of a module is that of its imports one after the other, and then
the module. -/
theorem ValidImports.trace_eq (valid : graph.ValidImports) (urn : String) :
    graph.trace urn = (graph.followedImports urn).flatMap graph.trace ++ [urn] := by
  rw [trace, valid.tree_eq, ImportTree.postorder, ImportTree.postorderAll_map]
  rfl

end ModuleGraph

end Traceability

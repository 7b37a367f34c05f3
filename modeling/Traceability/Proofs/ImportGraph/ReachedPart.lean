import Traceability.Proofs.Definition
import Traceability.Proofs.ImportGraph.Chain

/-!
Contract: the part of a graph that the root reaches.

The root is in its own reach, and what a module in reach imports is in reach as
well. Leaving out all other modules, with their documents and their imports,
therefore changes nothing that is seen from a module in reach: neither what it
holds nor what it imports, and so no chain that starts there.

Owns: the part in reach, and the documents and chains it shares with the graph.
Does not own: what is merged from either.
-/

namespace Traceability.ModuleGraph

variable [PatternEngine]

/-- Whether a module is the root or one that the root reaches. -/
def isReached (graph : ModuleGraph) (urn : String) : Bool :=
  urn = graph.root || (accessibleFrom graph.accessible graph.root).contains urn

/-- The graph without the modules out of reach, their documents and their
imports. -/
def reachedPart (graph : ModuleGraph) : ModuleGraph where
  root := graph.root
  order := graph.order.filter graph.isReached
  modules := graph.modules.filter fun urn _ => graph.isReached urn
  importLists := graph.importLists.filter fun urn _ => graph.isReached urn

variable {graph : ModuleGraph} {first last urn : String} {importers : List String}

theorem isReached_iff :
    graph.isReached urn ↔ urn = graph.root ∨ graph.Reaches graph.root urn := by
  rw [isReached, Bool.or_eq_true, decide_eq_true_iff, Std.ExtTreeSet.contains_iff_mem,
    mem_accessible_iff]

theorem isReached_root : graph.isReached graph.root := by
  simp [isReached]

theorem isReached_of_reaches (reached : graph.isReached first)
    (reaches : graph.Reaches first urn) : graph.isReached urn := by
  rw [isReached_iff] at reached ⊢
  rcases reached with rfl | fromRoot
  · exact Or.inr reaches
  · exact Or.inr (fromRoot.trans reaches)

/-! ### Modules -/

theorem getElem?_modules_reachedPart :
    graph.reachedPart.modules[urn]? = if graph.isReached urn then graph.modules[urn]? else none :=
  getElem?_filter_key

theorem isMicroservice_reachedPart (reached : graph.isReached urn) :
    graph.reachedPart.isMicroservice urn = graph.isMicroservice urn := by
  rw [isMicroservice, getElem?_modules_reachedPart, if_pos reached, isMicroservice]

/-- The documents of the part are those of the modules in reach. -/
theorem definedAt?_reachedPart_iff {ε : Type} {documents : Module → IdentifierMap ε}
    {place : Place} {entity : ε} :
    graph.reachedPart.definedAt? documents place = some entity ↔
      graph.isReached place.urn ∧ graph.definedAt? documents place = some entity := by
  rw [definedAt?, getElem?_modules_reachedPart, definedAt?]
  cases graph.isReached place.urn <;> simp

/-! ### Imports -/

theorem imports_reachedPart_iff {imported : String} :
    graph.reachedPart.Imports urn imported ↔ graph.isReached urn ∧ graph.Imports urn imported := by
  rw [Imports, Imports, imports, imports, reachedPart, getElem?_filter_key]
  cases graph.isReached urn <;> simp

theorem reaches_of_reachedPart (reaches : graph.reachedPart.Reaches first last) :
    graph.Reaches first last := by
  induction reaches with
  | single imports => exact .single (imports_reachedPart_iff.mp imports).2
  | tail _ imports inductionHypothesis =>
      exact .tail inductionHypothesis (imports_reachedPart_iff.mp imports).2

theorem reaches_reachedPart_iff (reached : graph.isReached first) :
    graph.reachedPart.Reaches first last ↔ graph.Reaches first last := by
  constructor
  · exact reaches_of_reachedPart
  · intro reaches
    induction reaches with
    | single imports => exact .single (imports_reachedPart_iff.mpr ⟨reached, imports⟩)
    | tail reaches imports inductionHypothesis =>
        have between := isReached_of_reaches reached reaches
        exact .tail inductionHypothesis (imports_reachedPart_iff.mpr ⟨between, imports⟩)

theorem mem_modules_reachedPart_iff :
    urn ∈ graph.reachedPart.modules ↔ graph.isReached urn ∧ urn ∈ graph.modules := by
  rw [Std.ExtTreeMap.mem_iff_isSome_getElem?, getElem?_modules_reachedPart,
    Std.ExtTreeMap.mem_iff_isSome_getElem?]
  cases graph.isReached urn <;> simp

theorem ValidImports.reachedPart (valid : graph.ValidImports) :
    graph.reachedPart.ValidImports where
  root_mem := mem_modules_reachedPart_iff.mpr ⟨isReached_root, valid.root_mem⟩
  known := by
    intro importer imported imports
    obtain ⟨reached, imports⟩ := imports_reachedPart_iff.mp imports
    have next := isReached_of_reaches reached (.single imports)
    obtain ⟨importerMem, importedMem⟩ := valid.known importer imported imports
    exact ⟨mem_modules_reachedPart_iff.mpr ⟨reached, importerMem⟩,
      mem_modules_reachedPart_iff.mpr ⟨next, importedMem⟩⟩
  acyclic := fun urn reaches => valid.acyclic urn (reaches_of_reachedPart reaches)

/-- The modules on a chain are in reach if the first one is. -/
theorem FollowedChain.isReached (chain : graph.FollowedChain first importers last)
    (reached : graph.isReached first) : ∀ urn ∈ importers ++ [last], graph.isReached urn := by
  intro urn member
  rcases chain.eq_or_reaches urn member with rfl | reaches
  · exact reached
  · exact isReached_of_reaches reached reaches

/-- A module in reach starts the same chains in the part as in the graph. -/
theorem followedChain_reachedPart_iff (reached : graph.isReached first) :
    graph.reachedPart.FollowedChain first importers last ↔
      graph.FollowedChain first importers last := by
  constructor
  · intro chain
    induction chain with
    | here => exact .here
    | step imports follows _ inductionHypothesis =>
        have direct := (imports_reachedPart_iff.mp imports).2
        have next := isReached_of_reaches reached (.single direct)
        exact .step direct (isMicroservice_reachedPart next ▸ follows) (inductionHypothesis next)
  · intro chain
    induction chain with
    | here => exact .here
    | step imports follows _ inductionHypothesis =>
        have next := isReached_of_reaches reached (.single imports)
        exact .step (imports_reachedPart_iff.mpr ⟨reached, imports⟩)
          ((isMicroservice_reachedPart next).trans follows) (inductionHypothesis next)

end Traceability.ModuleGraph

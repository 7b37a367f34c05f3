import Mathlib.Data.List.Perm.Basic
import Traceability.Proofs.Collections
import Traceability.Proofs.ImportGraph.Cycle

/-!
Contract: graphs that differ only in the order in which modules list their
imports.

Who imports whom is the same in both, but the edges of their directed graphs are
in different orders, and so may be the components and the topological orders that
are found for them. What modules reach does not depend on that, and neither does
the first cycle. Only where an import is unknown, another one of the same module
may be found first.

Owns: reordered graphs, their closures and checks, and the imports that are
followed in them.
Does not own: what is passed on along the imports.
-/

namespace Traceability

/-- Maps with the same keys list them in the same order. -/
theorem keys_eq_of_mem_iff {κ α β : Type} {cmp : κ → κ → Ordering} [Std.TransCmp cmp]
    [Std.LawfulEqCmp cmp] {left : Std.ExtTreeMap κ α cmp} {right : Std.ExtTreeMap κ β cmp}
    (sameKeys : ∀ key, key ∈ left ↔ key ∈ right) : left.keys = right.keys := by
  have permuted : left.keys.Perm right.keys := by
    rw [List.perm_ext_iff_of_nodup Std.ExtTreeMap.nodup_keys Std.ExtTreeMap.nodup_keys]
    intro key
    rw [Std.ExtTreeMap.mem_keys, Std.ExtTreeMap.mem_keys]
    exact sameKeys key
  apply permuted.eq_of_pairwise _ Std.ExtTreeMap.ordered_keys Std.ExtTreeMap.ordered_keys
  intro first second _ _ less more
  exact absurd more (Std.OrientedCmp.not_lt_of_lt less)

/-- Errors that differ at most in which unknown import of a module they name. -/
inductive GenerationError.SameKind : GenerationError → GenerationError → Prop where
  | same (failure : GenerationError) : SameKind failure failure
  | unknownImport (module imported other : String) :
      SameKind (.unknownImport module imported) (.unknownImport module other)

namespace ModuleGraph

/-- The first list with an entry to be found is the same where lists are
permuted. -/
theorem map_fst_findSome?_find? (wanted : String → String → Bool)
    {first second : String → List String} (permuted : ∀ urn, (first urn).Perm (second urn))
    (urns : List String) :
    (urns.findSome? fun urn => ((first urn).find? (wanted urn)).map (urn, ·)).map Prod.fst =
      (urns.findSome? fun urn => ((second urn).find? (wanted urn)).map (urn, ·)).map Prod.fst := by
  induction urns with
  | nil => rfl
  | cons head tail inductionHypothesis =>
      have both : ((first head).find? (wanted head)).isSome =
          ((second head).find? (wanted head)).isSome := by
        rw [List.isSome_find?, List.isSome_find?, (permuted head).any_eq]
      rw [List.findSome?_cons, List.findSome?_cons]
      cases inFirst : (first head).find? (wanted head) with
      | none =>
          cases inSecond : (second head).find? (wanted head) with
          | none => exact inductionHypothesis
          | some _ => simp [inFirst, inSecond] at both
      | some _ =>
          cases inSecond : (second head).find? (wanted head) with
          | none => simp [inFirst, inSecond] at both
          | some _ => rfl

variable [PatternEngine]

/-- The other graph has the same modules, each of which lists the same imports
as often, in any order. -/
structure Reordered (graph other : ModuleGraph) : Prop where
  otherwise_same : other = { graph with importLists := other.importLists }
  mem_importLists_iff : ∀ urn, urn ∈ graph.importLists ↔ urn ∈ other.importLists
  imports_perm : ∀ urn, (graph.imports urn).Perm (other.imports urn)

/-- The graph where a module lists other imports. -/
def relist (graph : ModuleGraph) (urn : String) (names : List String) : ModuleGraph :=
  { graph with importLists := graph.importLists.insert urn names }

variable {graph other : ModuleGraph} {algorithms others : DigraphAlgorithms} {urn : String}

theorem reordered_relist {names others : List String}
    (listed : graph.importLists[urn]? = some names) (permuted : names.Perm others) :
    graph.Reordered (graph.relist urn others) where
  otherwise_same := rfl
  mem_importLists_iff := by
    intro importer
    rw [relist, Std.ExtTreeMap.mem_insert, Std.LawfulEqOrd.compare_eq_iff_eq]
    have present : urn ∈ graph.importLists := mem_iff_exists_getElem?.mpr ⟨names, listed⟩
    grind
  imports_perm := by
    intro importer
    rw [relist, imports, imports, Std.ExtTreeMap.getElem?_insert]
    split
    case isTrue same =>
      obtain rfl := Std.LawfulEqOrd.eq_of_compare same
      rw [listed]
      exact permuted
    case isFalse => exact .refl _

theorem Reordered.root_eq (reordered : graph.Reordered other) : other.root = graph.root := by
  rw [reordered.otherwise_same]

theorem Reordered.modules_eq (reordered : graph.Reordered other) :
    other.modules = graph.modules := by
  rw [reordered.otherwise_same]

theorem Reordered.isMicroservice_eq (reordered : graph.Reordered other) :
    other.isMicroservice urn = graph.isMicroservice urn := by
  rw [isMicroservice, reordered.modules_eq, isMicroservice]

/-! ### Checks -/

theorem Reordered.imports_iff (reordered : graph.Reordered other) {importer imported : String} :
    other.Imports importer imported ↔ graph.Imports importer imported :=
  (reordered.imports_perm importer).symm.mem_iff

theorem Reordered.reaches_eq (reordered : graph.Reordered other) :
    other.Reaches = graph.Reaches := by
  have sameImports : other.Imports = graph.Imports := by
    funext importer imported
    exact propext reordered.imports_iff
  rw [Reaches, Reaches, sameImports]

theorem Reordered.importsKnown_iff (reordered : graph.Reordered other) :
    other.ImportsKnown ↔ graph.ImportsKnown := by
  simp only [ImportsKnown, reordered.imports_iff, reordered.modules_eq]

/-- The edges of both directed graphs may be in different orders, and so may be
what is gathered along them, but as sets they are what modules reach. -/
theorem Reordered.accessible_eq (reordered : graph.Reordered other)
    (known : graph.ImportsKnown) : other.accessible = graph.accessible := by
  have sameNodes (urn : String) : urn ∈ other.digraph.nodes ↔ urn ∈ graph.digraph.nodes := by
    rw [mem_nodes_digraph_iff known, mem_nodes_digraph_iff (reordered.importsKnown_iff.mpr known),
      reordered.modules_eq]
  have otherClosure : graph.digraph.IsClosure graph.digraph.nodes other.accessible := by
    constructor
    · intro urn
      rw [accessible, Digraph.isClosure_reach.mem_iff, sameNodes]
    · intro urn _ target
      rw [mem_accessible_iff, leads_digraph, reordered.reaches_eq]
  exact otherClosure.ext Digraph.isClosure_reach

theorem Reordered.validImports_iff (reordered : graph.Reordered other) :
    other.ValidImports ↔ graph.ValidImports := by
  constructor
  · intro ⟨rootMem, known, acyclic⟩
    rw [reordered.root_eq, reordered.modules_eq] at rootMem
    rw [reordered.reaches_eq] at acyclic
    exact ⟨rootMem, reordered.importsKnown_iff.mp known, acyclic⟩
  · intro ⟨rootMem, known, acyclic⟩
    refine ⟨?_, reordered.importsKnown_iff.mpr known, ?_⟩
    · rwa [reordered.root_eq, reordered.modules_eq]
    · rwa [reordered.reaches_eq]

/-- The import lists, under their keys in order. -/
theorem toList_importLists :
    graph.importLists.toList = graph.importLists.keys.map fun urn => (urn, graph.imports urn) := by
  rw [← Std.ExtTreeMap.map_fst_toList_eq_keys, List.map_map]
  refine (List.map_id _).symm.trans (List.map_congr_left ?_)
  rintro ⟨urn, names⟩ member
  have found := Std.ExtTreeMap.mem_toList_iff_getElem?_eq_some.mp member
  simp [imports, found]

theorem Reordered.map_fst_unknownImport? (reordered : graph.Reordered other) :
    graph.unknownImport?.map Prod.fst = other.unknownImport?.map Prod.fst := by
  have sameKeys := keys_eq_of_mem_iff reordered.mem_importLists_iff
  rw [unknownImport?, unknownImport?, toList_importLists, toList_importLists, ← sameKeys,
    reordered.modules_eq, List.findSome?_map, List.findSome?_map]
  exact map_fst_findSome?_find?
    (fun urn imported => !(graph.modules.contains imported && graph.modules.contains urn))
    reordered.imports_perm graph.importLists.keys

/-- The imports of both are accepted, or those of neither, in whatever orders
the algorithms answer for the one and for the other. -/
theorem Reordered.checkImportsBy_cases (reordered : graph.Reordered other)
    (lawful : algorithms.Lawful) (othersLawful : others.Lawful) :
    (∃ closure, graph.checkImportsBy algorithms = .ok closure ∧
      other.checkImportsBy others = .ok closure) ∨
    ∃ failure otherFailure, graph.checkImportsBy algorithms = .error failure ∧
      other.checkImportsBy others = .error otherFailure ∧ failure.SameKind otherFailure := by
  by_cases rootMem : graph.root ∈ graph.modules
  case neg =>
    have rootUnknown : graph.modules.contains graph.root = false :=
      Bool.eq_false_iff.mpr (mt Std.ExtTreeMap.contains_iff_mem.mp rootMem)
    right
    refine ⟨.unknownRoot graph.root, .unknownRoot graph.root, ?_, ?_, .same _⟩
    · rw [checkImportsBy, rootUnknown]
      rfl
    · rw [checkImportsBy, reordered.modules_eq, reordered.root_eq, rootUnknown]
      rfl
  case pos =>
    have otherRootMem : other.root ∈ other.modules := by
      rwa [reordered.root_eq, reordered.modules_eq]
    by_cases known : graph.ImportsKnown
    case neg =>
      have sameImporter := reordered.map_fst_unknownImport?
      obtain ⟨⟨importer, imported⟩, unknown⟩ := Option.ne_none_iff_exists'.mp
        (mt unknownImport?_eq_none_iff.mp known)
      rw [unknown, Option.map_some, eq_comm, Option.map_eq_some_iff] at sameImporter
      obtain ⟨⟨otherImporter, otherImported⟩, otherUnknown, same⟩ := sameImporter
      obtain rfl : otherImporter = importer := same
      right
      refine ⟨_, _, ?_, ?_, .unknownImport otherImporter imported otherImported⟩
      · rw [checkImportsBy, Std.ExtTreeMap.contains_iff_mem.mpr rootMem, unknown]
        rfl
      · rw [checkImportsBy, Std.ExtTreeMap.contains_iff_mem.mpr otherRootMem, otherUnknown]
        rfl
    case pos =>
      have otherKnown := reordered.importsKnown_iff.mpr known
      cases answer : graph.checkImportsBy algorithms with
      | ok closure =>
          obtain ⟨valid, rfl⟩ := (checkImportsBy_eq_ok_iff lawful).mp answer
          refine Or.inl ⟨_, rfl, (checkImportsBy_eq_ok_iff othersLawful).mpr ?_⟩
          exact ⟨reordered.validImports_iff.mpr valid, (reordered.accessible_eq known).symm⟩
      | error failure =>
          rw [checkImportsBy_eq_error_iff lawful rootMem known, ← reordered.reaches_eq,
            ← checkImportsBy_eq_error_iff othersLawful otherRootMem otherKnown] at answer
          exact Or.inr ⟨failure, failure, rfl, answer, .same _⟩

/-! ### Followed imports -/

theorem Reordered.followedImports_perm (reordered : graph.Reordered other) (urn : String) :
    (graph.followedImports urn).Perm (other.followedImports urn) := by
  have sameKinds : (fun imported => !other.isMicroservice imported) =
      fun imported => !graph.isMicroservice imported := by
    funext imported
    rw [reordered.isMicroservice_eq]
  rw [followedImports, followedImports, sameKinds]
  exact (reordered.imports_perm urn).filter _

end ModuleGraph

end Traceability

import Traceability.Model.Merge
import Traceability.Proofs.Digraph.ByReach

/-!
Contract: which imports are accepted, and what closure they have then.

The directed graph of the imports has the modules as its nodes, if imports are
between modules, and an edge for every import. Its components have no cycle
exactly if no module reaches itself. Then there is a topological order, and what
is gathered along it are all modules that are reached.

Owns: reachability, what a graph satisfies whose imports are accepted, and their
closure.
Does not own: which imports are followed.
-/

namespace Traceability

namespace ModuleGraph

variable [PatternEngine]

/-- One module lists the other among its imports. -/
def Imports (graph : ModuleGraph) (importer imported : String) : Prop :=
  imported ∈ graph.imports importer

/-- One module leads to the other by one import or more. -/
def Reaches (graph : ModuleGraph) : String → String → Prop := Relation.TransGen graph.Imports

/-- Imports are between modules. -/
def ImportsKnown (graph : ModuleGraph) : Prop :=
  ∀ importer imported, graph.Imports importer imported →
    importer ∈ graph.modules ∧ imported ∈ graph.modules

/-- The root is there, imports are between modules, and no module reaches
itself. -/
structure ValidImports (graph : ModuleGraph) : Prop where
  root_mem : graph.root ∈ graph.modules
  known : graph.ImportsKnown
  acyclic : ∀ urn, ¬graph.Reaches urn urn

end ModuleGraph

/-! ### Adding nodes and edges -/

namespace Digraph

variable {digraph : Digraph} {source target urn other : String} {targets urns : List String}

theorem mem_nodes_foldl_addNode :
    urn ∈ (urns.foldl addNode digraph).nodes ↔ urn ∈ digraph.nodes ∨ urn ∈ urns := by
  induction urns generalizing digraph with
  | nil => simp
  | cons head tail inductionHypothesis =>
      rw [List.foldl_cons, inductionHypothesis, addNode, mem_appendNew, or_assoc, List.mem_cons]

theorem edge_foldl_addNode :
    (urns.foldl addNode digraph).Edge source target ↔ digraph.Edge source target := by
  induction urns generalizing digraph with
  | nil => rfl
  | cons head tail inductionHypothesis => exact inductionHypothesis

theorem edge_addEdges :
    (digraph.addEdges urn targets).Edge source target ↔
      digraph.Edge source target ∨ (source = urn ∧ target ∈ targets) := by
  unfold addEdges
  induction targets generalizing digraph with
  | nil => simp
  | cons head tail inductionHypothesis =>
      have added : (digraph.addEdge urn head).Edge source target ↔
          digraph.Edge source target ∨ (source = urn ∧ target = head) := by
        rw [Edge, addEdge, mem_appendNew, Prod.mk.injEq, Edge]
      rw [List.foldl_cons, inductionHypothesis, added, or_assoc, List.mem_cons, and_or_left]

theorem mem_nodes_addEdges :
    other ∈ (digraph.addEdges urn targets).nodes ↔
      other ∈ digraph.nodes ∨ ∃ target ∈ targets, other = urn ∨ other = target := by
  unfold addEdges
  induction targets generalizing digraph with
  | nil => simp
  | cons head tail inductionHypothesis =>
      have added : other ∈ (digraph.addEdge urn head).nodes ↔
          other ∈ digraph.nodes ∨ other = urn ∨ other = head := by
        rw [addEdge, mem_appendNew, mem_appendNew, or_assoc]
      rw [List.foldl_cons, inductionHypothesis, added, or_assoc, List.exists_mem_cons_iff]

end Digraph

namespace ModuleGraph

variable [PatternEngine] {graph : ModuleGraph} {closure : UrnMap UrnSet}
  {source target urn : String}

/-! ### The directed graph of the imports -/

theorem edge_digraph_iff : graph.digraph.Edge source target ↔ graph.Imports source target := by
  have added (entries : List (String × List String)) (digraph : Digraph) :
      (entries.foldl (fun digraph entry => digraph.addEdges entry.1 entry.2) digraph).Edge
          source target ↔
        digraph.Edge source target ∨ ∃ names, (source, names) ∈ entries ∧ target ∈ names := by
    induction entries generalizing digraph with
    | nil => simp
    | cons head tail inductionHypothesis =>
        rw [List.foldl_cons, inductionHypothesis, Digraph.edge_addEdges, or_assoc]
        grind
  rw [digraph, added, Digraph.edge_foldl_addNode]
  simp only [Std.ExtTreeMap.mem_toList_iff_getElem?_eq_some, Imports, imports]
  cases graph.importLists[source]? <;> simp [Digraph.Edge, Digraph.empty]

theorem leads_digraph : graph.digraph.Leads = graph.Reaches := by
  have sameEdges : graph.digraph.Edge = graph.Imports := by
    funext source target
    exact propext edge_digraph_iff
  rw [Digraph.Leads, Reaches, sameEdges]

/-- Where imports are between modules, the nodes are the modules. -/
theorem mem_nodes_digraph_iff (known : graph.ImportsKnown) :
    urn ∈ graph.digraph.nodes ↔ urn ∈ graph.modules := by
  have added (entries : List (String × List String)) (digraph : Digraph) :
      urn ∈ (entries.foldl (fun digraph entry => digraph.addEdges entry.1 entry.2) digraph).nodes ↔
        urn ∈ digraph.nodes ∨
          ∃ entry ∈ entries, ∃ imported ∈ entry.2, urn = entry.1 ∨ urn = imported := by
    induction entries generalizing digraph with
    | nil => simp
    | cons head tail inductionHypothesis =>
        rw [List.foldl_cons, inductionHypothesis, Digraph.mem_nodes_addEdges, or_assoc,
          List.exists_mem_cons_iff]
  rw [digraph, added, Digraph.mem_nodes_foldl_addNode, Std.ExtTreeMap.mem_keys]
  constructor
  · rintro ((inEmpty | member) | ⟨⟨importer, names⟩, listed, imported, inList, isEnd⟩)
    · cases inEmpty
    · exact member
    · have imports : graph.Imports importer imported := by
        rw [Std.ExtTreeMap.mem_toList_iff_getElem?_eq_some] at listed
        rw [Imports, ModuleGraph.imports, listed]
        exact inList
      obtain ⟨importerMem, importedMem⟩ := known importer imported imports
      rcases isEnd with rfl | rfl
      · exact importerMem
      · exact importedMem
  · exact fun member => Or.inl (Or.inr member)

/-! ### The closure -/

theorem mem_accessible_iff :
    target ∈ accessibleFrom graph.accessible source ↔ graph.Reaches source target := by
  rw [accessible, Digraph.mem_accessibleFrom_reach, leads_digraph]

/-- Every module has a set in the closure, and nothing else has one. -/
theorem mem_closure_iff (known : graph.ImportsKnown) :
    urn ∈ graph.accessible ↔ urn ∈ graph.modules := by
  rw [accessible, Digraph.isClosure_reach.mem_iff, mem_nodes_digraph_iff known]

/-! ### Accepted imports -/

theorem unknownImport?_eq_none_iff : graph.unknownImport? = none ↔ graph.ImportsKnown := by
  simp only [unknownImport?, List.findSome?_eq_none_iff, Option.map_eq_none_iff,
    List.find?_eq_none, Prod.forall, Std.ExtTreeMap.mem_toList_iff_getElem?_eq_some]
  constructor
  · intro allKnown importer imported imports
    unfold Imports ModuleGraph.imports at imports
    cases listed : graph.importLists[importer]? with
    | none => simp [listed] at imports
    | some names =>
        rw [listed] at imports
        have known := allKnown importer names listed imported imports
        simpa [and_comm] using known
  · intro known importer names listed imported member
    have imports : graph.Imports importer imported := by
      unfold Imports ModuleGraph.imports
      rwa [listed]
    simp [known _ _ imports]

variable {algorithms : DigraphAlgorithms} {modules : List String}

/-- Whatever the order in which lawful algorithms answer, there is a cycle to
tell if a module reaches itself. -/
theorem cyclesAmong_eq_nil_iff (lawful : algorithms.Lawful) :
    graph.digraph.cyclesAmong (algorithms.components graph.digraph) = [] ↔
      ∀ urn, ¬graph.Reaches urn urn := by
  rw [Digraph.cyclesAmong_eq_nil_iff (lawful.isComponent _) (lawful.covers _), leads_digraph]

/-- The imports of a graph are accepted exactly if they are valid, and then
give the closure, along whatever topological order. -/
theorem checkImportsBy_eq_ok_iff (lawful : algorithms.Lawful) :
    graph.checkImportsBy algorithms = .ok closure ↔
      graph.ValidImports ∧ closure = graph.accessible := by
  unfold checkImportsBy
  constructor
  · intro accepted
    split at accepted
    · contradiction
    case isFalse rootKnown =>
      split at accepted
      · contradiction
      next noUnknown =>
        split at accepted
        · contradiction
        next noCycle =>
          split at accepted
          · contradiction
          next order sorted =>
            have rootMem : graph.root ∈ graph.modules := by simpa using rootKnown
            refine ⟨⟨rootMem, unknownImport?_eq_none_iff.mp noUnknown,
              (cyclesAmong_eq_nil_iff lawful).mp noCycle⟩, ?_⟩
            obtain rfl := Except.ok.inj accepted
            have topological := lawful.isTopologicalOrder _ order sorted
            exact topological.isClosure.ext Digraph.isClosure_reach
  · rintro ⟨valid, rfl⟩
    have rootKnown : graph.modules.contains graph.root = true :=
      Std.ExtTreeMap.contains_iff_mem.mpr valid.root_mem
    rw [rootKnown, unknownImport?_eq_none_iff.mpr valid.known,
      (cyclesAmong_eq_nil_iff lawful).mpr valid.acyclic]
    cases sorted : algorithms.topologicalOrder graph.digraph with
    | error urn =>
        have leads := lawful.leads_self _ urn sorted
        rw [leads_digraph] at leads
        exact absurd leads (valid.acyclic urn)
    | ok order =>
        have topological := lawful.isTopologicalOrder _ order sorted
        exact congrArg Except.ok (topological.isClosure.ext Digraph.isClosure_reach)

theorem checkImports_eq_ok_iff :
    graph.checkImports = .ok closure ↔ graph.ValidImports ∧ closure = graph.accessible :=
  checkImportsBy_eq_ok_iff DigraphAlgorithms.lawful_byReach

end ModuleGraph

end Traceability

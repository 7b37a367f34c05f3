import Traceability.Proofs.ImportGraph.Reachability

/-!
Contract: which cycle of the imports is told.

Of all modules that reach themselves, one comes first in the order of the urns.
The modules that it reaches and that reach it are told, in this order. Neither
the order of imports, nor that of the components, nor where the root leads has a
part in it, so that a graph has one list to tell, or none if no module reaches
itself.

Owns: the list that is told, and that lawful algorithms agree on all answers.
Does not own: what else may be wrong with a graph.
-/

namespace Traceability.ModuleGraph

variable [PatternEngine] {graph : ModuleGraph} {algorithms others : DigraphAlgorithms}
  {modules : List String} {failure : GenerationError}

theorem exists_cyclesAmong_eq_cons_iff (lawful : algorithms.Lawful) :
    (∃ rest, graph.digraph.cyclesAmong (algorithms.components graph.digraph) = modules :: rest) ↔
      ∃ first, FirstOnCycle graph.Reaches first ∧ CycleOf graph.Reaches first modules := by
  rw [Digraph.exists_cyclesAmong_eq_cons_iff (lawful.isComponent _) (lawful.covers _),
    leads_digraph]

/-- Where the root and the imports are modules, imports are rejected only for a
cycle, and the first one is told. The topological order is never refused, since
no cycle is left to refuse it for. -/
theorem checkImportsBy_eq_error_iff (lawful : algorithms.Lawful)
    (rootMem : graph.root ∈ graph.modules) (known : graph.ImportsKnown) :
    graph.checkImportsBy algorithms = .error failure ↔
      ∃ modules, (∃ first, FirstOnCycle graph.Reaches first ∧
        CycleOf graph.Reaches first modules) ∧ failure = .cyclicImports modules := by
  have rootKnown : graph.modules.contains graph.root = true :=
    Std.ExtTreeMap.contains_iff_mem.mpr rootMem
  simp only [← exists_cyclesAmong_eq_cons_iff lawful]
  rw [checkImportsBy, rootKnown, unknownImport?_eq_none_iff.mpr known]
  cases cycles : graph.digraph.cyclesAmong (algorithms.components graph.digraph) with
  | cons told rest => simp [eq_comm]
  | nil =>
      cases sorted : algorithms.topologicalOrder graph.digraph with
      | error urn =>
          have leads := lawful.leads_self _ urn sorted
          rw [leads_digraph] at leads
          exact absurd leads ((cyclesAmong_eq_nil_iff lawful).mp cycles urn)
      | ok order => simp

/-- Lawful algorithms, whatever the orders in which they answer, lead to the
same closure or to the same error. -/
theorem checkImportsBy_eq (lawful : algorithms.Lawful) (othersLawful : others.Lawful) :
    graph.checkImportsBy algorithms = graph.checkImportsBy others := by
  by_cases rootMem : graph.root ∈ graph.modules
  · by_cases known : graph.ImportsKnown
    · cases answer : graph.checkImportsBy others with
      | ok closure =>
          rw [checkImportsBy_eq_ok_iff othersLawful] at answer
          exact (checkImportsBy_eq_ok_iff lawful).mpr answer
      | error failure =>
          rw [checkImportsBy_eq_error_iff othersLawful rootMem known] at answer
          exact (checkImportsBy_eq_error_iff lawful rootMem known).mpr answer
    · obtain ⟨unknown, found⟩ := Option.ne_none_iff_exists'.mp
        (mt unknownImport?_eq_none_iff.mp known)
      rw [checkImportsBy, checkImportsBy, found]
  · have rootUnknown : graph.modules.contains graph.root = false :=
      Bool.eq_false_iff.mpr (mt Std.ExtTreeMap.contains_iff_mem.mp rootMem)
    rw [checkImportsBy, checkImportsBy, rootUnknown]
    rfl

theorem mergeBy_eq (lawful : algorithms.Lawful) (othersLawful : others.Lawful) :
    graph.mergeBy algorithms = graph.mergeBy others := by
  rw [mergeBy, mergeBy, checkImportsBy_eq lawful othersLawful]

end Traceability.ModuleGraph

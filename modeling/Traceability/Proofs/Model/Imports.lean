import Traceability.Proofs.ImportGraph.Cycle
import Traceability.Proofs.Model.Failure
import Traceability.Proofs.Model.Origin

/-!
Contract: what models and errors say of the imports of their graph.

A model keeps the closure of the imports as it was when they were accepted:
neither merging nor narrowing touches it. A graph whose imports are between
modules is rejected for them only if some module reaches itself, and then the
cycle of the first such module is told, filtered or not.

Owns: the accessible modules of a model, and the cycle that an error tells.
Does not own: the entities of a model, and errors about them.
-/

namespace Traceability

/-! ### Accessible modules -/

namespace ModuleGraph

variable [PatternEngine] {graph : ModuleGraph} {algorithms : DigraphAlgorithms} {model : Model}
  {filter : Bool}

theorem accessible_eq_of_generate (generates : graph.generate filter = .ok model) :
    graph.ValidImports ∧ model.accessible = graph.accessible := by
  obtain ⟨closure, _, _, accepted, rest⟩ := rest_of_generate generates
  obtain ⟨valid, rfl⟩ := checkImports_eq_ok_iff.mp accepted
  exact ⟨valid, congrArg Model.accessible rest⟩

/-- Along whatever topological order, a model lists every module of its graph,
and nothing else, with the modules to which some chain of imports leads from
there. No module is among its own. -/
theorem mem_accessible_of_generate (lawful : algorithms.Lawful)
    (generates : graph.generateBy algorithms filter = .ok model) :
    (∀ urn, urn ∈ model.accessible ↔ urn ∈ graph.modules) ∧
    ∀ urn reached, model.accessible[urn]? = some reached →
      (∀ target, target ∈ reached ↔ graph.Reaches urn target) ∧ urn ∉ reached := by
  rw [generateBy_eq lawful DigraphAlgorithms.lawful_byReach] at generates
  obtain ⟨valid, same⟩ := accessible_eq_of_generate generates
  rw [same]
  refine ⟨fun urn => mem_closure_iff valid.known, ?_⟩
  intro urn reached found
  have listed : accessibleFrom graph.accessible urn = reached := by
    rw [accessibleFrom, found]
    rfl
  have members : ∀ target, target ∈ reached ↔ graph.Reaches urn target := by
    intro target
    rw [← listed]
    exact mem_accessible_iff
  refine ⟨members, ?_⟩
  intro member
  exact valid.acyclic urn ((members urn).mp member)

end ModuleGraph

namespace Sample

/-- The root reaches the library only through a microservice. -/
def behindMicroservice : ModuleGraph :=
  ModuleGraph.empty "root"
    |>.insert (module "root" [] ∅ [] ∅ []) ["service"]
    |>.insert { module "service" [] ∅ [] ∅ [] with variant := .microservice } ["library"]
    |>.insert (module "library" [] ∅ [] ∅ []) []

theorem library_accessible_through_microservice :
    ∃ model, behindMicroservice.generate true = .ok model ∧
      ∃ reached, model.accessible["root"]? = some reached ∧
        "library" ∈ reached ∧ "root" ∉ reached := by
  have evaluated : (behindMicroservice.generate true).toOption.isSome := by decide +kernel
  obtain ⟨model, generated⟩ := Option.isSome_iff_exists.mp evaluated
  have generates : behindMicroservice.generate true = .ok model := toOption_eq_some_iff.mp generated
  obtain ⟨keys, sets⟩ :=
    ModuleGraph.mem_accessible_of_generate DigraphAlgorithms.lawful_byReach generates
  have rootListed : "root" ∈ model.accessible := (keys "root").mpr (by decide +kernel)
  obtain ⟨reached, found⟩ := mem_iff_exists_getElem?.mp rootListed
  obtain ⟨members, notOwn⟩ := sets "root" reached found
  have throughService : behindMicroservice.Reaches "root" "library" :=
    .tail (.single (by decide +kernel : "service" ∈ behindMicroservice.imports "root"))
      (by decide +kernel : "library" ∈ behindMicroservice.imports "service")
  exact ⟨model, generates, reached, found, (members "library").mpr throughService, notOwn⟩

end Sample

/-! ### Cyclic imports -/

namespace ModuleGraph

variable [PatternEngine] {graph : ModuleGraph} {algorithms : DigraphAlgorithms} {filter : Bool}

/-- Where the root and all imports are modules, a graph is rejected for its
imports exactly if some module, anywhere, reaches itself. What is told then are
the modules on a cycle with the first of all modules that do, in order, wherever
their component comes among the others. -/
theorem generate_eq_cyclicImports_iff (lawful : algorithms.Lawful)
    (rootMem : graph.root ∈ graph.modules) (known : graph.ImportsKnown) (filter : Bool) :
    ((∃ modules, graph.generateBy algorithms filter = .error (.cyclicImports modules)) ↔
      ∃ urn, graph.Reaches urn urn) ∧
    ∀ modules, graph.generateBy algorithms filter = .error (.cyclicImports modules) ↔
      ∃ first, FirstOnCycle graph.Reaches first ∧ CycleOf graph.Reaches first modules := by
  have told_iff (modules : List String) :
      graph.generateBy algorithms filter = .error (.cyclicImports modules) ↔
        ∃ first, FirstOnCycle graph.Reaches first ∧ CycleOf graph.Reaches first modules := by
    constructor
    · intro failed
      cases checkImports_or_isDuplicate_of_generate failed with
      | inl rejected =>
        obtain ⟨_, told, same⟩ := (checkImportsBy_eq_error_iff lawful rootMem known).mp rejected
        cases same
        exact told
      | inr duplicate => cases duplicate
    · intro told
      apply generateBy_eq_error_of_checkImportsBy
      exact (checkImportsBy_eq_error_iff lawful rootMem known).mpr ⟨modules, told, rfl⟩
  refine ⟨?_, told_iff⟩
  constructor
  · rintro ⟨modules, failed⟩
    obtain ⟨first, isFirst, _⟩ := (told_iff modules).mp failed
    exact ⟨first, isFirst.onCycle⟩
  · rintro ⟨urn, reaches⟩
    exact exists_generateBy_eq_cyclicImports lawful rootMem known reaches

end ModuleGraph

namespace Sample

/-- One cycle that the root reaches, of a module with itself, and another one
that it does not reach, which comes first. -/
def withCycles : ModuleGraph :=
  ModuleGraph.empty "root"
    |>.insert (module "root" [] ∅ [] ∅ []) ["loop"]
    |>.insert (module "loop" [] ∅ [] ∅ []) ["loop"]
    |>.insert (module "beta" [] ∅ [] ∅ []) ["alpha", "root"]
    |>.insert (module "alpha" [] ∅ [] ∅ []) ["beta", "beta"]
    |>.insert (module "above" [] ∅ [] ∅ []) ["alpha"]

theorem cycle_out_of_reach_told :
    DigraphAlgorithms.byReach.Lawful ∧ withCycles.root ∈ withCycles.modules ∧
      withCycles.ImportsKnown ∧
      withCycles.generate true = .error (.cyclicImports ["alpha", "beta"]) ∧
      ∃ first, FirstOnCycle withCycles.Reaches first ∧
        CycleOf withCycles.Reaches first ["alpha", "beta"] := by
  have rootMem : withCycles.root ∈ withCycles.modules := by decide +kernel
  have known : withCycles.ImportsKnown :=
    ModuleGraph.unknownImport?_eq_none_iff.mp (by decide +kernel)
  have rejected : withCycles.generate true = .error (.cyclicImports ["alpha", "beta"]) :=
    ModuleGraph.generateBy_eq_error_of_checkImportsBy (by decide +kernel)
  refine ⟨DigraphAlgorithms.lawful_byReach, rootMem, known, rejected, ?_⟩
  exact ((ModuleGraph.generate_eq_cyclicImports_iff DigraphAlgorithms.lawful_byReach rootMem known
    true).2 _).mp rejected

end Sample

end Traceability

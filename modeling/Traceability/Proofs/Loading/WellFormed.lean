import Traceability.Pattern.Basic
import Traceability.Proofs.Loading.Closure
import Traceability.Proofs.Model.Failure
import Traceability.Yaml.Node.Reader

/-!
Contract: a graph that is loaded is well formed.

The modules of a reading have urns of their own, so that adding them to a graph
one after the other replaces none. What holds of the reading holds of the graph
then, and of all that may keep a graph from having a model only cycles and taken
identifiers are left.

Owns: the graph of a reading, and well-formed graphs.
Does not own: the reading.
-/

namespace Traceability

namespace ModuleGraph

variable [PatternEngine]

/-- The graph holds exactly these modules with what they import, in this order. -/
structure Holds (graph : ModuleGraph) (entries : List (Module × List String)) : Prop where
  order_eq : graph.order = entries.map fun entry => entry.1.urn
  modules_iff : ∀ urn module, graph.modules[urn]? = some module ↔
    ∃ imports, (module, imports) ∈ entries ∧ module.urn = urn
  importLists_iff : ∀ urn imports, graph.importLists[urn]? = some imports ↔
    ∃ module, (module, imports) ∈ entries ∧ module.urn = urn

variable {graph : ModuleGraph} {entries : List (Module × List String)}

theorem holds_empty (root : String) : (empty root).Holds [] where
  order_eq := rfl
  modules_iff := by simp [empty]
  importLists_iff := by simp [empty]

theorem Holds.mem_modules_iff (holds : graph.Holds entries) {urn : String} :
    urn ∈ graph.modules ↔ urn ∈ entries.map fun entry => entry.1.urn := by
  simp only [mem_iff_exists_getElem?, holds.modules_iff, List.mem_map, Prod.exists]

theorem Holds.mem_importLists_iff (holds : graph.Holds entries) {urn : String} :
    urn ∈ graph.importLists ↔ urn ∈ entries.map fun entry => entry.1.urn := by
  simp only [mem_iff_exists_getElem?, holds.importLists_iff, List.mem_map, Prod.exists]
  exact exists_comm

/-- A module under a urn that is free comes last and replaces none. -/
theorem Holds.insert (holds : graph.Holds entries) {module : Module} {imports : List String}
    (free : module.urn ∉ entries.map fun entry => entry.1.urn) :
    (graph.insert module imports).Holds (entries ++ [(module, imports)]) := by
  have noModule : graph.modules[module.urn]? = none :=
    Std.ExtTreeMap.getElem?_eq_none (mt holds.mem_modules_iff.mp free)
  have noList : graph.importLists[module.urn]? = none :=
    Std.ExtTreeMap.getElem?_eq_none (mt holds.mem_importLists_iff.mp free)
  constructor
  · have absent : graph.modules.contains module.urn = false := by
      rw [Std.ExtTreeMap.contains_eq_isSome_getElem?, noModule]
      rfl
    simp [ModuleGraph.insert, absent, holds.order_eq]
  · intro urn other
    simp only [ModuleGraph.insert, getElem?_insert_eq_some_iff noModule, holds.modules_iff,
      List.mem_append, List.mem_singleton, Prod.mk.injEq]
    grind
  · intro urn others
    simp only [ModuleGraph.insert, getElem?_insert_eq_some_iff noList, holds.importLists_iff,
      List.mem_append, List.mem_singleton, Prod.mk.injEq]
    grind

/-- Modules with urns of their own come in their order and replace none. -/
theorem Holds.foldl_insert (holds : graph.Holds entries) (more : List (Module × List String))
    (nodup : ((entries ++ more).map fun entry => entry.1.urn).Nodup) :
    (more.foldl (fun graph entry => graph.insert entry.1 entry.2) graph).Holds
      (entries ++ more) := by
  induction more generalizing graph entries with
  | nil => simpa using holds
  | cons head tail inductionHypothesis =>
      have free : head.1.urn ∉ entries.map fun entry => entry.1.urn := by
        rw [List.map_append, List.nodup_append] at nodup
        intro taken
        exact nodup.2.2 _ taken _ (List.mem_map_of_mem List.mem_cons_self) rfl
      rw [List.append_cons] at nodup ⊢
      exact inductionHypothesis (holds.insert free) nodup

theorem root_foldl_insert (more : List (Module × List String)) :
    (more.foldl (fun graph entry => graph.insert entry.1 entry.2) graph).root = graph.root := by
  induction more generalizing graph with
  | nil => rfl
  | cons head tail inductionHypothesis => exact inductionHypothesis

theorem Holds.imports_iff {reading : Reading} (holds : graph.Holds reading.modules)
    {importer imported : String} :
    graph.Imports importer imported ↔ reading.Imports importer imported := by
  unfold Imports imports Reading.Imports
  constructor
  · intro lists
    cases found : graph.importLists[importer]? with
    | none => simp [found] at lists
    | some imports =>
      obtain ⟨module, member, named⟩ := (holds.importLists_iff importer imports).mp found
      exact ⟨(module, imports), member, named, by simpa [found] using lists⟩
  · rintro ⟨⟨module, imports⟩, member, named, lists⟩
    rw [(holds.importLists_iff importer imports).mpr ⟨module, member, named⟩]
    exact lists

/-! ### Well-formed graphs -/

/-- The root comes first, every module has one place and its own urn, imports
are between modules, and the root leads to all modules. -/
structure WellFormed (graph : ModuleGraph) : Prop where
  root_mem : graph.root ∈ graph.modules
  head_order : graph.order.head? = some graph.root
  nodup_order : graph.order.Nodup
  mem_order_iff_modules : ∀ urn, urn ∈ graph.order ↔ urn ∈ graph.modules
  mem_order_iff_importLists : ∀ urn, urn ∈ graph.order ↔ urn ∈ graph.importLists
  keyed : ∀ (urn : String) (module : Module), graph.modules[urn]? = some module → module.urn = urn
  known : graph.ImportsKnown
  reached : ∀ urn ∈ graph.modules, urn = graph.root ∨ graph.Reaches graph.root urn

variable [YamlReader]

theorem holds_of_load {tree : FileTree} {settings : Settings} {path : String}
    (loads : load tree settings path = .ok graph) :
    ∃ reading, visited tree settings ∅ path = .ok (graph.root, reading) ∧
      graph.Holds reading.modules := by
  obtain ⟨urn, reading, answered, rfl⟩ := load_eq_ok_iff.mp loads
  refine ⟨reading, ?_, ?_⟩
  · rw [root_foldl_insert]
    exact answered
  · have walked := visited_eq_ok_iff_walk.mp answered
    exact (holds_empty urn).foldl_insert reading.modules walked.nodup_urns.1

theorem Holds.wellFormed {tree : FileTree} {settings : Settings} {path : String} {reading : Reading}
    (answered : visited tree settings ∅ path = .ok (graph.root, reading))
    (holds : graph.Holds reading.modules) : graph.WellFormed := by
  have walked := visited_eq_ok_iff_walk.mp answered
  have nothingKnown (urn : String) : ¬KnownUrn ∅ urn := by
    simp [KnownUrn]
  have known_iff (urn : String) : KnownUrn reading.known urn ↔ urn ∈ graph.modules := by
    rw [walked.knownUrn_iff, holds.mem_modules_iff]
    simp [nothingKnown, Reading.urns]
  have mem_order_iff (urn : String) : urn ∈ graph.order ↔ urn ∈ graph.modules := by
    rw [holds.order_eq, holds.mem_modules_iff]
  have first : reading.urns.head? = some graph.root := by
    obtain ⟨directory, _, ⟨isKnown, _⟩ | ⟨_, document, module, imports, below, _, _, readModule, _,
      sameUrn, rfl⟩⟩ := visited_eq_ok_iff.mp answered
    · cases nothingKnown graph.root ⟨directory, isKnown⟩
    · rw [sameUrn, ← FileTree.urn_of_readModule readModule]
      rfl
  constructor
  case root_mem =>
    rw [holds.mem_modules_iff]
    exact List.mem_of_mem_head? first
  case head_order =>
    rw [holds.order_eq]
    exact first
  case nodup_order =>
    rw [holds.order_eq]
    exact walked.nodup_urns.1
  case mem_order_iff_modules => exact mem_order_iff
  case mem_order_iff_importLists =>
    intro urn
    rw [holds.order_eq, holds.mem_importLists_iff]
  case keyed =>
    intro urn module found
    obtain ⟨imports, -, named⟩ := (holds.modules_iff urn module).mp found
    exact named
  case known =>
    intro importer imported lists
    have imports := holds.imports_iff.mp lists
    refine ⟨?_, (known_iff imported).mp (walked.knownUrn_of_imports imports)⟩
    obtain ⟨entry, member, named, -⟩ := imports
    rw [holds.mem_modules_iff]
    exact List.mem_map.mpr ⟨entry, member, named⟩
  case reached =>
    intro urn member
    have read : urn ∈ reading.urns := holds.mem_modules_iff.mp member
    obtain ⟨start, started, reaches⟩ := walked.reached urn read
    rw [List.mem_singleton.mp started, Relation.reflTransGen_iff_eq_or_transGen] at reaches
    refine reaches.imp id fun reaches => ?_
    exact Relation.TransGen.mono (fun _ _ => holds.imports_iff.mpr) _ _ reaches

/-- A graph that is loaded is well formed, holds each module that has been read
under its urn, and has no model only if its imports run in a cycle or an
identifier is taken. -/
theorem wellFormed_of_load {tree : FileTree} {settings : Settings} {path : String}
    (loads : load tree settings path = .ok graph) :
    graph.WellFormed ∧
    (∃ reading, visited tree settings ∅ path = .ok (graph.root, reading) ∧
      graph.Holds reading.modules) ∧
    ∀ (filter : Bool) (failure : GenerationError), graph.generate filter = .error failure →
      (∃ modules, failure = .cyclicImports modules) ∨ failure.IsDuplicate := by
  obtain ⟨reading, answered, holds⟩ := holds_of_load loads
  have wellFormed := holds.wellFormed answered
  refine ⟨wellFormed, ⟨reading, answered, holds⟩, ?_⟩
  intro filter failure failed
  rcases checkImports_or_isDuplicate_of_generate failed with imports | duplicate
  · left
    obtain ⟨modules, -, cyclic⟩ :=
      (checkImportsBy_eq_error_iff DigraphAlgorithms.lawful_byReach wellFormed.root_mem
        wellFormed.known).mp imports
    exact ⟨modules, cyclic⟩
  · exact Or.inr duplicate

end ModuleGraph

namespace Sample

/-- The application imports the library, which imports it back, and the base,
which it reaches by a detour and the library directly. -/
def fileTree : FileTree :=
  FileTree.empty
    |>.add ["app", "requirements.yml"]
      (.text "metadata:\n  urn: app\nimports: [../lib, ../lib/../base]\n")
    |>.add ["lib", "requirements.yml"]
      (.text "metadata:\n  urn: lib\nimports: [../base, ../app]\n")
    |>.add ["base", "requirements.yml"] (.text "metadata:\n  urn: base\n")

/-- The library and the base are read while the application is known already. -/
theorem walk_fileTree :
    ∃ reading, Walk fileTree .standard ∅ ["/app"] ["app"] reading ∧
      reading.urns = ["app", "lib", "base"] ∧
      reading.Imports "app" "lib" ∧ reading.Imports "lib" "app" := by
  let nothing : Std.ExtTreeMap Location String := ∅
  let withApp := nothing.insert ["app"] "app"
  let withLib := withApp.insert ["lib"] "lib"
  let withBase := withLib.insert ["base"] "base"
  have appFound : fileTree.resolve "/lib/../app" = .ok ["app"] :=
    toOption_eq_some_iff.mp (by decide +kernel)
  have baseFound : fileTree.resolve "/app/../lib/../base" = .ok ["base"] :=
    toOption_eq_some_iff.mp (by decide +kernel)
  have appAgain : Walk fileTree .standard withBase ["/lib/../app"] ["app"] ⟨withBase, []⟩ :=
    .again appFound (by decide +kernel) .done
  have baseAgain :
      Walk fileTree .standard withBase ["/app/../lib/../base"] ["base"] ⟨withBase, []⟩ :=
    .again baseFound (by decide +kernel) .done
  obtain ⟨base, baseUrn, walkBase⟩ := Walk.exists_fresh "/lib/../base" ["base"]
    (toOption_eq_some_iff.mp (by decide +kernel)) (by decide +kernel)
    (find?_urn_eq_none_iff.mp (by decide +kernel)) (by decide +kernel) .done appAgain
  obtain ⟨lib, libUrn, walkLib⟩ := Walk.exists_fresh "/app/../lib" ["lib"]
    (toOption_eq_some_iff.mp (by decide +kernel)) (by decide +kernel)
    (find?_urn_eq_none_iff.mp (by decide +kernel)) (by decide +kernel) walkBase baseAgain
  obtain ⟨app, appUrn, walkApp⟩ := Walk.exists_fresh "/app" ["app"]
    (toOption_eq_some_iff.mp (by decide +kernel)) (by decide +kernel)
    (find?_urn_eq_none_iff.mp (by decide +kernel)) (by decide +kernel) walkLib .done
  refine ⟨_, walkApp, ?_, ⟨(app, ["lib", "base"]), ?_, appUrn, List.mem_cons_self⟩,
    ⟨(lib, ["base", "app"]), ?_, libUrn, List.mem_cons_of_mem _ List.mem_cons_self⟩⟩
  · simp [Reading.urns, appUrn, libUrn, baseUrn]
  · exact List.mem_cons_self
  · exact List.mem_cons_of_mem _ List.mem_cons_self

/-- The graph is loaded and well formed in spite of its cycle, for which it has
no model. -/
theorem loads_cycle :
    ∃ graph, ModuleGraph.load fileTree .standard "/app" = .ok graph ∧ graph.WellFormed ∧
      graph.order = ["app", "lib", "base"] ∧
      ∃ modules, graph.generate true = .error (.cyclicImports modules) := by
  obtain ⟨reading, walked, order, appLib, libApp⟩ := walk_fileTree
  have answered := visited_eq_ok_iff_walk.mpr walked
  obtain ⟨graph, loads⟩ : ∃ graph, ModuleGraph.load fileTree .standard "/app" = .ok graph :=
    ⟨_, ModuleGraph.load_eq_ok_iff.mpr ⟨_, _, answered, rfl⟩⟩
  obtain ⟨wellFormed, ⟨same, answeredSame, holds⟩, -⟩ := ModuleGraph.wellFormed_of_load loads
  obtain ⟨-, rfl⟩ := Prod.mk.inj (Except.ok.inj (answered.symm.trans answeredSame))
  refine ⟨graph, loads, wellFormed, holds.order_eq.trans order, ?_⟩
  have reaches : graph.Reaches "app" "app" :=
    .tail (.single (holds.imports_iff.mpr appLib)) (holds.imports_iff.mpr libApp)
  exact ModuleGraph.exists_generateBy_eq_cyclicImports DigraphAlgorithms.lawful_byReach
    wellFormed.root_mem wellFormed.known reaches

end Sample

end Traceability

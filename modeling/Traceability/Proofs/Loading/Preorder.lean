import Traceability.Proofs.DepthFirst
import Traceability.Proofs.Loading.WellFormed

/-!
Contract: the directories that are read, and their order.

The import paths of a module lead to directories, and reading goes through these
in depth. Whatever path leads there, a directory is one place, which is read
once, so that neither a cycle nor a detour is any obstacle. Reading fails only
if some directory that can be reached cannot be read, or if two of them declare
one urn.

Owns: where imports lead, the order of reading, and when it succeeds.
Does not own: the documents of a single directory.
-/

namespace Traceability

namespace FileTree

variable [YamlReader]

/-- The module in a directory has the urn. -/
def Declares (tree : FileTree) (settings : Settings) (directory : Location) (urn : String) : Prop :=
  ∃ document, tree.readRequirements settings directory = .ok document ∧ document.urn = urn

/-- The directories that the paths in the document of a directory lead to, those
of its imports first and then those of its implementations. -/
def importsOf (tree : FileTree) (settings : Settings) (directory : Location) : List Location :=
  match tree.readRequirements settings directory with
  | .error _ => []
  | .ok document => (document.imports ++ document.implementations).filterMap fun path =>
      (tree.resolve (joinPath directory.path path)).toOption

/-- Some import paths, one after the other, lead from one directory to another. -/
def Reached (tree : FileTree) (settings : Settings) : Location → Location → Prop :=
  Relation.ReflTransGen fun directory target => target ∈ tree.importsOf settings directory

variable {tree : FileTree} {settings : Settings} {directory target : Location}

theorem importsOf_eq {document : Document.Requirements} {targets : List Location}
    (read : tree.readRequirements settings directory = .ok document)
    (lead : List.Forall₂ (fun path target => tree.resolve path = .ok target)
      (document.importPaths.map (joinPath directory.path)) targets) :
    tree.importsOf settings directory = targets := by
  rw [List.forall₂_map_left_iff] at lead
  simp only [importsOf, read]
  rw [← Document.Requirements.importPaths]
  generalize document.importPaths = paths at lead
  induction lead with
  | nil => rfl
  | cons found _ inductionHypothesis =>
      rw [List.filterMap_cons_some (by rw [found]; rfl), inductionHypothesis]

theorem mem_importsOf {document : Document.Requirements} {path : String}
    (read : tree.readRequirements settings directory = .ok document)
    (listed : path ∈ document.imports ++ document.implementations)
    (found : tree.resolve (joinPath directory.path path) = .ok target) :
    target ∈ tree.importsOf settings directory := by
  simp only [importsOf, read, List.mem_filterMap]
  exact ⟨path, listed, by rw [found]; rfl⟩

theorem mem_locations_of_mem_importsOf (member : target ∈ tree.importsOf settings directory) :
    target ∈ tree.locations := by
  unfold importsOf at member
  split at member
  · contradiction
  · obtain ⟨path, _, found⟩ := List.mem_filterMap.mp member
    exact resolve_mem_locations (toOption_eq_some_iff.mp found)

theorem Reached.mem_locations (reached : tree.Reached settings directory target)
    (present : directory ∈ tree.locations) : target ∈ tree.locations := by
  cases reached with
  | refl => exact present
  | tail _ imports => exact mem_locations_of_mem_importsOf imports

variable [PatternEngine]

/-- A directory holds a module, and its import paths lead to directories. -/
def Readable (tree : FileTree) (settings : Settings) (directory : Location) : Prop :=
  ∃ document module, tree.readRequirements settings directory = .ok document ∧
    tree.readModule settings directory document = .ok module ∧
      ∀ path ∈ document.imports ++ document.implementations,
        ∃ target, tree.resolve (joinPath directory.path path) = .ok target

/-- A module and its import list have been read from a directory: each path in
its document, of the imports first and then of the implementations, has an entry
in the list, the urn of the directory that it leads to. -/
def ReadFrom (tree : FileTree) (settings : Settings) (directory : Location)
    (entry : Module × List String) : Prop :=
  ∃ document, tree.readRequirements settings directory = .ok document ∧
    tree.readModule settings directory document = .ok entry.1 ∧
      List.Forall₂ (fun path urn => ∃ target,
        tree.resolve (joinPath directory.path path) = .ok target ∧
          tree.Declares settings target urn)
        (document.imports ++ document.implementations) entry.2

theorem ReadFrom.readable {entry : Module × List String}
    (readFrom : tree.ReadFrom settings directory entry) : tree.Readable settings directory := by
  obtain ⟨document, read, readModule, pairs⟩ := readFrom
  refine ⟨document, entry.1, read, readModule, ?_⟩
  intro path listed
  obtain ⟨_, _, target, found, _⟩ := exists_related_of_mem pairs listed
  exact ⟨target, found⟩

end FileTree

/-! ### The order of a walk -/

section Walks

variable {tree : FileTree} {settings : Settings} {known : Std.ExtTreeMap Location String}
  {directory : Location}

theorem contains_insert_eq {urn : String} (other : Location) :
    (known.insert directory urn).contains other =
      (directory == other || known.contains other) := by
  rw [Std.ExtTreeMap.contains_insert, Bool.eq_iff_iff]
  simp

variable [YamlReader]

/-- What is known has been read under its urn. -/
def KnownDeclared (tree : FileTree) (settings : Settings)
    (known : Std.ExtTreeMap Location String) : Prop :=
  ∀ (directory : Location) (urn : String), known[directory]? = some urn →
    tree.Declares settings directory urn

theorem KnownDeclared.insert {document : Document.Requirements}
    (declared : KnownDeclared tree settings known) (unknown : known[directory]? = none)
    (read : tree.readRequirements settings directory = .ok document) :
    KnownDeclared tree settings (known.insert directory document.urn) := by
  intro other urn isKnown
  rcases (getElem?_insert_eq_some_iff unknown).mp isKnown with ⟨rfl, rfl⟩ | before
  · exact ⟨document, read, rfl⟩
  · exact declared other urn before

variable {start : Location}

/-- What is known can be reached, and has been read under its urn. -/
structure KnownReached (tree : FileTree) (settings : Settings) (start : Location)
    (known : Std.ExtTreeMap Location String) : Prop where
  declared : KnownDeclared tree settings known
  reached : ∀ directory ∈ known, tree.Reached settings start directory

theorem KnownReached.insert {document : Document.Requirements}
    (knownReached : KnownReached tree settings start known) (unknown : known[directory]? = none)
    (read : tree.readRequirements settings directory = .ok document)
    (reached : tree.Reached settings start directory) :
    KnownReached tree settings start (known.insert directory document.urn) where
  declared := knownReached.declared.insert unknown read
  reached := by
    intro other member
    rw [Std.ExtTreeMap.mem_insert, Std.LawfulEqOrd.compare_eq_iff_eq] at member
    rcases member with rfl | before
    · exact reached
    · exact knownReached.reached other before

variable [PatternEngine] {paths urns : List String} {reading : Reading}

/-- A walk seen as a search: its paths lead to `targets`, and what it reads, it
reads from `directories`. -/
structure WalkSearches (tree : FileTree) (settings : Settings)
    (known : Std.ExtTreeMap Location String) (paths urns : List String) (reading : Reading)
    (targets directories : List Location) : Prop where
  lead : List.Forall₂ (fun path target => tree.resolve path = .ok target) paths targets
  declare : List.Forall₂ (tree.Declares settings) targets urns
  search : Search (tree.importsOf settings) known.contains targets directories
  read : List.Forall₂ (tree.ReadFrom settings) directories reading.modules
  contains_eq : ∀ directory, reading.known.contains directory =
    (known.contains directory || decide (directory ∈ directories))
  knownDeclared : KnownDeclared tree settings reading.known

theorem readFrom_of_walked {document : Document.Requirements} {module : Module}
    {imports : List String} {targets : List Location}
    (read : tree.readRequirements settings directory = .ok document)
    (readModule : tree.readModule settings directory document = .ok module)
    (lead : List.Forall₂ (fun path target => tree.resolve path = .ok target)
      (document.importPaths.map (joinPath directory.path)) targets)
    (declare : List.Forall₂ (tree.Declares settings) targets imports) :
    tree.ReadFrom settings directory (module, imports) := by
  refine ⟨document, read, readModule, ?_⟩
  rw [List.forall₂_map_left_iff] at lead
  rw [← Document.Requirements.importPaths]
  generalize document.importPaths = listed at lead
  induction lead generalizing imports with
  | nil =>
      cases declare
      exact .nil
  | cons found _ inductionHypothesis =>
      cases declare with
      | cons declares declare => exact .cons ⟨_, found, declares⟩ (inductionHypothesis declare)

/-- A walk reads directories in depth, each module from its own. -/
theorem Walk.exists_search (walked : Walk tree settings known paths urns reading)
    (declared : KnownDeclared tree settings known) :
    ∃ targets directories,
      WalkSearches tree settings known paths urns reading targets directories := by
  induction walked with
  | done => exact ⟨[], [], .nil, .nil, .done, .nil, by simp, declared⟩
  | again found isKnown _ inductionHypothesis =>
      obtain ⟨targets, directories, others⟩ := inductionHypothesis declared
      have seen : Std.ExtTreeMap.contains _ _ = true :=
        Std.ExtTreeMap.contains_iff_mem.mpr (mem_iff_exists_getElem?.mpr ⟨_, isKnown⟩)
      exact ⟨_ :: targets, directories, .cons found others.lead,
        .cons (declared _ _ isKnown) others.declare, .again seen others.search, others.read,
        others.contains_eq, others.knownDeclared⟩
  | @fresh known path directory document module paths imports urns belowReading otherReading found
      unknown read _ readModule _ _ belowHypothesis othersHypothesis =>
      obtain ⟨targetsBelow, directoriesBelow, below⟩ :=
        belowHypothesis (declared.insert unknown read)
      obtain ⟨targets, directories, others⟩ := othersHypothesis below.knownDeclared
      have isNew : known.contains directory = false := by
        rw [Std.ExtTreeMap.contains_eq_isSome_getElem?, unknown]
        rfl
      have searchBelow := below.search
      rw [← FileTree.importsOf_eq read below.lead] at searchBelow
      refine ⟨directory :: targets, directory :: directoriesBelow ++ directories,
        .cons found others.lead, .cons ⟨document, read, rfl⟩ others.declare, ?_, ?_, ?_,
        others.knownDeclared⟩
      · exact .fresh isNew contains_insert_eq searchBelow below.contains_eq others.search
      · exact .cons (readFrom_of_walked read readModule below.lead below.declare)
          (List.rel_append below.read others.read)
      · intro other
        rw [others.contains_eq, below.contains_eq, contains_insert_eq, Bool.eq_iff_iff]
        simp
        grind

/-! ### When reading succeeds -/

/-- Every directory that can be reached is readable, under a urn of its own. -/
structure FileTree.Loadable (tree : FileTree) (settings : Settings) (start : Location) : Prop where
  readable : ∀ directory, tree.Reached settings start directory →
    tree.Readable settings directory
  eq_of_declares : ∀ first second urn, tree.Reached settings start first →
    tree.Reached settings start second → tree.Declares settings first urn →
      tree.Declares settings second urn → first = second

variable {path : String}

/-- Where all can be loaded, no urn that a directory declares is taken. -/
theorem KnownReached.not_knownUrn {document : Document.Requirements}
    (knownReached : KnownReached tree settings start known) (unknown : known[directory]? = none)
    (loadable : tree.Loadable settings start)
    (reached : tree.Reached settings start directory)
    (read : tree.readRequirements settings directory = .ok document) :
    ¬KnownUrn known document.urn := by
  rintro ⟨other, isKnown⟩
  have otherReached : tree.Reached settings start other :=
    knownReached.reached other (mem_iff_exists_getElem?.mpr ⟨_, isKnown⟩)
  have same : other = directory := loadable.eq_of_declares other directory document.urn
    otherReached reached (knownReached.declared other _ isKnown) ⟨document, read, rfl⟩
  rw [same, unknown] at isKnown
  contradiction

/-- A path leads to a directory that can be reached. -/
def FileTree.Leads (tree : FileTree) (settings : Settings) (start : Location) (path : String) :
    Prop :=
  ∃ directory, tree.resolve path = .ok directory ∧ tree.Reached settings start directory

/-- Where all can be loaded, reading a path that leads to a directory succeeds. -/
theorem FileTree.Loadable.exists_visited (loadable : tree.Loadable settings start)
    (knownReached : KnownReached tree settings start known)
    (leads : tree.Leads settings start path) :
    ∃ urn reading, visited tree settings known path = .ok (urn, reading) ∧
      KnownReached tree settings start reading.known := by
  refine visit.induct tree
    (fun known path => KnownReached tree settings start known → tree.Leads settings start path →
      ∃ urn reading, visited tree settings known path = .ok (urn, reading) ∧
        KnownReached tree settings start reading.known)
    (fun known paths => KnownReached tree settings start known →
      (∀ path ∈ paths, tree.Leads settings start path) →
        ∃ urns reading, visitedAll tree settings known paths = .ok (urns, reading) ∧
          KnownReached tree settings start reading.known)
    ?unresolved ?known ?unknown ?nil ?cons known path knownReached leads
  case unresolved =>
    intro known path cause unresolved _ leads
    obtain ⟨directory, found, _⟩ := leads
    cases unresolved.symm.trans found
  case known =>
    intro known path directory found urn isKnown knownReached _
    exact ⟨urn, _, visited_of_known found isKnown, knownReached⟩
  case unknown =>
    intro known path directory found unknown readsBelow knownReached leads
    obtain ⟨_, foundAgain, reached⟩ := leads
    cases found.symm.trans foundAgain
    obtain ⟨document, module, read, readModule, pathsLead⟩ := loadable.readable directory reached
    have below : ∀ path ∈ document.importPaths.map (joinPath directory.path),
        tree.Leads settings start path := by
      intro path member
      obtain ⟨listed, inDocument, rfl⟩ := List.mem_map.mp member
      obtain ⟨target, leadsTo⟩ := pathsLead listed inDocument
      exact ⟨target, leadsTo, reached.tail (FileTree.mem_importsOf read inDocument leadsTo)⟩
    obtain ⟨imports, reading, readBelow, stillReached⟩ :=
      readsBelow document (knownReached.insert unknown read reached) below
    have free := knownReached.not_knownUrn unknown loadable reached read
    refine ⟨document.urn, ⟨reading.known, (module, imports) :: reading.modules⟩, ?_, stillReached⟩
    exact visited_eq_ok_iff.mpr ⟨directory, found, .inr ⟨unknown, document, module, imports,
      reading, read, free, readModule, readBelow, rfl, rfl⟩⟩
  case nil =>
    intro known knownReached _
    exact ⟨[], _, visitedAll_nil, knownReached⟩
  case cons =>
    intro known path paths readsFirst readsOthers knownReached lead
    obtain ⟨urn, first, readFirst, firstReached⟩ := readsFirst knownReached (lead path (by simp))
    obtain ⟨bound, _⟩ := exists_visit_iff.mpr readFirst
    obtain ⟨urns, others, readAll, othersReached⟩ := readsOthers urn first bound firstReached
      fun other member => lead other (List.mem_cons_of_mem _ member)
    exact ⟨urn :: urns, _, visitedAll_cons_eq_ok_iff.mpr
      ⟨urn, first, urns, others, readFirst, readAll, rfl, rfl⟩, othersReached⟩

/-! ### Loading -/

namespace ModuleGraph

variable {graph : ModuleGraph}

/-- Modules have been read from directories, one from each, in depth. -/
structure LoadedFrom (tree : FileTree) (settings : Settings) (start : Location)
    (directories : List Location) (graph : ModuleGraph) : Prop where
  depthFirst : IsDepthFirst (tree.importsOf settings) start directories
  declare_order : List.Forall₂ (tree.Declares settings) directories graph.order
  declare_root : tree.Declares settings start graph.root
  read : ∃ entries, graph.Holds entries ∧ List.Forall₂ (tree.ReadFrom settings) directories entries

theorem exists_loadedFrom (loads : load tree settings path = .ok graph) :
    ∃ start directories, tree.resolve path = .ok start ∧
      LoadedFrom tree settings start directories graph := by
  obtain ⟨reading, answered, holds⟩ := holds_of_load loads
  have nothingKnown : KnownDeclared tree settings ∅ := by
    intro directory urn isKnown
    simp at isKnown
  obtain ⟨targets, directories, searches⟩ :=
    (visited_eq_ok_iff_walk.mp answered).exists_search nothingKnown
  cases searches.lead with
  | cons found none =>
    cases none
    cases searches.declare with
    | cons declares _ =>
      have nothingSeen : (∅ : Std.ExtTreeMap Location String).contains = fun _ => false := by
        funext directory
        exact Std.ExtTreeMap.contains_empty
      have search := searches.search
      rw [nothingSeen] at search
      refine ⟨_, directories, found, search.isDepthFirst, ?_, declares, _, holds, searches.read⟩
      rw [holds.order_eq, List.forall₂_map_right_iff]
      refine searches.read.imp ?_
      rintro directory entry ⟨document, read, readModule, _⟩
      exact ⟨document, read, (FileTree.urn_of_readModule readModule).symm⟩

/-- Loading succeeds only where all can be loaded: of two directories under one
urn, the order would hold it twice. -/
theorem LoadedFrom.loadable {directories : List Location}
    (loaded : LoadedFrom tree settings start directories graph) (nodup : graph.order.Nodup) :
    tree.Loadable settings start where
  readable := by
    intro directory reached
    obtain ⟨entries, _, read⟩ := loaded.read
    obtain ⟨entry, _, readFrom⟩ :=
      exists_related_of_mem read (loaded.depthFirst.mem_iff.mpr reached)
    exact readFrom.readable
  eq_of_declares := by
    intro first second urn firstReached secondReached firstDeclares secondDeclares
    let declared (directory : Location) : Option String :=
      (tree.readRequirements settings directory).toOption.map Document.Requirements.urn
    have declared_eq {directory : Location} {urn : String}
        (declares : tree.Declares settings directory urn) : declared directory = some urn := by
      obtain ⟨document, read, rfl⟩ := declares
      simp only [declared, read]
      rfl
    have names : directories.map declared = graph.order.map some := by
      rw [← List.forall₂_eq_eq_eq, List.forall₂_map_left_iff, List.forall₂_map_right_iff]
      exact loaded.declare_order.imp fun _ _ => declared_eq
    have apart : (directories.map declared).Nodup := by
      rw [names]
      exact nodup.map fun _ _ => Option.some.inj
    exact List.inj_on_of_nodup_map apart (loaded.depthFirst.mem_iff.mpr firstReached)
      (loaded.depthFirst.mem_iff.mpr secondReached)
      ((declared_eq firstDeclares).trans (declared_eq secondDeclares).symm)

theorem nodup_order_of_load (loads : load tree settings path = .ok graph) : graph.order.Nodup := by
  obtain ⟨reading, answered, holds⟩ := holds_of_load loads
  exact (holds.wellFormed answered).nodup_order

theorem exists_load_iff :
    (∃ graph, load tree settings path = .ok graph) ↔
      ∃ start, tree.resolve path = .ok start ∧ tree.Loadable settings start := by
  constructor
  · rintro ⟨graph, loads⟩
    obtain ⟨start, directories, found, loaded⟩ := exists_loadedFrom loads
    exact ⟨start, found, loaded.loadable (nodup_order_of_load loads)⟩
  · rintro ⟨start, found, loadable⟩
    have nothingKnown : KnownReached tree settings start ∅ :=
      ⟨by simp [KnownDeclared], by simp⟩
    obtain ⟨urn, reading, answered, _⟩ :=
      loadable.exists_visited nothingKnown ⟨start, found, .refl⟩
    exact ⟨_, load_eq_ok_iff.mpr ⟨urn, reading, answered, rfl⟩⟩

/-- Loading comes to an end on whatever imports there are. It succeeds exactly
if the path leads to a directory from which only readable ones can be reached,
no two of them under one urn. The modules that it loads come from these
directories, each from its own, in depth along the imports and then the
implementations of each. Every path that a module lists has an entry, in its
place, in the import list. -/
theorem load_exact (tree : FileTree) (settings : Settings) (path : String) :
    ((∃ graph, load tree settings path = .ok graph) ↔
      ∃ start, tree.resolve path = .ok start ∧ tree.Loadable settings start) ∧
    ∀ graph, load tree settings path = .ok graph →
      ∃ start directories, tree.resolve path = .ok start ∧
        LoadedFrom tree settings start directories graph ∧ directories.Nodup ∧
        (∀ directory, directory ∈ directories ↔ tree.Reached settings start directory) ∧
        directories.length ≤ tree.locations.length := by
  refine ⟨exists_load_iff, ?_⟩
  intro graph loads
  obtain ⟨start, directories, found, loaded⟩ := exists_loadedFrom loads
  refine ⟨start, directories, found, loaded, loaded.depthFirst.nodup,
    fun _ => loaded.depthFirst.mem_iff, ?_⟩
  apply loaded.depthFirst.nodup.length_le_of_subset
  intro directory member
  exact FileTree.Reached.mem_locations (loaded.depthFirst.mem_iff.mp member)
    (FileTree.resolve_mem_locations found)

end ModuleGraph

end Walks

namespace Sample

/-- The library is read before the base, which the application would reach last,
and neither the way back to the application nor the detour to the base is gone
again. -/
theorem fileTree_in_depth :
    ∃ graph, ModuleGraph.load fileTree .standard "/app" = .ok graph ∧
      ModuleGraph.LoadedFrom fileTree .standard ["app"] [["app"], ["lib"], ["base"]] graph := by
  obtain ⟨reading, walked, _⟩ := walk_fileTree
  obtain ⟨graph, loads⟩ : ∃ graph, ModuleGraph.load fileTree .standard "/app" = .ok graph :=
    ⟨_, ModuleGraph.load_eq_ok_iff.mpr ⟨_, _, visited_eq_ok_iff_walk.mpr walked, rfl⟩⟩
  obtain ⟨_, loadedFrom⟩ := ModuleGraph.load_exact fileTree .standard "/app"
  obtain ⟨start, directories, found, loaded, _⟩ := loadedFrom graph loads
  have atApp : fileTree.resolve "/app" = .ok ["app"] := toOption_eq_some_iff.mp (by decide +kernel)
  obtain rfl : ["app"] = start := Except.ok.inj (atApp.symm.trans found)
  have inDepth : IsDepthFirst (fileTree.importsOf .standard) ["app"]
      [["app"], ["lib"], ["base"]] := by decide +kernel
  rw [inDepth.unique loaded.depthFirst]
  exact ⟨graph, loads, loaded⟩

end Sample

end Traceability

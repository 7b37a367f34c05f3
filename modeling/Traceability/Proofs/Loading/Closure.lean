import Mathlib.Logic.Relation
import Traceability.Proofs.Loading.Walk

/-!
Contract: what a walk leaves is closed.

A walk enters a module under its urn when it is reached, and its imports when
they have been walked. Half of a module is therefore known while its imports
are, and a cycle that leads back to it ends there. What is known after a walk
is what was known before and what has been read, no urn twice; it includes all
that is imported, and all that has been read is reached by imports.

Owns: what every walk preserves.
Does not own: graphs, and the order of a walk.
-/

namespace Traceability

theorem Document.Requirements.urn_of_toModule [PatternEngine]
    {document : Document.Requirements} {module : Module}
    (resolved : document.toModule = .ok module) : module.urn = document.urn := by
  simp only [toModule, bind_eq_ok_iff] at resolved
  obtain ⟨requirements, _, filters, _, whole⟩ := resolved
  cases whole
  rfl

/-- A module is what its documents declare, under the urn that they declare. -/
theorem FileTree.urn_of_readModule [YamlReader] [PatternEngine] {tree : FileTree}
    {settings : Settings} {directory : Location} {document : Document.Requirements}
    {module : Module}
    (read : tree.readModule settings directory document = .ok module) :
    module.urn = document.urn := by
  simp only [readModule, bind_eq_ok_iff, mapError_eq_ok_iff] at read
  obtain ⟨bare, resolved, cases, _, results, _, annotations, _, testRun, _, whole⟩ := read
  cases whole
  show bare.urn = document.urn
  exact Document.Requirements.urn_of_toModule resolved

theorem knownUrn_insert_iff {known : Std.ExtTreeMap Location String} {directory : Location}
    {urn other : String} (unknown : known[directory]? = none) :
    KnownUrn (known.insert directory urn) other ↔ urn = other ∨ KnownUrn known other := by
  simp only [KnownUrn, getElem?_insert_eq_some_iff unknown, exists_or]
  simp

variable [PatternEngine]

/-- The urns of the modules that have been read, in order. -/
def Reading.urns (reading : Reading) : List String :=
  reading.modules.map fun entry => entry.1.urn

theorem Reading.urns_entered {known : Std.ExtTreeMap Location String} {module : Module}
    {imports : List String} {below others : Reading} :
    urns ⟨known, (module, imports) :: below.modules ++ others.modules⟩ =
      module.urn :: (below.urns ++ others.urns) := by
  simp [urns]

/-- Among the modules that have been read is one that lists the import. -/
def Reading.Imports (reading : Reading) (importer imported : String) : Prop :=
  ∃ entry ∈ reading.modules, entry.1.urn = importer ∧ imported ∈ entry.2

theorem Reading.Imports.of_below {known : Std.ExtTreeMap Location String} {module : Module}
    {imports : List String} {below others : Reading} {importer imported : String}
    (lists : below.Imports importer imported) :
    Imports ⟨known, (module, imports) :: below.modules ++ others.modules⟩ importer imported := by
  obtain ⟨entry, member, lists⟩ := lists
  exact ⟨entry, List.mem_cons_of_mem _ (List.mem_append_left _ member), lists⟩

theorem Reading.Imports.of_others {known : Std.ExtTreeMap Location String} {module : Module}
    {imports : List String} {below others : Reading} {importer imported : String}
    (lists : others.Imports importer imported) :
    Imports ⟨known, (module, imports) :: below.modules ++ others.modules⟩ importer imported := by
  obtain ⟨entry, member, lists⟩ := lists
  exact ⟨entry, List.mem_cons_of_mem _ (List.mem_append_right _ member), lists⟩

namespace Walk

variable [YamlReader] {tree : FileTree} {settings : Settings}
  {known : Std.ExtTreeMap Location String} {paths urns : List String} {reading : Reading}
  {urn : String}

/-- A walk makes known what it reads and nothing else. -/
theorem knownUrn_iff (walked : Walk tree settings known paths urns reading) :
    KnownUrn reading.known urn ↔ KnownUrn known urn ∨ urn ∈ reading.urns := by
  induction walked with
  | done => simp [Reading.urns]
  | again _ _ _ inductionHypothesis => exact inductionHypothesis
  | fresh _ unknown _ _ readModule _ _ belowHypothesis othersHypothesis =>
    rw [othersHypothesis, belowHypothesis, knownUrn_insert_iff unknown, Reading.urns_entered,
      FileTree.urn_of_readModule readModule, List.mem_cons, List.mem_append, eq_comm (a := urn)]
    grind

/-- The paths lead to modules that are known afterwards. -/
theorem knownUrn_of_mem (walked : Walk tree settings known paths urns reading)
    (member : urn ∈ urns) : KnownUrn reading.known urn := by
  induction walked with
  | done => cases member
  | again found isKnown others inductionHypothesis =>
    rcases List.mem_cons.mp member with rfl | later
    · exact others.knownUrn_iff.mpr (Or.inl ⟨_, isKnown⟩)
    · exact inductionHypothesis later
  | fresh _ unknown _ _ _ below others _ othersHypothesis =>
    rcases List.mem_cons.mp member with rfl | later
    · apply others.knownUrn_iff.mpr
      apply Or.inl
      apply below.knownUrn_iff.mpr
      exact Or.inl ((knownUrn_insert_iff unknown).mpr (Or.inl rfl))
    · exact othersHypothesis later

/-- All that is imported is known. -/
theorem knownUrn_of_imports (walked : Walk tree settings known paths urns reading)
    {importer imported : String} (imports : reading.Imports importer imported) :
    KnownUrn reading.known imported := by
  obtain ⟨entry, member, -, listed⟩ := imports
  induction walked with
  | done => cases member
  | again _ _ _ inductionHypothesis => exact inductionHypothesis member
  | fresh _ _ _ _ _ below others belowHypothesis othersHypothesis =>
    rcases List.mem_cons.mp member with rfl | later
    · exact others.knownUrn_iff.mpr (Or.inl (below.knownUrn_of_mem listed))
    · rcases List.mem_append.mp later with ofBelow | ofOthers
      · exact others.knownUrn_iff.mpr (Or.inl (belowHypothesis ofBelow))
      · exact othersHypothesis ofOthers

/-- No urn is read twice, or read that was known. -/
theorem nodup_urns (walked : Walk tree settings known paths urns reading) :
    reading.urns.Nodup ∧ ∀ urn ∈ reading.urns, ¬KnownUrn known urn := by
  induction walked with
  | done => simp [Reading.urns]
  | again _ _ _ inductionHypothesis => exact inductionHypothesis
  | fresh _ unknown _ free readModule below others belowHypothesis othersHypothesis =>
    obtain ⟨nodupBelow, newBelow⟩ := belowHypothesis
    obtain ⟨nodupOthers, newOthers⟩ := othersHypothesis
    -- What is read later is not known by then, so it has not been read before.
    simp only [below.knownUrn_iff, knownUrn_insert_iff unknown] at newBelow newOthers
    rw [Reading.urns_entered, FileTree.urn_of_readModule readModule]
    constructor
    · rw [List.nodup_cons, List.nodup_append]
      grind
    · intro urn member
      rcases List.mem_cons.mp member with rfl | later
      · exact free
      · rcases List.mem_append.mp later with ofBelow | ofOthers
        · exact fun isKnown => newBelow urn ofBelow (Or.inr isKnown)
        · exact fun isKnown => newOthers urn ofOthers (Or.inl (Or.inr isKnown))

/-- All that has been read is reached from where a path leads. -/
theorem reached (walked : Walk tree settings known paths urns reading) :
    ∀ urn ∈ reading.urns, ∃ start ∈ urns, Relation.ReflTransGen reading.Imports start urn := by
  induction walked with
  | done => simp [Reading.urns]
  | again _ _ _ inductionHypothesis =>
    intro urn member
    obtain ⟨start, started, reaches⟩ := inductionHypothesis urn member
    exact ⟨start, List.mem_cons_of_mem _ started, reaches⟩
  | fresh _ _ _ _ readModule _ _ belowHypothesis othersHypothesis =>
    intro urn member
    rw [Reading.urns_entered, FileTree.urn_of_readModule readModule] at member
    rcases List.mem_cons.mp member with rfl | later
    · exact ⟨_, List.mem_cons_self, .refl⟩
    · rcases List.mem_append.mp later with ofBelow | ofOthers
      · obtain ⟨first, started, reaches⟩ := belowHypothesis urn ofBelow
        refine ⟨_, List.mem_cons_self, .head (b := first) ?_ ?_⟩
        · exact ⟨_, List.mem_cons_self, FileTree.urn_of_readModule readModule, started⟩
        · exact Relation.ReflTransGen.mono (fun _ _ => Reading.Imports.of_below) first urn reaches
      · obtain ⟨start, started, reaches⟩ := othersHypothesis urn ofOthers
        refine ⟨start, List.mem_cons_of_mem _ started, ?_⟩
        exact Relation.ReflTransGen.mono (fun _ _ => Reading.Imports.of_others) start urn reaches

/-- A directory that can be read under a urn that is free begins a walk. -/
theorem exists_fresh (path : String) (directory : Location) {urn : String}
    {pathsBelow imports : List String} {below others : Reading}
    (found : tree.resolve path = .ok directory) (unknown : known[directory]? = none)
    (free : ¬KnownUrn known urn)
    (reads : (tree.readRequirements settings directory).toOption.any fun document =>
      document.urn = urn ∧ document.importPaths.map (joinPath directory.path) = pathsBelow ∧
        (tree.readModule settings directory document).toOption.isSome)
    (walkedBelow : Walk tree settings (known.insert directory urn) pathsBelow imports below)
    (walkedOthers : Walk tree settings below.known paths urns others) :
    ∃ module, module.urn = urn ∧ Walk tree settings known (path :: paths) (urn :: urns)
      ⟨others.known, (module, imports) :: below.modules ++ others.modules⟩ := by
  obtain ⟨document, read, checked⟩ := any_toOption_iff.mp reads
  obtain ⟨rfl, rfl, readsModule⟩ := of_decide_eq_true checked
  obtain ⟨module, readModule⟩ := Option.isSome_iff_exists.mp readsModule
  have readModule := toOption_eq_some_iff.mp readModule
  exact ⟨module, FileTree.urn_of_readModule readModule,
    .fresh found unknown read free readModule walkedBelow walkedOthers⟩

end Walk

end Traceability

import Traceability.Loading
import Traceability.Proofs.Collections

/-!
Contract: what a successful reading of modules does, step by step.

A walk takes the directories that paths lead to one after the other. One that
has been read gives its urn. One that has not is read and entered under its urn,
which nothing known has; then its imports are walked, and only then the paths
that are left. Reading modules succeeds exactly where there is a walk.

Owns: walks, and their equality with the program.
Does not own: what holds after a walk.
-/

namespace Traceability

/-- A directory is known under the urn. -/
def KnownUrn (known : Std.ExtTreeMap Location String) (urn : String) : Prop :=
  ∃ directory : Location, known[directory]? = some urn

theorem find?_urn_eq_none_iff {known : Std.ExtTreeMap Location String} {urn : String} :
    (known.toList.find? fun entry => entry.2 = urn) = none ↔ ¬KnownUrn known urn := by
  simp only [List.find?_eq_none, Prod.forall, Std.ExtTreeMap.mem_toList_iff_getElem?_eq_some,
    decide_eq_true_eq, KnownUrn]
  constructor
  · rintro noEntry ⟨directory, isKnown⟩
    exact noEntry directory urn isKnown rfl
  · rintro unknown directory other isKnown rfl
    exact unknown ⟨directory, isKnown⟩

variable [YamlReader] [PatternEngine]

/-- From what is known, the paths lead to modules of the given urns, and the
modules that are not known yet have been read. -/
inductive Walk (tree : FileTree) (settings : Settings) :
    Std.ExtTreeMap Location String → List String → List String → Reading → Prop where
  | done {known : Std.ExtTreeMap Location String} : Walk tree settings known [] [] ⟨known, []⟩
  | again {known : Std.ExtTreeMap Location String} {path urn : String} {directory : Location}
      {paths urns : List String} {reading : Reading} :
      tree.resolve path = .ok directory → known[directory]? = some urn →
        Walk tree settings known paths urns reading →
          Walk tree settings known (path :: paths) (urn :: urns) reading
  | fresh {known : Std.ExtTreeMap Location String} {path : String} {directory : Location}
      {document : Document.Requirements} {module : Module} {paths imports urns : List String}
      {below others : Reading} :
      tree.resolve path = .ok directory → known[directory]? = none →
        tree.readRequirements settings directory = .ok document → ¬KnownUrn known document.urn →
          tree.readModule settings directory document = .ok module →
            Walk tree settings (known.insert directory document.urn)
              (document.importPaths.map (joinPath directory.path)) imports below →
              Walk tree settings below.known paths urns others →
                Walk tree settings known (path :: paths) (document.urn :: urns)
                  ⟨others.known, (module, imports) :: below.modules ++ others.modules⟩

variable {tree : FileTree} {settings : Settings} {known : Std.ExtTreeMap Location String}
  {path : String} {paths : List String} {directory : Location}

/-! ### The program without its bounds -/

/-- What `visit` answers. -/
def visited (tree : FileTree) (settings : Settings) (known : Std.ExtTreeMap Location String)
    (path : String) : Except LoadError (String × Reading) :=
  (visit tree settings known path).map Subtype.val

/-- What `visitAll` answers. -/
def visitedAll (tree : FileTree) (settings : Settings) (known : Std.ExtTreeMap Location String)
    (paths : List String) : Except LoadError (List String × Reading) :=
  (visitAll tree settings known paths).map Subtype.val

theorem visited_of_unresolved {cause : FileError} (unresolved : tree.resolve path = .error cause) :
    visited tree settings known path = .error (.file path cause) := by
  unfold visited
  rw [visit]
  split
  next other found =>
    cases unresolved.symm.trans found
    rfl
  next other found => cases unresolved.symm.trans found

theorem visited_of_known {urn : String} (found : tree.resolve path = .ok directory)
    (isKnown : known[directory]? = some urn) :
    visited tree settings known path = .ok (urn, ⟨known, []⟩) := by
  unfold visited
  rw [visit]
  split
  next cause unresolved => cases found.symm.trans unresolved
  next other foundOther =>
    cases found.symm.trans foundOther
    split
    next other isKnownOther =>
      cases isKnown.symm.trans isKnownOther
      rfl
    next unknown => cases isKnown.symm.trans unknown

theorem visited_of_unknown (found : tree.resolve path = .ok directory)
    (unknown : known[directory]? = none) :
    visited tree settings known path = (do
      let document ← tree.readRequirements settings directory
      match known.toList.find? fun entry => entry.2 = document.urn with
      | some (first, _) => throw (.duplicateUrn document.urn first.path directory.path)
      | none =>
          let module ← tree.readModule settings directory document
          let (imports, reading) ← visitedAll tree settings (known.insert directory document.urn)
            (document.importPaths.map (joinPath directory.path))
          return (document.urn, ⟨reading.known, (module, imports) :: reading.modules⟩)) := by
  unfold visited visitedAll
  rw [visit]
  split
  next cause unresolved => cases found.symm.trans unresolved
  next other foundOther =>
    cases found.symm.trans foundOther
    split
    next urn isKnown => cases unknown.symm.trans isKnown
    next =>
      cases tree.readRequirements settings directory with
      | error failure => rfl
      | ok document =>
        simp only [bind, Except.bind]
        cases known.toList.find? fun entry => entry.2 = document.urn with
        | some first => rfl
        | none =>
          cases tree.readModule settings directory document with
          | error failure => rfl
          | ok module =>
            simp only
            cases visitAll tree settings (known.insert directory document.urn)
              (document.importPaths.map (joinPath directory.path)) with
            | error failure => rfl
            | ok below => rfl

theorem visitedAll_nil : visitedAll tree settings known [] = .ok ([], ⟨known, []⟩) := by
  unfold visitedAll
  rw [visitAll]
  rfl

theorem visitedAll_cons :
    visitedAll tree settings known (path :: paths) = (do
      let (urn, first) ← visited tree settings known path
      let (urns, others) ← visitedAll tree settings first.known paths
      return (urn :: urns, ⟨others.known, first.modules ++ others.modules⟩)) := by
  unfold visitedAll visited
  rw [visitAll]
  cases visit tree settings known path with
  | error failure => rfl
  | ok first =>
    obtain ⟨⟨urn, first⟩, bound⟩ := first
    simp only [bind, Except.bind, Except.map]
    cases visitAll tree settings first.known paths with
    | error failure => rfl
    | ok others => rfl

/-! ### What success takes -/

theorem exists_visit_iff {urn : String} {reading : Reading} :
    (∃ bound, visit tree settings known path = .ok ⟨(urn, reading), bound⟩) ↔
      visited tree settings known path = .ok (urn, reading) := by
  unfold visited
  cases visit tree settings known path with
  | error failure => simp [Except.map]
  | ok answer =>
    obtain ⟨answer, bound⟩ := answer
    simp only [Except.map, Except.ok.injEq, Subtype.mk.injEq]
    constructor
    · rintro ⟨-, same⟩
      exact same
    · rintro rfl
      exact ⟨bound, rfl⟩

/-- The module at a path is there if its directory is known, or if it can be
read under a urn that is free and so can all that it imports. -/
theorem visited_eq_ok_iff {urn : String} {reading : Reading} :
    visited tree settings known path = .ok (urn, reading) ↔
      ∃ directory, tree.resolve path = .ok directory ∧
        (known[directory]? = some urn ∧ reading = ⟨known, []⟩ ∨
          known[directory]? = none ∧ ∃ document module imports below,
            tree.readRequirements settings directory = .ok document ∧
            ¬KnownUrn known document.urn ∧
            tree.readModule settings directory document = .ok module ∧
            visitedAll tree settings (known.insert directory document.urn)
              (document.importPaths.map (joinPath directory.path)) = .ok (imports, below) ∧
            urn = document.urn ∧
            reading = ⟨below.known, (module, imports) :: below.modules⟩) := by
  cases found : tree.resolve path with
  | error cause => simp [visited_of_unresolved found]
  | ok directory =>
    simp only [Except.ok.injEq, exists_eq_left']
    cases isKnown : known[directory]? with
    | some other =>
      rw [visited_of_known found isKnown]
      simp [eq_comm]
    | none =>
      rw [visited_of_unknown found isKnown]
      simp only [bind_eq_ok_iff, reduceCtorEq, false_and, true_and, false_or]
      constructor
      · rintro ⟨document, read, ran⟩
        split at ran
        next => cases ran
        next free =>
          simp only [bind_eq_ok_iff] at ran
          obtain ⟨module, readModule, ⟨imports, below⟩, walked, answer⟩ := ran
          cases answer
          exact ⟨document, module, imports, below, read, find?_urn_eq_none_iff.mp free, readModule,
            walked, rfl, rfl⟩
      · rintro ⟨document, module, imports, below, read, free, readModule, walked, rfl, rfl⟩
        refine ⟨document, read, ?_⟩
        rw [find?_urn_eq_none_iff.mpr free]
        simp only [bind_eq_ok_iff]
        exact ⟨module, readModule, (imports, below), walked, rfl⟩

theorem visitedAll_cons_eq_ok_iff {urns : List String} {reading : Reading} :
    visitedAll tree settings known (path :: paths) = .ok (urns, reading) ↔
      ∃ urn first rest others, visited tree settings known path = .ok (urn, first) ∧
        visitedAll tree settings first.known paths = .ok (rest, others) ∧ urns = urn :: rest ∧
        reading = ⟨others.known, first.modules ++ others.modules⟩ := by
  simp only [visitedAll_cons, bind_eq_ok_iff, Prod.exists]
  constructor
  · rintro ⟨urn, first, visitedFirst, rest, others, visitedOthers, answer⟩
    cases answer
    exact ⟨urn, first, rest, others, visitedFirst, visitedOthers, rfl, rfl⟩
  · rintro ⟨urn, first, rest, others, visitedFirst, visitedOthers, rfl, rfl⟩
    exact ⟨urn, first, visitedFirst, rest, others, visitedOthers, rfl⟩

/-! ### Walks -/

/-- Reading modules finds a walk. -/
theorem Walk.of_visitedAll {urns : List String} {reading : Reading}
    (read : visitedAll tree settings known paths = .ok (urns, reading)) :
    Walk tree settings known paths urns reading := by
  -- What a single path leads to can only be told with the paths that follow it:
  -- it begins a walk wherever one goes on from there.
  refine visitAll.induct tree
    (fun known path => ∀ urn first, visited tree settings known path = .ok (urn, first) →
      ∀ paths urns others, Walk tree settings first.known paths urns others →
        Walk tree settings known (path :: paths) (urn :: urns)
          ⟨others.known, first.modules ++ others.modules⟩)
    (fun known paths => ∀ urns reading,
      visitedAll tree settings known paths = .ok (urns, reading) →
        Walk tree settings known paths urns reading)
    ?unresolved ?known ?unknown ?nil ?cons known paths urns reading read
  case unresolved =>
    intro known path cause unresolved urn first answered
    cases (visited_of_unresolved unresolved).symm.trans answered
  case known =>
    intro known path directory found other isKnown urn first answered paths urns others walked
    cases (visited_of_known found isKnown).symm.trans answered
    exact .again found isKnown walked
  case unknown =>
    intro known path directory found unknown below urn first answered paths urns others walked
    obtain ⟨directory, foundAgain, ⟨isKnown, -⟩ | ⟨-, document, module, imports, reached, read,
      free, readModule, readBelow, rfl, rfl⟩⟩ := visited_eq_ok_iff.mp answered
    · cases found.symm.trans foundAgain
      cases unknown.symm.trans isKnown
    · cases found.symm.trans foundAgain
      exact .fresh found unknown read free readModule (below document imports reached readBelow)
        walked
  case nil =>
    intro known urns reading answered
    cases visitedAll_nil.symm.trans answered
    exact .done
  case cons =>
    intro known path paths beginsWalk walksOn urns reading answered
    obtain ⟨urn, first, rest, others, answeredFirst, answeredOthers, rfl, rfl⟩ :=
      visitedAll_cons_eq_ok_iff.mp answered
    obtain ⟨bound, -⟩ := exists_visit_iff.mpr answeredFirst
    exact beginsWalk urn first answeredFirst paths rest others
      (walksOn urn first bound rest others answeredOthers)

/-- Every walk is one that reading modules finds. -/
theorem Walk.visitedAll_eq {urns : List String} {reading : Reading}
    (walked : Walk tree settings known paths urns reading) :
    visitedAll tree settings known paths = .ok (urns, reading) := by
  induction walked with
  | done => exact visitedAll_nil
  | again found isKnown _ inductionHypothesis =>
    exact visitedAll_cons_eq_ok_iff.mpr
      ⟨_, _, _, _, visited_of_known found isKnown, inductionHypothesis, rfl, rfl⟩
  | fresh found unknown read free readModule _ _ belowHypothesis othersHypothesis =>
    refine visitedAll_cons_eq_ok_iff.mpr ⟨_, _, _, _, visited_eq_ok_iff.mpr ⟨_, found, .inr
      ⟨unknown, _, _, _, _, read, free, readModule, belowHypothesis, rfl, rfl⟩⟩, ?_, rfl, rfl⟩
    exact othersHypothesis

theorem visitedAll_eq_ok_iff {urns : List String} {reading : Reading} :
    visitedAll tree settings known paths = .ok (urns, reading) ↔
      Walk tree settings known paths urns reading :=
  ⟨Walk.of_visitedAll, Walk.visitedAll_eq⟩

theorem visited_eq_ok_iff_walk {urn : String} {reading : Reading} :
    visited tree settings known path = .ok (urn, reading) ↔
      Walk tree settings known [path] [urn] reading := by
  rw [← visitedAll_eq_ok_iff, visitedAll_cons_eq_ok_iff]
  constructor
  · intro answered
    exact ⟨urn, reading, [], ⟨reading.known, []⟩, answered, visitedAll_nil, rfl, by simp⟩
  · rintro ⟨_, first, rest, others, answered, answeredNone, sameUrns, rfl⟩
    cases sameUrns
    cases visitedAll_nil.symm.trans answeredNone
    simpa using answered

/-- The graph that is loaded holds the modules that the path leads to. -/
theorem ModuleGraph.load_eq_ok_iff {graph : ModuleGraph} :
    load tree settings path = .ok graph ↔
      ∃ urn reading, visited tree settings ∅ path = .ok (urn, reading) ∧
        reading.modules.foldl (fun graph entry => graph.insert entry.1 entry.2) (.empty urn) =
          graph := by
  simp only [load, bind_eq_ok_iff, ← exists_visit_iff]
  constructor
  · rintro ⟨⟨⟨urn, reading⟩, bound⟩, answered, answer⟩
    exact ⟨urn, reading, ⟨bound, answered⟩, Except.ok.inj answer⟩
  · rintro ⟨urn, reading, ⟨bound, answered⟩, rfl⟩
    exact ⟨_, answered, rfl⟩

end Traceability

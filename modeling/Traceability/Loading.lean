import Traceability.Document.Automation
import Traceability.Document.Requirements
import Traceability.Document.Verification
import Traceability.FileTree
import Traceability.Settings

/-!
Contract: reading a module and all that it imports.

Modules are read in depth, each when it is first reached: its own documents
come before those of the modules it imports, which are taken in the order in
which it lists them. A directory is read once, however many paths lead to it,
and two directories never declare one urn. Import cycles are no obstacle. Texts
are read as YAML by any reader of it.

Owns: which files are read, in which order, and what can go wrong.
Does not own: whether the imports make sense.
-/

namespace Traceability

inductive LoadError where
  | file (path : String) (cause : FileError)
  /-- The file is no document of its kind. -/
  | malformed (path : String)
  | document (path : String) (cause : Document.Error)
  | duplicateUrn (urn first second : String)
deriving DecidableEq, Repr

def LoadError.message : LoadError → String
  | .file path cause => s!"failed to read {path}: {cause.message}"
  | .malformed path => s!"failed to parse {path}"
  | .document path cause => s!"invalid document {path}: {cause.message}"
  | .duplicateUrn urn first second =>
      s!"module '{urn}' is declared in both {first} and {second}"

/-- The error with its paths written in another way. -/
def LoadError.mapPaths (change : String → String) : LoadError → LoadError
  | .file path cause => .file (change path) cause
  | .malformed path => .malformed (change path)
  | .document path cause => .document (change path) cause
  | .duplicateUrn urn first second => .duplicateUrn urn (change first) (change second)

namespace FileTree

section Documents

variable [YamlReader]

/-- Reads a document of the kind that `ofNode?` accepts. -/
def readDocument {α : Type} (tree : FileTree) (path : String) (ofNode? : Yaml.Node → Option α) :
    Except LoadError α := do
  let content ← (tree.read path).mapError (.file path)
  match (YamlReader.document? content).bind ofNode? with
  | some document => return document
  | none => throw (.malformed path)

/-- Reads a document that need not be there, and makes records of it. -/
def readOptional {α β : Type} (tree : FileTree) (path : String) (ofNode? : Yaml.Node → Option α)
    (resolve : α → Except Document.Error β) : Except LoadError (Option β) := do
  if !tree.isFile path then return none
  let document ← tree.readDocument path ofNode?
  some <$> (resolve document).mapError (.document path)

/-- Reads the requirements document in a directory. -/
def readRequirements (tree : FileTree) (settings : Settings) (directory : Location) :
    Except LoadError Document.Requirements :=
  tree.readDocument (joinPath directory.path settings.requirementsFile)
    Document.Requirements.ofNode?

variable [PatternEngine]

/-- The module in a directory, whose requirements document has been read. -/
def readModule (tree : FileTree) (settings : Settings) (directory : Location)
    (document : Document.Requirements) : Except LoadError Module := do
  let inside (file : String) : String := joinPath directory.path file
  let urn := document.urn
  let module ← document.toModule.mapError (.document (inside settings.requirementsFile))
  let caseDocument ← tree.readOptional (inside settings.casesFile)
    Document.Cases.ofNode? (·.resolve urn)
  let results ← tree.readOptional (inside settings.resultsFile)
    Document.Results.ofNode? (·.resolve urn)
  let annotations ← tree.readOptional (inside settings.annotationsFile)
    Document.Annotations.ofNode? (·.resolve urn)
  let testRun ← tree.readOptional (inside settings.testRunFile)
    Document.Tests.ofNode? fun tests => .ok (tests.resolve urn)
  return { module with
    caseDocument := caseDocument
    results := results
    annotations := annotations
    testRun := testRun }

end Documents

/-- The locations that have not been read. -/
def unread (tree : FileTree) (known : Std.ExtTreeMap Location String) : List Location :=
  tree.locations.filter fun location => !known.contains location

/-- Reading a location leaves fewer to read. -/
theorem length_unread_insert {tree : FileTree} {known : Std.ExtTreeMap Location String}
    {location : Location} {urn : String} (present : location ∈ tree.locations)
    (fresh : known[location]? = none) :
    (tree.unread (known.insert location urn)).length < (tree.unread known).length := by
  have split : tree.unread (known.insert location urn) =
      (tree.unread known).filter fun other => !(location == other) := by
    simp only [unread, List.filter_filter]
    congr 1
    funext other
    have decided : (compare location other == Ordering.eq) = (location == other) := by
      rw [Bool.eq_iff_iff]
      simp
    simp [Std.ExtTreeMap.contains_insert, decided]
  rw [split, List.length_filter_lt_length_iff_exists]
  refine ⟨location, ?_, by simp⟩
  have absent : known.contains location = false :=
    Std.ExtTreeMap.contains_eq_isSome_getElem?.trans (by simp [fresh])
  simp [unread, List.mem_filter, present, absent]

end FileTree

variable [YamlReader] [PatternEngine]

/-- What has been read so far: the urn of each directory that has been, and the
modules with the urns they import, in the order in which they were reached. -/
structure Reading where
  known : Std.ExtTreeMap Location String
  modules : List (Module × List String)

/-- A reading that leaves no more to read than `known` does, with an answer. -/
abbrev Progress (tree : FileTree) (known : Std.ExtTreeMap Location String) (α : Type) :=
  { result : α × Reading // (tree.unread result.2.known).length ≤ (tree.unread known).length }

mutual

/-- Reads the module at a path unless its directory has been read. The answer
is its urn; the modules are those that this call has reached. -/
def visit (tree : FileTree) (settings : Settings) (known : Std.ExtTreeMap Location String)
    (path : String) : Except LoadError (Progress tree known String) :=
  match found : tree.resolve path with
  | .error cause => .error (.file path cause)
  | .ok directory =>
      match unknown : known[directory]? with
      | some urn => .ok ⟨(urn, ⟨known, []⟩), Nat.le_refl _⟩
      | none => do
          let document ← tree.readRequirements settings directory
          match known.toList.find? fun entry => entry.2 = document.urn with
          | some (first, _) => throw (.duplicateUrn document.urn first.path directory.path)
          | none =>
              let module ← tree.readModule settings directory document
              have fewer := FileTree.length_unread_insert
                (FileTree.resolve_mem_locations found) unknown
              let ⟨(imports, reading), bound⟩ ←
                visitAll tree settings (known.insert directory document.urn)
                  (document.importPaths.map (joinPath directory.path))
              return ⟨(document.urn, ⟨reading.known, (module, imports) :: reading.modules⟩),
                Nat.le_trans bound (Nat.le_of_lt fewer)⟩
termination_by ((tree.unread known).length, 0)
decreasing_by exact Prod.Lex.left _ _ fewer

/-- Reads the modules at several paths, one after the other. -/
def visitAll (tree : FileTree) (settings : Settings) (known : Std.ExtTreeMap Location String)
    (paths : List String) : Except LoadError (Progress tree known (List String)) :=
  match paths with
  | [] => .ok ⟨([], ⟨known, []⟩), Nat.le_refl _⟩
  | path :: paths => do
      let ⟨(urn, first), firstBound⟩ ← visit tree settings known path
      let ⟨(urns, others), otherBound⟩ ← visitAll tree settings first.known paths
      return ⟨(urn :: urns, ⟨others.known, first.modules ++ others.modules⟩),
        Nat.le_trans otherBound firstBound⟩
termination_by ((tree.unread known).length, paths.length + 1)

decreasing_by
  · exact Prod.Lex.right _ (Nat.succ_pos _)
  · rcases Nat.lt_or_eq_of_le firstBound with fewer | same
    · exact Prod.Lex.left _ _ fewer
    · exact same ▸ Prod.Lex.right _ (Nat.lt_succ_self _)

end

/-- Reads the module at an absolute path and all that it imports. -/
def ModuleGraph.load (tree : FileTree) (settings : Settings) (path : String) :
    Except LoadError ModuleGraph := do
  let ⟨(urn, reading), _⟩ ← visit tree settings ∅ path
  return reading.modules.foldl (fun graph entry => graph.insert entry.1 entry.2) (.empty urn)

end Traceability

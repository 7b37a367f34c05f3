import Std.Data.ExtTreeMap

/-!
Contract: files and directories, and the paths that lead to them.

A path is followed from the root, one name after the other; `..` leads back to
the directory above, and every name but the last must lead to a directory. An
empty name, as after a final slash, leads nowhere else but asks for a directory.

Owns: the tree, following a path, reading a text.
Does not own: what files are for.
-/

namespace Traceability

/-- The names that lead from the root to a file or directory, without `.` or
`..` among them. -/
abbrev Location := List String

namespace Location

/-- The path of a location. -/
def path (location : Location) : String := "/" ++ "/".intercalate location

end Location

/-- The path of `path` as seen from the directory `base`. -/
def joinPath (base path : String) : String :=
  if path.startsWith "/" then path
  else if base.isEmpty || base.endsWith "/" then base ++ path
  else base ++ "/" ++ path

/-- The names of a path. `name` is the one being read, backwards. -/
def splitPath (name : List Char) : List Char → List String
  | [] => [String.ofList name.reverse]
  | '/' :: rest => String.ofList name.reverse :: splitPath [] rest
  | c :: rest => splitPath (c :: name) rest

/-- Why a path leads to nothing that can be read. -/
inductive FileError where
  | notFound
  | notADirectory
  | isADirectory
  /-- The file is no text in UTF-8. -/
  | notText
deriving DecidableEq, Repr

def FileError.message : FileError → String
  | .notFound => "no such file or directory"
  | .notADirectory => "not a directory"
  | .isADirectory => "is a directory"
  | .notText => "not a text in UTF-8"

inductive FileTree.Entry where
  | directory
  | text (content : String)
  /-- A file that is no text in UTF-8. -/
  | binary
deriving DecidableEq, Repr

/-- Everything below the root, which is a directory itself. -/
structure FileTree where
  entries : Std.ExtTreeMap Location FileTree.Entry
deriving DecidableEq

namespace FileTree

def empty : FileTree := ⟨∅⟩

def find? (tree : FileTree) (location : Location) : Option Entry :=
  if location = [] then some .directory else tree.entries[location]?

/-- Makes a directory, and those above it that are not there. -/
def addDirectory (tree : FileTree) (location : Location) : FileTree :=
  ⟨(List.range location.length).foldl (fun entries depth =>
    entries.insertIfNew (location.take (depth + 1)) .directory) tree.entries⟩

/-- Puts an entry at a location, in directories that are made if need be. -/
def add (tree : FileTree) (location : Location) (entry : Entry) : FileTree :=
  ⟨(tree.addDirectory location.dropLast).entries.insert location entry⟩

/-- All locations that lead to something. -/
def locations (tree : FileTree) : List Location := [] :: tree.entries.keys

/-- Follows names from a location. -/
def follow (tree : FileTree) (here : Location) : List String → Except FileError Location
  | [] => if (tree.find? here).isSome then .ok here else .error .notFound
  | name :: names =>
      match tree.find? here with
      | none => .error .notFound
      | some .directory =>
          if name = "" ∨ name = "." then tree.follow here names
          else if name = ".." then tree.follow here.dropLast names
          else tree.follow (here ++ [name]) names
      | some _ => .error .notADirectory

/-- The location that an absolute path leads to. -/
def resolve (tree : FileTree) (path : String) : Except FileError Location :=
  tree.follow [] (splitPath [] path.toList)

/-- The text at a path. -/
def read (tree : FileTree) (path : String) : Except FileError String := do
  match tree.find? (← tree.resolve path) with
  | some (.text content) => return content
  | some .directory => throw .isADirectory
  | some .binary => throw .notText
  | none => throw .notFound

/-- Whether a path leads to a file. -/
def isFile (tree : FileTree) (path : String) : Bool :=
  match tree.resolve path with
  | .error _ => false
  | .ok location =>
      match tree.find? location with
      | some (.text _) | some .binary => true
      | some .directory | none => false

theorem mem_locations_of_find? {tree : FileTree} {location : Location}
    (present : (tree.find? location).isSome) : location ∈ tree.locations := by
  by_cases atRoot : location = []
  · simp [locations, atRoot]
  · simp only [find?, atRoot, if_false] at present
    simp only [locations, List.mem_cons, Std.ExtTreeMap.mem_keys]
    exact .inr (Std.ExtTreeMap.mem_iff_isSome_getElem?.2 present)

theorem follow_mem_locations {tree : FileTree} {here there : Location} {names : List String}
    (found : tree.follow here names = .ok there) : there ∈ tree.locations := by
  fun_induction tree.follow here names with
  | case1 here present => cases found; exact mem_locations_of_find? present
  | case2 => cases found
  | case3 => cases found
  | case4 _ _ _ _ _ inductionHypothesis => exact inductionHypothesis found
  | case5 _ _ _ _ inductionHypothesis => exact inductionHypothesis found
  | case6 _ _ _ _ _ _ inductionHypothesis => exact inductionHypothesis found
  | case7 => cases found

/-- A path leads to a location of the tree. -/
theorem resolve_mem_locations {tree : FileTree} {path : String} {location : Location}
    (found : tree.resolve path = .ok location) : location ∈ tree.locations :=
  follow_mem_locations found

end FileTree

end Traceability

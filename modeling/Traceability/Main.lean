import Traceability.Program

/-!
Contract: the program itself.

What a request is about is first copied from the disk: the documents of the
root module, those of the modules it imports, and so on. A link counts as what
it leads to. The report is then made from the copy.

Owns: reading the disk, printing, and the exit code.
Does not own: any decision about the report.
-/

namespace Traceability.Snapshot

/-- The location that a path names if every directory in it is one. -/
def nameOf (path : String) : Location :=
  (splitPath [] path.toList).foldl (fun here name =>
    if name = "" ∨ name = "." then here
    else if name = ".." then here.dropLast
    else here ++ [name]) []

/-- Whether there is a directory at a path of the disk. -/
def isDirectory (path : String) : IO Bool := do
  try
    let real ← IO.FS.realPath path
    real.isDir
  catch _ => return false

/-- The directories that a path leads through, itself among them. -/
def stages (path : String) : List String :=
  let names := splitPath [] path.toList
  (List.range names.length).map fun count => "/".intercalate (names.take (count + 1))

/-- Copies the directories that a path leads through. -/
def copyDirectories (tree : FileTree) (path : String) : IO FileTree :=
  (stages path).foldlM (fun tree stage => do
    if ← isDirectory (stage ++ "/") then return tree.addDirectory (nameOf stage)
    else return tree) tree

/-- Copies a file, if there is one, with the directories on the way. -/
def copyFile (tree : FileTree) (path : String) : IO FileTree := do
  let tree ← copyDirectories tree path
  if ← isDirectory path then return tree
  try
    let bytes ← IO.FS.readBinFile path
    let entry := match String.fromUTF8? bytes with
      | some content => FileTree.Entry.text content
      | none => .binary
    return tree.add (nameOf path) entry
  catch _ => return tree

/-- The files of a module that are read. -/
def fileNames (settings : Settings) : List String :=
  [settings.requirementsFile, settings.casesFile, settings.resultsFile,
    settings.annotationsFile, settings.testRunFile]

/-- Copies the documents of the modules in the pending directories, and of all
that they import. -/
partial def copyModules (settings : Settings) (done : List Location) (tree : FileTree) :
    List String → IO FileTree
  | [] => return tree
  | path :: pending => do
      let tree ← copyDirectories tree path
      match tree.resolve path with
      | .error _ => copyModules settings done tree pending
      | .ok directory =>
          if done.contains directory then copyModules settings done tree pending
          else
            let tree ← (fileNames settings).foldlM (fun tree file =>
              copyFile tree (joinPath directory.path file)) tree
            let imports := match tree.readRequirements settings directory with
              | .ok document => document.importPaths
              | .error _ => []
            copyModules settings (directory :: done) tree
              (imports.map (joinPath directory.path) ++ pending)

/-- Copies all that the module in a directory depends on. -/
def ofDirectory (directory : String) : IO FileTree := do
  let tree ← copyDirectories .empty directory
  let tree ← copyFile tree (joinPath directory Settings.fileName)
  copyModules (Settings.ofDirectory tree directory) [] tree [directory]

end Traceability.Snapshot

/-- Answers the arguments in the current directory. -/
def main (arguments : List String) : IO UInt32 := do
  let base := (← IO.currentDir).toString
  let tree ← match Traceability.CommandLine.read arguments with
    | .ok request => Traceability.Snapshot.ofDirectory (Traceability.joinPath base request.root)
    | .error _ => pure .empty
  let report := Traceability.Program.run tree base arguments
  IO.print report.output
  IO.eprint report.complaint
  return report.exitCode.toUInt32

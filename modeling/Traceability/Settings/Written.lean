import Traceability.FileTree
import Traceability.Settings
import Traceability.Toml.Reader

/-!
Contract: settings as they are written.

The text is a TOML document that names its version. Everything else may be left
out, and what is not known is ignored.

Owns: reading and writing settings, and which settings a directory has.
Does not own: what the settings mean.
-/

namespace Traceability.Settings

open Traceability.Toml

/-- The version of the written form. -/
def version : String := "1"

def textOr? (entries : Entries) (key default : String) : Option String :=
  match entries.find? key with
  | none => some default
  | some (.string text) => some text
  | some _ => none

def boolOr? (entries : Entries) (key : String) (default : Bool) : Option Bool :=
  match entries.find? key with
  | none => some default
  | some (.boolean value) => some value
  | some _ => none

/-- The settings that a document holds, if its version is known. -/
def ofEntries? (entries : Entries) : Option Settings := do
  if (← textOr? entries "_version" "") ≠ version then failure
  return {
    filter := ← boolOr? entries "filter" standard.filter
    requirementsFile := ← textOr? entries "requirements_file" standard.requirementsFile
    casesFile := ← textOr? entries "svcs_file" standard.casesFile
    resultsFile := ← textOr? entries "mvrs_file" standard.resultsFile
    annotationsFile := ← textOr? entries "annotations_file" standard.annotationsFile
    testRunFile := ← textOr? entries "test_results_file" standard.testRunFile }

def ofText? (text : String) : Option Settings := (Toml.read? text).bind ofEntries?

/-- The settings as a document, every one of them given. -/
def write (settings : Settings) : String :=
  let line (key value : String) : String := key ++ " = " ++ value ++ "\n"
  line "_version" (writeText version) ++
    line "filter" (if settings.filter then "true" else "false") ++
    line "requirements_file" (writeText settings.requirementsFile) ++
    line "svcs_file" (writeText settings.casesFile) ++
    line "mvrs_file" (writeText settings.resultsFile) ++
    line "annotations_file" (writeText settings.annotationsFile) ++
    line "test_results_file" (writeText settings.testRunFile)

/-- The settings of the root module in a directory: the standard ones unless
there is a file that holds others. -/
def ofDirectory (tree : FileTree) (directory : String) : Settings :=
  match tree.read (joinPath directory fileName) with
  | .ok text => (ofText? text).getD standard
  | .error _ => standard

end Traceability.Settings

import Traceability.Document.Filter
import Traceability.Module

/-!
Contract: the document that declares a module and its requirements.

It is the only document that every module has. It names the module, the
directories of the modules it imports, and rules for what it sees of others.

Owns: its fields, and the module they make.
Does not own: where imported modules are found.
-/

namespace Traceability.Document

open Traceability.Yaml

structure RequirementEntry where
  id : String
  title : String
  significance : Significance
  description : String
  rationale : Option String
  categories : List String
  revision : String
  implementation : Implementation
deriving DecidableEq, Repr

def RequirementEntry.ofNode? (node : Node) : Option RequirementEntry := do
  let fields ← node.fields?
  return {
    id := ← fields.required? "id" Node.text?
    title := ← fields.required? "title" Node.text?
    significance := ← fields.readOr? ["significance"] Node.spelled? .shall
    description := ← fields.readOr? ["description"] Node.text? ""
    rationale := ← fields.readOr? ["rationale"] Node.optionalText? none
    categories := ← fields.readOr? ["categories"] Node.texts? []
    revision := ← fields.readOr? ["revision"] Node.text? ""
    implementation := ← fields.readOr? ["implementation"] Node.spelled? .inCode }

/-- The requirement, named from within the module `urn`. -/
def RequirementEntry.toRequirement (entry : RequirementEntry) (urn : String) :
    Except Error Requirement := do
  let id ← resolve urn entry.id
  return {
    id := id
    title := entry.title
    significance := entry.significance
    description := entry.description
    rationale := entry.rationale
    categories := .ofList entry.categories
    revision := entry.revision
    implementation := entry.implementation }

structure Requirements where
  urn : String
  variant : Variant
  title : String
  /-- Directories of imported modules. -/
  imports : List String
  /-- Directories of modules that implement this one, which it imports too. -/
  implementations : List String
  filters : UrnMap FilterEntry
  requirements : List RequirementEntry

namespace Requirements

def metadata? (node : Node) : Option (String × Variant × String) := do
  let fields ← node.fields?
  let urn ← fields.required? "urn" Node.text?
  let variant ← fields.readOr? ["variant"] Node.spelled? .system
  let title ← fields.readOr? ["title"] Node.text? ""
  return (urn, variant, title)

def ofNode? (node : Node) : Option Requirements := do
  let fields ← node.fields?
  let (urn, variant, title) ← fields.required? "metadata" metadata?
  return {
    urn := urn
    variant := variant
    title := title
    imports := ← fields.readOr? ["imports"] Node.texts? []
    implementations := ← fields.readOr? ["implementations"] Node.texts? []
    filters := ← fields.readOr? ["filters"] (Node.map? FilterEntry.ofNode?) ∅
    requirements := ← fields.readOr? ["requirements"] (Node.list? RequirementEntry.ofNode?) [] }

/-- The directories of all modules that the module imports, in order. -/
def importPaths (document : Requirements) : List String :=
  document.imports ++ document.implementations

variable [PatternEngine]

/-- The module that the document declares, without its other documents. The
requirements are looked at before the filters. -/
def toModule (document : Requirements) : Except Error Module := do
  let requirements ← document.requirements.foldlM (fun records entry => do
    let requirement ← entry.toRequirement document.urn
    insertNew records requirement.id requirement) ∅
  let filters ← FilterEntry.toRules document.filters
  return {
    urn := document.urn
    variant := document.variant
    title := document.title
    requirements := requirements
    filters := filters
    caseDocument := none
    results := none
    annotations := none
    testRun := none }

end Requirements

end Traceability.Document

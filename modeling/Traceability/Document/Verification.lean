import Traceability.Document.Filter
import Traceability.Module

/-!
Contract: the documents with the verification cases and the manual results of a
module.

Owns: their fields, and the records they make.
Does not own: whether references resolve.
-/

namespace Traceability.Document

open Traceability.Yaml

/-- The entities that `owner` refers to, of which there must be one at least. -/
def references (urn : String) (owner : Identifier) (texts : List String) :
    Except Error (NonEmptyList Identifier) := do
  let ids ← texts.mapM (resolve urn)
  match NonEmptyList.ofList? ids with
  | some ids => return ids
  | none => throw (.emptyReferences owner)

structure CaseEntry where
  id : String
  title : String
  description : Option String
  verification : VerificationKind
  instructions : Option String
  revision : String
  requirements : List String
deriving DecidableEq, Repr

def CaseEntry.ofNode? (node : Node) : Option CaseEntry := do
  let fields ← node.fields?
  return {
    id := ← fields.required? "id" Node.text?
    title := ← fields.required? "title" Node.text?
    description := ← fields.readOr? ["description"] Node.optionalText? none
    verification := ← fields.readOr? ["verification"] Node.spelled? .automatedTest
    instructions := ← fields.readOr? ["instructions"] Node.optionalText? none
    revision := ← fields.readOr? ["revision"] Node.text? ""
    requirements := ← fields.required? "requirement_ids" Node.texts? }

/-- The case, named from within the module `urn`. -/
def CaseEntry.toCase (entry : CaseEntry) (urn : String) : Except Error VerificationCase := do
  let id ← resolve urn entry.id
  let requirements ← references urn id entry.requirements
  return {
    id := id
    title := entry.title
    description := entry.description
    verification := entry.verification
    instructions := entry.instructions
    revision := entry.revision
    requirements := requirements }

structure Cases where
  filters : UrnMap FilterEntry
  cases : List CaseEntry

def Cases.ofNode? (node : Node) : Option Cases := do
  let fields ← node.fields?
  return {
    filters := ← fields.readOr? ["filters"] (Node.map? FilterEntry.ofNode?) ∅
    cases := ← fields.readOr? ["cases"] (Node.list? CaseEntry.ofNode?) [] }

/-- The records of the module `urn`. The filters are looked at before the
cases. -/
def Cases.resolve [PatternEngine] (document : Cases) (urn : String) :
    Except Error CaseDocument := do
  let filters ← FilterEntry.toRules document.filters
  let cases ← document.cases.foldlM (fun records entry => do
    let verificationCase ← entry.toCase urn
    insertNew records verificationCase.id verificationCase) ∅
  return ⟨cases, filters⟩

structure ResultEntry where
  id : String
  cases : List String
  passed : Bool
  comment : Option String
deriving DecidableEq, Repr

def ResultEntry.ofNode? (node : Node) : Option ResultEntry := do
  let fields ← node.fields?
  return {
    id := ← fields.required? "id" Node.text?
    cases := ← fields.required? "svc_ids" Node.texts?
    passed := ← fields.readOr? ["pass"] Node.bool? true
    comment := ← fields.readOr? ["comment"] Node.optionalText? none }

/-- The result, named from within the module `urn`. -/
def ResultEntry.toResult (entry : ResultEntry) (urn : String) : Except Error ManualResult := do
  let id ← resolve urn entry.id
  let cases ← references urn id entry.cases
  return ⟨id, cases, entry.passed, entry.comment⟩

structure Results where
  results : List ResultEntry
deriving DecidableEq, Repr

def Results.ofNode? (node : Node) : Option Results := do
  let fields ← node.fields?
  return ⟨← fields.readOr? ["results"] (Node.list? ResultEntry.ofNode?) []⟩

/-- The records of the module `urn`. -/
def Results.resolve (document : Results) (urn : String) :
    Except Error (IdentifierMap ManualResult) :=
  document.results.foldlM (fun records entry => do
    let result ← entry.toResult urn
    insertNew records result.id result) ∅

end Traceability.Document

import Traceability.Document.Error
import Traceability.Module
import Traceability.Yaml.Shape

/-!
Contract: the documents with the annotations and the test run of a module.

Owns: their fields, and the records they make.
Does not own: which tests an annotation stands for.
-/

namespace Traceability.Document

open Traceability.Yaml

def readAnnotation? (node : Node) : Option Annotation := do
  let fields ← node.fields?
  let kind ← fields.required? "elementKind" Node.spelled?
  let name ← fields.required? "fullyQualifiedName" Node.text?
  return ⟨kind, name⟩

/-- Annotations by the text that names what they belong to. -/
abbrev AnnotationEntries := Std.ExtTreeMap String (List Annotation)

/-- The annotations of the module `urn` under what they belong to. Texts that
name the same have their annotations joined, in the order of the texts. -/
def AnnotationEntries.resolve (entries : AnnotationEntries) (urn : String) :
    Except Error (IdentifierMap (List Annotation)) :=
  entries.toList.foldlM (fun lists (text, elements) => do
    let id ← Document.resolve urn text
    return lists.insert id ((lists[id]?).getD [] ++ elements)) ∅

structure Annotations where
  implementations : AnnotationEntries
  tests : AnnotationEntries

namespace Annotations

def entries? (node : Node) : Option AnnotationEntries :=
  node.map? (Node.list? readAnnotation?)

def groups? (node : Node) : Option Annotations := do
  let fields ← node.fields?
  return {
    implementations := ← fields.readOr? ["implementations"] entries? ∅
    tests := ← fields.readOr? ["tests"] entries? ∅ }

def ofNode? (node : Node) : Option Annotations := do
  let fields ← node.fields?
  fields.readOr? ["requirement_annotations"] groups? ⟨∅, ∅⟩

/-- The records of the module `urn`, implementations first. -/
def resolve (document : Annotations) (urn : String) : Except Error AnnotationDocument := do
  let implementations ← document.implementations.resolve urn
  let tests ← document.tests.resolve urn
  return ⟨implementations, tests⟩

end Annotations

structure Tests where
  outcomes : List TestOutcome
deriving DecidableEq, Repr

namespace Tests

def readOutcome? (node : Node) : Option TestOutcome := do
  let fields ← node.fields?
  let name ← fields.required? "fully_qualified_name" Node.text?
  let status ← fields.required? "status" Node.spelled?
  return ⟨name, status⟩

def ofNode? (node : Node) : Option Tests := do
  let fields ← node.fields?
  return ⟨← fields.readOr? ["tests"] (Node.list? readOutcome?) []⟩

/-- The run of the module `urn`. -/
def resolve (document : Tests) (urn : String) : TestRun :=
  document.outcomes.foldl (fun (run : TestRun) outcome => run.record urn outcome) ∅

end Tests

end Traceability.Document

import Traceability.Identifier
import Traceability.Record.Spelling

/-!
Contract: what code says of its traceability, and what test runs say of code.

An annotation is an element of code that implements a requirement or exercises
a case. A test run records a status for each test by its qualified name; an
annotated class stands for all the tests whose names contain its own.

Owns: annotations, recorded runs, and the status of a set of tests.
Does not own: which module an annotation belongs to.
-/

namespace Traceability

/-- Kinds of elements of code. -/
inductive ElementKind where
  | classType
  | interface
  | enumeration
  | record
  | method
  | field
  | function
deriving DecidableEq, Repr

instance : Spelled ElementKind where
  values := [.classType, .interface, .enumeration, .record, .method, .field, .function]
  spelling
    | .classType => "CLASS"
    | .interface => "INTERFACE"
    | .enumeration => "ENUM"
    | .record => "RECORD"
    | .method => "METHOD"
    | .field => "FIELD"
    | .function => "FUNCTION"

/-- An annotated element, by its fully qualified name. -/
structure Annotation where
  kind : ElementKind
  name : String
deriving DecidableEq, Repr

inductive TestStatus where
  | passed
  | failed
  | skipped
  /-- Annotated, but no run recorded it. -/
  | missing
deriving DecidableEq, Repr

instance : Spelled TestStatus where
  values := [.passed, .failed, .skipped, .missing]
  spelling
    | .passed => "passed"
    | .failed => "failed"
    | .skipped => "skipped"
    | .missing => "missing"

/-- The status of a set of tests: missing if there are none, passed if all
passed, and failed otherwise. -/
def TestStatus.aggregate (statuses : List TestStatus) : TestStatus :=
  if statuses.isEmpty then .missing
  else if statuses.all (· = .passed) then .passed
  else .failed

/-- The status of a test, by its fully qualified name. -/
structure TestOutcome where
  name : String
  status : TestStatus
deriving DecidableEq, Repr

/-- The outcomes recorded by one module, under its urn and their names. -/
abbrev TestRun := IdentifierMap TestOutcome

/-- Records an outcome for the module `urn`; of two with one name the later
counts. -/
def TestRun.record (run : TestRun) (urn : String) (outcome : TestOutcome) : TestRun :=
  run.insert ⟨urn, outcome.name⟩ outcome

/-- Whether `part` occurs in the text without a gap. -/
def isPartOf (part : List Char) : List Char → Bool
  | [] => part.isEmpty
  | c :: rest => part.isPrefixOf (c :: rest) || isPartOf part rest

/-- The outcome of an annotation of the module `urn`. A class aggregates the
tests whose names contain its own; anything else is a test of that name. -/
def Annotation.outcome (element : Annotation) (urn : String)
    (run : Option TestRun) : TestOutcome :=
  let recorded := run.getD ∅
  match element.kind with
  | .classType =>
      ⟨element.name, .aggregate ((recorded.toList.filter fun entry =>
        isPartOf element.name.toList entry.1.name.toList).map fun entry => entry.2.status)⟩
  | _ => (recorded[(⟨urn, element.name⟩ : Identifier)]?).getD ⟨element.name, .missing⟩

end Traceability

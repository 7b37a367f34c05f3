import Mathlib.Tactic.MkIffOfInductiveProp
import Traceability.Pattern.Basic
import Traceability.Proofs.Document.Collection

/-!
Contract: documents turned into the records of a module.

A document is accepted exactly if every entry of it is valid and no two entries
name the same, in whatever way they are spelled. Then nothing in it is lost: the
module has a record for each entry, a rule for each target, and all annotations.

Owns: which documents are accepted, and what is made of them.
Does not own: how a document is spelled.
-/

namespace Traceability.Document

variable {urn : String}

/-! ### Requirements -/

namespace Requirements

variable [PatternEngine] {document : Requirements} {module : Module}

@[mk_iff] structure Valid (document : Requirements) : Prop where
  ids : ∀ entry ∈ document.requirements, Resolves document.urn entry.id
  distinct : Distinct document.urn (document.requirements.map RequirementEntry.id)
  filters : FilterEntry.AllValid document.filters

/-- The module has what stands in the document, and nothing else. -/
structure Makes (document : Requirements) (module : Module) : Prop where
  urn : module.urn = document.urn
  variant : module.variant = document.variant
  title : module.title = document.title
  requirements : OneEach (RequirementEntry.Makes document.urn) Requirement.id
    document.requirements module.requirements
  filters : FilterEntry.MakesRules document.filters module.filters
  caseDocument : module.caseDocument = none
  results : module.results = none
  annotations : module.annotations = none
  testRun : module.testRun = none

theorem exists_toModule_iff : (∃ module, document.toModule = .ok module) ↔ document.Valid := by
  have records_iff :
      (∃ records, collect (fun entry => entry.toRequirement document.urn) Requirement.id
        document.requirements = .ok records) ↔
        (∀ entry ∈ document.requirements, Resolves document.urn entry.id) ∧
          Distinct document.urn (document.requirements.map RequirementEntry.id) := by
    rw [exists_collect_iff fun made => (RequirementEntry.makes_of_toRequirement made).id]
    simp only [RequirementEntry.exists_toRequirement_iff]
  rw [valid_iff, ← and_assoc, ← records_iff, ← FilterEntry.exists_toRules_iff]
  exact exists_both_iff

theorem makes_of_toModule (made : document.toModule = .ok module) : document.Makes module := by
  obtain ⟨requirements, filters, collected, ruled, rfl⟩ := both_eq_ok_iff.mp made
  have each := oneEach_of_collect RequirementEntry.makes_of_toRequirement collected
  exact ⟨rfl, rfl, rfl, each, FilterEntry.makesRules_of_toRules ruled, rfl, rfl, rfl, rfl⟩

end Requirements

/-! ### Cases -/

namespace Cases

variable [PatternEngine] {document : Cases} {records : CaseDocument}

@[mk_iff] structure Valid (document : Cases) (urn : String) : Prop where
  filters : FilterEntry.AllValid document.filters
  entries : ∀ entry ∈ document.cases,
    Resolves urn entry.id ∧ ValidReferences urn entry.requirements
  distinct : Distinct urn (document.cases.map CaseEntry.id)

structure Makes (document : Cases) (urn : String) (records : CaseDocument) : Prop where
  filters : FilterEntry.MakesRules document.filters records.filters
  cases : OneEach (CaseEntry.Makes urn) VerificationCase.id document.cases records.cases

theorem exists_resolve_iff :
    (∃ records, document.resolve urn = .ok records) ↔ document.Valid urn := by
  have records_iff :
      (∃ records, collect (fun entry => entry.toCase urn) VerificationCase.id document.cases =
        .ok records) ↔
        (∀ entry ∈ document.cases,
          Resolves urn entry.id ∧ ValidReferences urn entry.requirements) ∧
          Distinct urn (document.cases.map CaseEntry.id) := by
    rw [exists_collect_iff fun made => (CaseEntry.makes_of_toCase made).id]
    simp only [CaseEntry.exists_toCase_iff]
  rw [valid_iff, ← records_iff, ← FilterEntry.exists_toRules_iff]
  exact exists_both_iff

theorem makes_of_resolve (resolved : document.resolve urn = .ok records) :
    document.Makes urn records := by
  obtain ⟨filters, cases, ruled, collected, rfl⟩ := both_eq_ok_iff.mp resolved
  exact ⟨FilterEntry.makesRules_of_toRules ruled,
    oneEach_of_collect CaseEntry.makes_of_toCase collected⟩

end Cases

/-! ### Results -/

namespace Results

@[mk_iff] structure Valid (document : Results) (urn : String) : Prop where
  entries : ∀ entry ∈ document.results, Resolves urn entry.id ∧ ValidReferences urn entry.cases
  distinct : Distinct urn (document.results.map ResultEntry.id)

/-- The records have what stands in the document, and nothing else. -/
def Makes (document : Results) (urn : String) (records : IdentifierMap ManualResult) : Prop :=
  OneEach (ResultEntry.Makes urn) ManualResult.id document.results records

variable {document : Results} {records : IdentifierMap ManualResult}

theorem exists_resolve_iff :
    (∃ records, document.resolve urn = .ok records) ↔ document.Valid urn := by
  have collects : document.resolve urn =
      collect (fun entry => entry.toResult urn) ManualResult.id document.results := rfl
  simp only [collects]
  rw [valid_iff, exists_collect_iff fun made => (ResultEntry.makes_of_toResult made).id]
  simp only [ResultEntry.exists_toResult_iff]

theorem makes_of_resolve (resolved : document.resolve urn = .ok records) :
    document.Makes urn records :=
  oneEach_of_collect ResultEntry.makes_of_toResult resolved

end Results

/-! ### Annotations -/

namespace Annotations

@[mk_iff] structure Valid (document : Annotations) (urn : String) : Prop where
  implementations : document.implementations.Valid urn
  tests : document.tests.Valid urn

structure Makes (document : Annotations) (urn : String) (records : AnnotationDocument) : Prop where
  implementations : document.implementations.Makes urn records.implementations
  tests : document.tests.Makes urn records.tests

variable {document : Annotations} {records : AnnotationDocument}

theorem exists_resolve_iff :
    (∃ records, document.resolve urn = .ok records) ↔ document.Valid urn := by
  rw [valid_iff, ← AnnotationEntries.exists_resolve_iff, ← AnnotationEntries.exists_resolve_iff]
  exact exists_both_iff

theorem makes_of_resolve (resolved : document.resolve urn = .ok records) :
    document.Makes urn records := by
  obtain ⟨implementations, tests, ofImplementations, ofTests, rfl⟩ := both_eq_ok_iff.mp resolved
  exact ⟨AnnotationEntries.makes_of_resolve ofImplementations,
    AnnotationEntries.makes_of_resolve ofTests⟩

end Annotations

/-! ### All documents -/

/-- Documents are accepted exactly if they are valid, and what is made of them
has all that stands in them. -/
theorem converted_exactly [PatternEngine] :
    (∀ document : Requirements,
      ((∃ module, document.toModule = .ok module) ↔ document.Valid) ∧
      ∀ module, document.toModule = .ok module → document.Makes module) ∧
    (∀ (urn : String) (document : Cases),
      ((∃ records, document.resolve urn = .ok records) ↔ document.Valid urn) ∧
      ∀ records, document.resolve urn = .ok records → document.Makes urn records) ∧
    (∀ (urn : String) (document : Results),
      ((∃ records, document.resolve urn = .ok records) ↔ document.Valid urn) ∧
      ∀ records, document.resolve urn = .ok records → document.Makes urn records) ∧
    ∀ (urn : String) (document : Annotations),
      ((∃ records, document.resolve urn = .ok records) ↔ document.Valid urn) ∧
      ∀ records, document.resolve urn = .ok records → document.Makes urn records := by
  refine ⟨?_, ?_, ?_, ?_⟩
  · intro document
    exact ⟨Requirements.exists_toModule_iff, fun _ => Requirements.makes_of_toModule⟩
  · intro urn document
    exact ⟨Cases.exists_resolve_iff, fun _ => Cases.makes_of_resolve⟩
  · intro urn document
    exact ⟨Results.exists_resolve_iff, fun _ => Results.makes_of_resolve⟩
  · intro urn document
    exact ⟨Annotations.exists_resolve_iff, fun _ => Annotations.makes_of_resolve⟩

namespace Sample

def requirementEntry (id : String) : RequirementEntry :=
  ⟨id, "", .shall, "", none, [], "", .inCode⟩

/-- A document of the root with a filter for the library. -/
def requirementsOf (ids : List String) : Requirements where
  urn := "root"
  variant := .system
  title := "Root"
  imports := []
  implementations := []
  filters := (∅ : UrnMap FilterEntry).insert "library"
    ⟨["first", "base:second"], [], none, none⟩
  requirements := ids.map requirementEntry

/-- Two texts for one requirement, of which the qualified one comes last. -/
def shared : Annotations where
  implementations := ((∅ : AnnotationEntries).insert "root:first" [⟨.method, "a.B.c"⟩]).insert
    "first" [⟨.classType, "a.B"⟩]
  tests := ∅

/-- A bare and a qualified text for one requirement are refused as two entries,
and put together as two groups of annotations. -/
theorem bare_and_qualified :
    (∃ module, (requirementsOf ["first", "root:second"]).toModule = .ok module ∧
      (requirementsOf ["first", "root:second"]).Makes module ∧
      module.requirements.keys = [⟨"root", "first"⟩, ⟨"root", "second"⟩]) ∧
    (∀ module, (requirementsOf ["first", "root:first"]).toModule ≠ .ok module) ∧
    ∃ records, shared.resolve "root" = .ok records ∧ shared.Makes "root" records ∧
      records.implementations[(⟨"root", "first"⟩ : Identifier)]? =
        some [⟨.classType, "a.B"⟩, ⟨.method, "a.B.c"⟩] := by
  obtain ⟨ofRequirements, _, _, ofAnnotations⟩ := converted_exactly
  refine ⟨?_, ?_, ?_⟩
  · have evaluated : (requirementsOf ["first", "root:second"]).toModule.toOption.any fun module =>
        module.requirements.keys = [⟨"root", "first"⟩, ⟨"root", "second"⟩] := by decide +kernel
    obtain ⟨module, made, keys⟩ := any_toOption_iff.mp evaluated
    exact ⟨module, made, (ofRequirements _).2 module made, of_decide_eq_true keys⟩
  · intro module made
    have valid := (ofRequirements _).1.mp ⟨module, made⟩
    have apart : ∀ id, Names "root" "first" id → ¬Names "root" "root:first" id :=
      List.pairwise_pair.mp valid.distinct
    exact apart ⟨"root", "first"⟩ (by decide +kernel) (by decide +kernel)
  · have evaluated : (shared.resolve "root").toOption.any fun records =>
        records.implementations[(⟨"root", "first"⟩ : Identifier)]? =
          some [⟨.classType, "a.B"⟩, ⟨.method, "a.B.c"⟩] := by decide +kernel
    obtain ⟨records, resolved, listed⟩ := any_toOption_iff.mp evaluated
    exact ⟨records, resolved, (ofAnnotations "root" shared).2 records resolved,
      of_decide_eq_true listed⟩

end Sample

end Traceability.Document

import Traceability.Document.Requirements
import Traceability.Document.Verification
import Traceability.Proofs.Collections

/-!
Contract: the single entries of documents, and what each of them makes.

An entry is read if all texts in it name identifiers, if its references are not
missing and its expressions can be read. What it makes has these identifiers, in
the order of the texts, and everything else as it stands in the entry.

Owns: which entries are valid, and what a valid entry makes.
Does not own: documents with several entries.
-/

namespace Traceability

/-! ### Rules -/

namespace FilterRule

variable [PatternEngine]

/-- The expression that is read from a text, and none without a text. -/
def Compiles : Option String → Option Expression → Prop :=
  Option.Rel fun source expression => Expression.parse source = .ok expression

theorem exists_compiles_iff {source : Option String} :
    (∃ expression, Compiles source expression) ↔
      ∀ text ∈ source, ∃ expression, Expression.parse text = .ok expression := by
  cases source with
  | none => exact ⟨by simp, fun _ => ⟨none, .none⟩⟩
  | some text => simp [Compiles, Option.exists]

theorem compile_eq_ok_iff {includes excludes : List Identifier}
    {customIncludes customExcludes : Option String} {rule : FilterRule} :
    compile includes excludes customIncludes customExcludes = .ok rule ↔
      rule.includes = .ofList includes ∧ rule.excludes = .ofList excludes ∧
        Compiles customIncludes rule.customIncludes ∧
        Compiles customExcludes rule.customExcludes := by
  unfold compile Compiles
  simp only [bind_eq_ok_iff, mapM_option_eq_ok_iff, pure, Except.pure, Except.ok.injEq]
  constructor
  · intro ⟨_, included, _, excluded, made⟩
    subst made
    exact ⟨rfl, rfl, included, excluded⟩
  · intro ⟨includes, excludes, included, excluded⟩
    refine ⟨_, included, _, excluded, ?_⟩
    rw [← includes, ← excludes]

end FilterRule

namespace Document

variable {urn target text : String} {texts : List String} {id other owner : Identifier}

/-! ### Names -/

/-- From within the module `urn` the text names an identifier. -/
def Names (urn text : String) (id : Identifier) : Prop :=
  Identifier.qualify urn text = .ok id

instance : Decidable (Names urn text id) := by
  unfold Names
  infer_instance

/-- The text names some identifier. -/
def Resolves (urn text : String) : Prop := ∃ id, Names urn text id

theorem Names.unique (named : Names urn text id) (again : Names urn text other) : id = other := by
  rw [Names, named] at again
  exact Except.ok.inj again

theorem Names.iff_eq (named : Names urn text id) : Names urn text other ↔ other = id := by
  constructor
  · intro again
    exact again.unique named
  · rintro rfl
    exact named

theorem resolve_eq_ok_iff : resolve urn text = .ok id ↔ Names urn text id :=
  mapError_eq_ok_iff

theorem mapM_resolve_eq_ok_iff {ids : List Identifier} :
    texts.mapM (resolve urn) = .ok ids ↔ List.Forall₂ (Names urn) texts ids := by
  simp only [mapM_eq_ok_iff, resolve_eq_ok_iff]

theorem exists_names_iff :
    (∃ ids, List.Forall₂ (Names urn) texts ids) ↔ ∀ text ∈ texts, Resolves urn text :=
  exists_forall₂_iff

theorem mem_iff_of_names {ids : List Identifier} (named : List.Forall₂ (Names urn) texts ids) :
    id ∈ ids ↔ ∃ text ∈ texts, Names urn text id := by
  induction named with
  | nil => simp
  | cons first _ inductionHypothesis =>
      rw [List.mem_cons, inductionHypothesis, List.exists_mem_cons_iff, first.iff_eq]

/-! ### References -/

/-- There are references, and all of them name something. -/
structure ValidReferences (urn : String) (texts : List String) : Prop where
  some_there : texts ≠ []
  resolve : ∀ text ∈ texts, Resolves urn text

theorem references_eq_ok_iff {members : NonEmptyList Identifier} :
    references urn owner texts = .ok members ↔
      List.Forall₂ (Names urn) texts members.toList := by
  unfold references
  rw [bind_eq_ok_iff]
  simp only [mapM_resolve_eq_ok_iff]
  constructor
  · intro ⟨ids, named, made⟩
    split at made
    next nonempty =>
      cases made
      rwa [← NonEmptyList.ofList?_eq_some_iff.mp nonempty]
    next => contradiction
  · intro named
    have nonempty : NonEmptyList.ofList? members.toList = some members :=
      NonEmptyList.ofList?_eq_some_iff.mpr rfl
    exact ⟨members.toList, named, by rw [nonempty]; rfl⟩

theorem exists_members_iff :
    (∃ members : NonEmptyList Identifier, List.Forall₂ (Names urn) texts members.toList) ↔
      ValidReferences urn texts := by
  constructor
  · intro ⟨members, named⟩
    refine ⟨?_, exists_names_iff.mp ⟨_, named⟩⟩
    rintro rfl
    exact members.toList_ne_nil (List.forall₂_nil_left_iff.mp named)
  · intro valid
    obtain ⟨ids, named⟩ := exists_names_iff.mpr valid.resolve
    cases named with
    | nil => exact absurd rfl valid.some_there
    | cons first others => exact ⟨⟨_, _⟩, .cons first others⟩

/-- Whatever is made of a name and references is made if all of them resolve. -/
theorem exists_referring_iff {α : Type} {make : Identifier → NonEmptyList Identifier → α} :
    (∃ record, (do
      let id ← resolve urn text
      let members ← references urn id texts
      return make id members : Except Error α) = .ok record) ↔
      Resolves urn text ∧ ValidReferences urn texts := by
  simp only [bind_eq_ok_iff, resolve_eq_ok_iff, references_eq_ok_iff, pure, Except.pure,
    Except.ok.injEq, ← exists_members_iff]
  constructor
  · intro ⟨_, id, named, members, referred, _⟩
    exact ⟨⟨id, named⟩, members, referred⟩
  · intro ⟨⟨id, named⟩, members, referred⟩
    exact ⟨_, id, named, members, referred, rfl⟩

/-! ### Filters -/

namespace FilterEntry

variable [PatternEngine]

/-- All names of the entry are names in the target, and its expressions can be
read. -/
structure Valid (entry : FilterEntry) (target : String) : Prop where
  includes : ∀ text ∈ entry.includes, Resolves target text
  excludes : ∀ text ∈ entry.excludes, Resolves target text
  customIncludes : ∀ source ∈ entry.customIncludes,
    ∃ expression, Expression.parse source = .ok expression
  customExcludes : ∀ source ∈ entry.customExcludes,
    ∃ expression, Expression.parse source = .ok expression

/-- The rule has the identifiers that the entry names, and its expressions. -/
structure Makes (entry : FilterEntry) (target : String) (rule : FilterRule) : Prop where
  includes : ∀ id, id ∈ rule.includes ↔ ∃ text ∈ entry.includes, Names target text id
  excludes : ∀ id, id ∈ rule.excludes ↔ ∃ text ∈ entry.excludes, Names target text id
  customIncludes : FilterRule.Compiles entry.customIncludes rule.customIncludes
  customExcludes : FilterRule.Compiles entry.customExcludes rule.customExcludes

variable {entry : FilterEntry} {rule : FilterRule}

theorem toRule_eq_ok_iff :
    entry.toRule target = .ok rule ↔ ∃ includes excludes,
      List.Forall₂ (Names target) entry.includes includes ∧
      List.Forall₂ (Names target) entry.excludes excludes ∧
      FilterRule.compile includes excludes entry.customIncludes entry.customExcludes = .ok rule := by
  unfold toRule
  simp only [bind_eq_ok_iff, mapM_resolve_eq_ok_iff, mapError_eq_ok_iff, exists_and_left]

theorem makes_of_toRule (made : entry.toRule target = .ok rule) : entry.Makes target rule := by
  obtain ⟨includes, excludes, included, excluded, compiled⟩ := toRule_eq_ok_iff.mp made
  obtain ⟨ofIncludes, ofExcludes, custom⟩ := FilterRule.compile_eq_ok_iff.mp compiled
  refine ⟨?_, ?_, custom.1, custom.2⟩
  · intro id
    rw [ofIncludes, ← mem_iff_of_names included]
    simp
  · intro id
    rw [ofExcludes, ← mem_iff_of_names excluded]
    simp

theorem exists_toRule_iff : (∃ rule, entry.toRule target = .ok rule) ↔ entry.Valid target := by
  simp only [toRule_eq_ok_iff, FilterRule.compile_eq_ok_iff]
  constructor
  · intro ⟨rule, includes, excludes, included, excluded, _, _, ofIncludes, ofExcludes⟩
    exact ⟨exists_names_iff.mp ⟨_, included⟩, exists_names_iff.mp ⟨_, excluded⟩,
      FilterRule.exists_compiles_iff.mp ⟨_, ofIncludes⟩,
      FilterRule.exists_compiles_iff.mp ⟨_, ofExcludes⟩⟩
  · intro valid
    obtain ⟨includes, included⟩ := exists_names_iff.mpr valid.includes
    obtain ⟨excludes, excluded⟩ := exists_names_iff.mpr valid.excludes
    obtain ⟨customIncludes, ofIncludes⟩ := FilterRule.exists_compiles_iff.mpr valid.customIncludes
    obtain ⟨customExcludes, ofExcludes⟩ := FilterRule.exists_compiles_iff.mpr valid.customExcludes
    exact ⟨⟨.ofList includes, .ofList excludes, customIncludes, customExcludes⟩, includes, excludes,
      included, excluded, rfl, rfl, ofIncludes, ofExcludes⟩

end FilterEntry

/-! ### Records -/

namespace RequirementEntry

/-- The requirement has the identifier that the entry names, and the categories
without their order. -/
structure Makes (urn : String) (entry : RequirementEntry) (requirement : Requirement) : Prop where
  id : Names urn entry.id requirement.id
  title : requirement.title = entry.title
  significance : requirement.significance = entry.significance
  description : requirement.description = entry.description
  rationale : requirement.rationale = entry.rationale
  categories : ∀ category, category ∈ requirement.categories ↔ category ∈ entry.categories
  revision : requirement.revision = entry.revision
  implementation : requirement.implementation = entry.implementation

variable {entry : RequirementEntry} {requirement : Requirement}

theorem makes_of_toRequirement (made : entry.toRequirement urn = .ok requirement) :
    entry.Makes urn requirement := by
  obtain ⟨id, named, rest⟩ := bind_eq_ok_iff.mp made
  cases rest
  exact ⟨resolve_eq_ok_iff.mp named, rfl, rfl, rfl, rfl, by simp, rfl, rfl⟩

theorem exists_toRequirement_iff :
    (∃ requirement, entry.toRequirement urn = .ok requirement) ↔ Resolves urn entry.id := by
  constructor
  · intro ⟨requirement, made⟩
    exact ⟨_, (makes_of_toRequirement made).id⟩
  · intro ⟨id, named⟩
    exact ⟨_, bind_eq_ok_iff.mpr ⟨id, resolve_eq_ok_iff.mpr named, rfl⟩⟩

end RequirementEntry

namespace CaseEntry

/-- The case has the identifier that the entry names, and refers to what the
entry names in this order. -/
structure Makes (urn : String) (entry : CaseEntry) (verificationCase : VerificationCase) :
    Prop where
  id : Names urn entry.id verificationCase.id
  title : verificationCase.title = entry.title
  description : verificationCase.description = entry.description
  verification : verificationCase.verification = entry.verification
  instructions : verificationCase.instructions = entry.instructions
  revision : verificationCase.revision = entry.revision
  requirements : List.Forall₂ (Names urn) entry.requirements verificationCase.requirements.toList

variable {entry : CaseEntry} {verificationCase : VerificationCase}

theorem makes_of_toCase (made : entry.toCase urn = .ok verificationCase) :
    entry.Makes urn verificationCase := by
  obtain ⟨id, named, rest⟩ := bind_eq_ok_iff.mp made
  obtain ⟨requirements, referred, rest⟩ := bind_eq_ok_iff.mp rest
  cases rest
  exact ⟨resolve_eq_ok_iff.mp named, rfl, rfl, rfl, rfl, rfl, references_eq_ok_iff.mp referred⟩

theorem exists_toCase_iff :
    (∃ verificationCase, entry.toCase urn = .ok verificationCase) ↔
      Resolves urn entry.id ∧ ValidReferences urn entry.requirements :=
  exists_referring_iff

end CaseEntry

namespace ResultEntry

/-- The result has the identifier that the entry names, and refers to what the
entry names in this order. -/
structure Makes (urn : String) (entry : ResultEntry) (result : ManualResult) : Prop where
  id : Names urn entry.id result.id
  cases : List.Forall₂ (Names urn) entry.cases result.cases.toList
  passed : result.passed = entry.passed
  comment : result.comment = entry.comment

variable {entry : ResultEntry} {result : ManualResult}

theorem makes_of_toResult (made : entry.toResult urn = .ok result) : entry.Makes urn result := by
  obtain ⟨id, named, rest⟩ := bind_eq_ok_iff.mp made
  obtain ⟨cases, referred, rest⟩ := bind_eq_ok_iff.mp rest
  cases rest
  exact ⟨resolve_eq_ok_iff.mp named, references_eq_ok_iff.mp referred, rfl, rfl⟩

theorem exists_toResult_iff :
    (∃ result, entry.toResult urn = .ok result) ↔
      Resolves urn entry.id ∧ ValidReferences urn entry.cases :=
  exists_referring_iff

end ResultEntry

end Document

end Traceability

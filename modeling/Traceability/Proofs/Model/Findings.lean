import Traceability.Model.Consistency
import Traceability.Proofs.Collections
import Traceability.Proofs.Identifier
import Traceability.Proofs.Table.Basic

/-!
Contract: what is found broken in a model, however damaged it is.

An index lacks what the entities imply and it does not list, and it lists in
vain what nothing implies. Its keys are told apart by their texts: two keys of
one text would hide each other's entries, so that findings are exact where no
urn of a reference holds a separator.

Owns: the findings about one index and about a whole model, and when there are
none.
Does not own: which operations leave a model in order.
-/

namespace Traceability

/-! ### One index -/

namespace Index

variable {κ : Type} [Ord κ] [Std.TransOrd κ] {name other text : String} {keyText : κ → String}
  {index : Index κ} {implied : List (κ × Identifier)} {id : Identifier}

/-- The findings about an index are exactly that it lacks what is implied and
not listed, and that it lists what is not implied, for all keys that are told
apart by their texts. -/
structure ExactFindings (findings : List Inconsistency) (name : String) (keyText : κ → String)
    (IsLegible : κ → Prop) (index : Index κ) (Implied : κ → Identifier → Prop) : Prop where
  missing_iff : ∀ {key : κ} {id : Identifier}, IsLegible key →
    (.missingEntry name (keyText key) id ∈ findings ↔ Implied key id ∧ ¬index.lists key id)
  stale_iff : ∀ {key : κ} {id : Identifier}, IsLegible key →
    (.staleEntry name (keyText key) id ∈ findings ↔ index.lists key id ∧ ¬Implied key id)

/-- What a finding about an index tells, where it is true: under the text of a
key, an entry that is implied and not listed, or listed and not implied. -/
inductive Differs (index : Index κ) (name : String) (keyText : κ → String)
    (Implied : κ → Identifier → Prop) : Inconsistency → Prop where
  | missing {key : κ} {id : Identifier} (implies : Implied key id)
      (unlisted : ¬index.lists key id) :
      Differs index name keyText Implied (.missingEntry name (keyText key) id)
  | stale {key : κ} {id : Identifier} (listed : index.lists key id)
      (notImplied : ¬Implied key id) :
      Differs index name keyText Implied (.staleEntry name (keyText key) id)

theorem missingEntry_mem_compare_iff :
    .missingEntry other text id ∈ index.compare name keyText implied ↔
      other = name ∧ ∃ key, keyText key = text ∧ (key, id) ∈ implied ∧ ¬index.lists key id := by
  simp only [compare, List.mem_append, List.mem_map, List.mem_filter, List.mem_flatMap,
    Inconsistency.missingEntry.injEq, reduceCtorEq, and_false, exists_false, or_false, Prod.exists]
  constructor
  · rintro ⟨key, _, ⟨member, unlisted⟩, rfl, rfl, rfl⟩
    exact ⟨rfl, key, rfl, member, by simpa using unlisted⟩
  · rintro ⟨rfl, key, rfl, member, unlisted⟩
    exact ⟨key, id, ⟨member, by simpa using unlisted⟩, rfl, rfl, rfl⟩

theorem staleEntry_mem_compare_iff [Std.LawfulEqOrd κ] :
    .staleEntry other text id ∈ index.compare name keyText implied ↔
      other = name ∧ ∃ key, keyText key = text ∧ index.lists key id ∧
        ∀ twin, (twin, id) ∈ implied → keyText twin ≠ text := by
  simp only [compare, List.mem_append, List.mem_map, List.mem_filter, List.mem_flatMap,
    Inconsistency.staleEntry.injEq, reduceCtorEq, and_false, exists_false, false_or, Prod.exists,
    Std.ExtTreeMap.mem_toList_iff_getElem?_eq_some, Std.ExtTreeSet.mem_toList, lists_iff]
  constructor
  · rintro ⟨key, ids, found, _, ⟨member, unexpected⟩, rfl, rfl, rfl⟩
    refine ⟨rfl, key, rfl, ⟨ids, found, member⟩, ?_⟩
    intro twin entry same
    apply absurd unexpected
    simpa using ⟨twin, entry, same⟩
  · rintro ⟨rfl, key, rfl, ⟨ids, found, member⟩, unexpected⟩
    refine ⟨key, ids, found, id, ⟨member, ?_⟩, rfl, rfl, rfl⟩
    simpa using unexpected

theorem danglingRequirement_not_mem_compare {reference : Identifier} :
    .danglingRequirement id reference ∉ index.compare name keyText implied := by
  simp [compare]

theorem danglingCase_not_mem_compare {reference : Identifier} :
    .danglingCase id reference ∉ index.compare name keyText implied := by
  simp [compare]

/-- Every finding about an index is true, whatever the texts of its keys are. -/
theorem differs_of_mem_compare [Std.LawfulEqOrd κ] {finding : Inconsistency}
    {Implied : κ → Identifier → Prop}
    (implied_iff : ∀ {key id}, (key, id) ∈ implied ↔ Implied key id)
    (found : finding ∈ index.compare name keyText implied) :
    index.Differs name keyText Implied finding := by
  cases finding with
  | danglingRequirement => exact absurd found danglingRequirement_not_mem_compare
  | danglingCase => exact absurd found danglingCase_not_mem_compare
  | missingEntry other text id =>
    obtain ⟨rfl, key, rfl, implies, unlisted⟩ := missingEntry_mem_compare_iff.mp found
    exact .missing (implied_iff.mp implies) unlisted
  | staleEntry other text id =>
    obtain ⟨rfl, key, rfl, listed, unexpected⟩ := staleEntry_mem_compare_iff.mp found
    exact .stale listed fun implies => unexpected key (implied_iff.mpr implies) rfl

/-- Where keys are told apart by their texts, comparing an index finds exactly
what is wrong with it. -/
theorem exactFindings_of_compare [Std.LawfulEqOrd κ] {findings : List Inconsistency}
    {IsLegible : κ → Prop} {Implied : κ → Identifier → Prop}
    (implied_iff : ∀ {key id}, (key, id) ∈ implied ↔ Implied key id)
    (missing : ∀ text id, .missingEntry name text id ∈ findings ↔
      .missingEntry name text id ∈ index.compare name keyText implied)
    (stale : ∀ text id, .staleEntry name text id ∈ findings ↔
      .staleEntry name text id ∈ index.compare name keyText implied)
    (impliedLegible : ∀ {key id}, Implied key id → IsLegible key)
    (listedLegible : ∀ key ∈ index, IsLegible key)
    (apart : ∀ {key twin}, IsLegible key → IsLegible twin → keyText key = keyText twin →
      key = twin) :
    index.ExactFindings findings name keyText IsLegible Implied where
  missing_iff := by
    intro key id keyLegible
    simp only [missing, missingEntry_mem_compare_iff, implied_iff, true_and]
    constructor
    · rintro ⟨twin, same, implies, unlisted⟩
      rw [← apart (impliedLegible implies) keyLegible same]
      exact ⟨implies, unlisted⟩
    · rintro ⟨implies, unlisted⟩
      exact ⟨key, rfl, implies, unlisted⟩
  stale_iff := by
    intro key id keyLegible
    simp only [stale, staleEntry_mem_compare_iff, implied_iff, true_and]
    constructor
    · rintro ⟨twin, same, listed, unexpected⟩
      rw [apart (listedLegible twin (mem_of_lists listed)) keyLegible same] at listed
      exact ⟨listed, fun implies => unexpected key implies rfl⟩
    · rintro ⟨listed, notImplied⟩
      refine ⟨key, rfl, listed, ?_⟩
      intro twin implies same
      rw [apart (impliedLegible implies) keyLegible same] at implies
      exact notImplied implies

/-- What is true of a legible key is found. -/
theorem ExactFindings.mem_of_differs {findings : List Inconsistency} {IsLegible : κ → Prop}
    {Implied : κ → Identifier → Prop} {finding : Inconsistency}
    (exact : index.ExactFindings findings name keyText IsLegible Implied)
    (impliedLegible : ∀ {key id}, Implied key id → IsLegible key)
    (listedLegible : ∀ key ∈ index, IsLegible key)
    (differs : index.Differs name keyText Implied finding) : finding ∈ findings := by
  cases differs with
  | missing implies unlisted =>
    exact (exact.missing_iff (impliedLegible implies)).mpr ⟨implies, unlisted⟩
  | stale listed notImplied =>
    exact (exact.stale_iff (listedLegible _ (mem_of_lists listed))).mpr ⟨listed, notImplied⟩

/-- An index about which nothing is found lists exactly what is implied. -/
theorem ExactFindings.lists_iff {IsLegible : κ → Prop} {Implied : κ → Identifier → Prop}
    (exact : index.ExactFindings [] name keyText IsLegible Implied) {key : κ}
    (impliedLegible : Implied key id → IsLegible key)
    (listedLegible : key ∈ index → IsLegible key) : index.lists key id ↔ Implied key id := by
  constructor
  · intro listed
    apply Classical.byContradiction
    intro notImplied
    have stale := (exact.stale_iff (listedLegible (mem_of_lists listed))).mpr ⟨listed, notImplied⟩
    contradiction
  · intro implies
    apply Classical.byContradiction
    intro unlisted
    have missing := (exact.missing_iff (impliedLegible implies)).mpr ⟨implies, unlisted⟩
    contradiction

/-- An index that lists exactly what is implied compares without findings. -/
theorem compare_eq_nil [Std.LawfulEqOrd κ]
    (agree : ∀ key id, (key, id) ∈ implied ↔ index.lists key id) :
    index.compare name keyText implied = [] := by
  simp only [compare, List.append_eq_nil_iff, List.map_eq_nil_iff, List.flatMap_eq_nil_iff,
    List.filter_eq_nil_iff]
  constructor
  · rintro ⟨key, id⟩ member
    simp [(agree key id).mp member]
  · rintro ⟨key, ids⟩ listed id member
    have found : index[key]? = some ids :=
      Std.ExtTreeMap.mem_toList_iff_getElem?_eq_some.mp listed
    have entry : (key, id) ∈ implied :=
      (agree key id).mpr (lists_iff.mpr ⟨ids, found, Std.ExtTreeSet.mem_toList.mp member⟩)
    have expected : (keyText key, id) ∈ implied.map fun entry => (keyText entry.1, entry.2) :=
      List.mem_map.mpr ⟨(key, id), entry, rfl⟩
    rw [List.contains_iff_mem.mpr expected]
    simp

end Index

/-! ### The entities and what they imply -/

/-- Entities under their own identifiers imply an entry for each reference. -/
theorem Referring.mem_entries_iff {ε : Type} [Referring ε] {entities : IdentifierMap ε}
    (keyed : ∀ {id : Identifier} {entity : ε}, entities[id]? = some entity →
      Referring.identifier entity = id) {reference id : Identifier} :
    ((reference, id) ∈ entities.values.flatMap fun entity =>
      (Referring.references entity).toList.map fun reference =>
        (reference, Referring.identifier entity)) ↔
      ∃ entity, entities[id]? = some entity ∧ reference ∈ (Referring.references entity).toList := by
  simp only [List.mem_flatMap, List.mem_map, mem_values_iff]
  constructor
  · rintro ⟨entity, ⟨key, found⟩, _, member, same⟩
    cases same
    rw [keyed found]
    exact ⟨entity, found, member⟩
  · rintro ⟨entity, found, member⟩
    exact ⟨entity, ⟨id, found⟩, reference, member, by rw [keyed found]⟩

/-- Every identifier implies an entry under its urn. -/
theorem mem_keys_byUrn_iff {α : Type} {entities : IdentifierMap α} {urn : String}
    {id : Identifier} :
    (urn, id) ∈ (entities.keys.map fun id => (id.urn, id)) ↔ id ∈ entities ∧ id.urn = urn := by
  rw [List.mem_map]
  simp only [Std.ExtTreeMap.mem_keys, Prod.mk.injEq]
  constructor
  · rintro ⟨_, member, same, rfl⟩
    exact ⟨member, same⟩
  · rintro ⟨member, same⟩
    exact ⟨id, member, same, rfl⟩

namespace Model

/-- A case of the model refers to a requirement. -/
def Verifies (model : Model) (id requirement : Identifier) : Prop :=
  ∃ verificationCase : VerificationCase, model.cases[id]? = some verificationCase ∧
    requirement ∈ verificationCase.requirements.toList

/-- A result of the model refers to a case. -/
def ReportsOn (model : Model) (id verificationCase : Identifier) : Prop :=
  ∃ result : ManualResult, model.results[id]? = some result ∧
    verificationCase ∈ result.cases.toList

/-- Cases and results are kept under their own identifiers. -/
structure Keyed (model : Model) : Prop where
  case_id : ∀ {id : Identifier} {verificationCase : VerificationCase},
    model.cases[id]? = some verificationCase → verificationCase.id = id
  result_id : ∀ {id : Identifier} {result : ManualResult},
    model.results[id]? = some result → result.id = id

/-- No separator stands in the urn of a reference or of a key of an index by
reference. -/
structure Legible (model : Model) : Prop where
  requirement_plain : ∀ {id requirement}, model.Verifies id requirement → requirement.IsPlain
  case_plain : ∀ {id verificationCase}, model.ReportsOn id verificationCase →
    verificationCase.IsPlain
  casesOfRequirement_plain : ∀ key ∈ model.casesOfRequirement, key.IsPlain
  resultsOfCase_plain : ∀ key ∈ model.resultsOfCase, key.IsPlain

/-- Every reference resolves, and every index lists exactly what the entities
imply. -/
structure InOrder (model : Model) : Prop where
  requirement_mem : ∀ {id requirement}, model.Verifies id requirement →
    requirement ∈ model.requirements
  case_mem : ∀ {id verificationCase}, model.ReportsOn id verificationCase →
    verificationCase ∈ model.cases
  requirementsOfUrn_iff : ∀ {urn id}, model.requirementsOfUrn.lists urn id ↔
    id ∈ model.requirements ∧ id.urn = urn
  casesOfUrn_iff : ∀ {urn id}, model.casesOfUrn.lists urn id ↔ id ∈ model.cases ∧ id.urn = urn
  resultsOfUrn_iff : ∀ {urn id}, model.resultsOfUrn.lists urn id ↔
    id ∈ model.results ∧ id.urn = urn
  casesOfRequirement_iff : ∀ {requirement id}, model.casesOfRequirement.lists requirement id ↔
    model.Verifies id requirement
  resultsOfCase_iff : ∀ {verificationCase id}, model.resultsOfCase.lists verificationCase id ↔
    model.ReportsOn id verificationCase

/-- What is wrong with a model, as it is told: a reference that does not
resolve, or an entry in which one of the five indices and the entities differ. -/
inductive Damage (model : Model) : Inconsistency → Prop where
  | danglingRequirement {id requirement : Identifier} (verifies : model.Verifies id requirement)
      (dangling : requirement ∉ model.requirements) :
      Damage model (.danglingRequirement id requirement)
  | danglingCase {id verificationCase : Identifier}
      (reports : model.ReportsOn id verificationCase)
      (dangling : verificationCase ∉ model.cases) :
      Damage model (.danglingCase id verificationCase)
  | requirementsOfUrn {finding : Inconsistency}
      (differs : model.requirementsOfUrn.Differs "reqs_from_urn" id
        (fun urn id => id ∈ model.requirements ∧ id.urn = urn) finding) : Damage model finding
  | casesOfUrn {finding : Inconsistency}
      (differs : model.casesOfUrn.Differs "svcs_from_urn" id
        (fun urn id => id ∈ model.cases ∧ id.urn = urn) finding) : Damage model finding
  | resultsOfUrn {finding : Inconsistency}
      (differs : model.resultsOfUrn.Differs "mvrs_from_urn" id
        (fun urn id => id ∈ model.results ∧ id.urn = urn) finding) : Damage model finding
  | casesOfRequirement {finding : Inconsistency}
      (differs : model.casesOfRequirement.Differs "svcs_from_req" Identifier.display
        (fun requirement id => model.Verifies id requirement) finding) : Damage model finding
  | resultsOfCase {finding : Inconsistency}
      (differs : model.resultsOfCase.Differs "mvrs_from_svc" Identifier.display
        (fun verificationCase id => model.ReportsOn id verificationCase) finding) :
      Damage model finding

variable {model : Model}

theorem Keyed.mem_requirementReferences_iff (keyed : model.Keyed) {requirement id : Identifier} :
    (requirement, id) ∈ model.requirementReferences ↔ model.Verifies id requirement :=
  Referring.mem_entries_iff (ε := VerificationCase) keyed.case_id

theorem Keyed.mem_caseReferences_iff (keyed : model.Keyed) {verificationCase id : Identifier} :
    (verificationCase, id) ∈ model.caseReferences ↔ model.ReportsOn id verificationCase :=
  Referring.mem_entries_iff (ε := ManualResult) keyed.result_id

/-- Nothing is found in a model in order, whatever its identifiers are. -/
theorem InOrder.inconsistencies_eq_nil (inOrder : model.InOrder) (keyed : model.Keyed) :
    model.inconsistencies = [] := by
  simp only [inconsistencies, List.append_eq_nil_iff, List.map_eq_nil_iff, List.filter_eq_nil_iff]
  refine ⟨⟨⟨⟨⟨⟨?_, ?_⟩, ?_⟩, ?_⟩, ?_⟩, ?_⟩, ?_⟩
  · rintro ⟨requirement, id⟩ member
    simpa using inOrder.requirement_mem (keyed.mem_requirementReferences_iff.mp member)
  · rintro ⟨verificationCase, id⟩ member
    simpa using inOrder.case_mem (keyed.mem_caseReferences_iff.mp member)
  · exact Index.compare_eq_nil fun _ _ =>
      mem_keys_byUrn_iff.trans inOrder.requirementsOfUrn_iff.symm
  · exact Index.compare_eq_nil fun _ _ => mem_keys_byUrn_iff.trans inOrder.casesOfUrn_iff.symm
  · exact Index.compare_eq_nil fun _ _ => mem_keys_byUrn_iff.trans inOrder.resultsOfUrn_iff.symm
  · exact Index.compare_eq_nil fun _ _ =>
      keyed.mem_requirementReferences_iff.trans inOrder.casesOfRequirement_iff.symm
  · exact Index.compare_eq_nil fun _ _ =>
      keyed.mem_caseReferences_iff.trans inOrder.resultsOfCase_iff.symm

/-! ### The whole model -/

/-- A model has no findings but dangling references and those about its five
indices, each under its own name. -/
theorem mem_inconsistencies_iff {finding : Inconsistency} :
    finding ∈ model.inconsistencies ↔
      (∃ requirement id, (requirement, id) ∈ model.requirementReferences ∧
        requirement ∉ model.requirements ∧ .danglingRequirement id requirement = finding) ∨
      (∃ verificationCase id, (verificationCase, id) ∈ model.caseReferences ∧
        verificationCase ∉ model.cases ∧ .danglingCase id verificationCase = finding) ∨
      finding ∈ model.requirementsOfUrn.compare "reqs_from_urn" id
        (model.requirements.keys.map fun id => (id.urn, id)) ∨
      finding ∈ model.casesOfUrn.compare "svcs_from_urn" id
        (model.cases.keys.map fun id => (id.urn, id)) ∨
      finding ∈ model.resultsOfUrn.compare "mvrs_from_urn" id
        (model.results.keys.map fun id => (id.urn, id)) ∨
      finding ∈ model.casesOfRequirement.compare "svcs_from_req" Identifier.display
        model.requirementReferences ∨
      finding ∈ model.resultsOfCase.compare "mvrs_from_svc" Identifier.display
        model.caseReferences := by
  simp only [inconsistencies, List.mem_append, List.mem_map, List.mem_filter, Prod.exists,
    or_assoc, and_assoc, Bool.not_eq_true', Bool.eq_false_iff, ne_eq,
    Std.ExtTreeMap.contains_iff_mem]

theorem Keyed.danglingRequirement_mem_iff (keyed : model.Keyed) {id requirement : Identifier} :
    .danglingRequirement id requirement ∈ model.inconsistencies ↔
      model.Verifies id requirement ∧ requirement ∉ model.requirements := by
  simp only [mem_inconsistencies_iff, keyed.mem_requirementReferences_iff,
    Index.danglingRequirement_not_mem_compare, Inconsistency.danglingRequirement.injEq,
    reduceCtorEq, and_false, exists_false, or_false]
  constructor
  · rintro ⟨_, _, verifies, dangling, rfl, rfl⟩
    exact ⟨verifies, dangling⟩
  · rintro ⟨verifies, dangling⟩
    exact ⟨requirement, id, verifies, dangling, rfl, rfl⟩

theorem Keyed.danglingCase_mem_iff (keyed : model.Keyed) {id verificationCase : Identifier} :
    .danglingCase id verificationCase ∈ model.inconsistencies ↔
      model.ReportsOn id verificationCase ∧ verificationCase ∉ model.cases := by
  simp only [mem_inconsistencies_iff, keyed.mem_caseReferences_iff,
    Index.danglingCase_not_mem_compare, Inconsistency.danglingCase.injEq,
    reduceCtorEq, and_false, exists_false, or_false, false_or]
  constructor
  · rintro ⟨_, _, reports, dangling, rfl, rfl⟩
    exact ⟨reports, dangling⟩
  · rintro ⟨reports, dangling⟩
    exact ⟨verificationCase, id, reports, dangling, rfl, rfl⟩

theorem exactFindings_requirementsOfUrn :
    model.requirementsOfUrn.ExactFindings model.inconsistencies "reqs_from_urn" id
      (fun _ => True) fun urn id => id ∈ model.requirements ∧ id.urn = urn :=
  Index.exactFindings_of_compare mem_keys_byUrn_iff
    (by simp [mem_inconsistencies_iff, Index.missingEntry_mem_compare_iff])
    (by simp [mem_inconsistencies_iff, Index.staleEntry_mem_compare_iff])
    (by simp) (by simp) (by simp)

theorem exactFindings_casesOfUrn :
    model.casesOfUrn.ExactFindings model.inconsistencies "svcs_from_urn" id
      (fun _ => True) fun urn id => id ∈ model.cases ∧ id.urn = urn :=
  Index.exactFindings_of_compare mem_keys_byUrn_iff
    (by simp [mem_inconsistencies_iff, Index.missingEntry_mem_compare_iff])
    (by simp [mem_inconsistencies_iff, Index.staleEntry_mem_compare_iff])
    (by simp) (by simp) (by simp)

theorem exactFindings_resultsOfUrn :
    model.resultsOfUrn.ExactFindings model.inconsistencies "mvrs_from_urn" id
      (fun _ => True) fun urn id => id ∈ model.results ∧ id.urn = urn :=
  Index.exactFindings_of_compare mem_keys_byUrn_iff
    (by simp [mem_inconsistencies_iff, Index.missingEntry_mem_compare_iff])
    (by simp [mem_inconsistencies_iff, Index.staleEntry_mem_compare_iff])
    (by simp) (by simp) (by simp)

theorem Keyed.exactFindings_casesOfRequirement (keyed : model.Keyed) (legible : model.Legible) :
    model.casesOfRequirement.ExactFindings model.inconsistencies "svcs_from_req"
      Identifier.display Identifier.IsPlain fun requirement id => model.Verifies id requirement :=
  Index.exactFindings_of_compare keyed.mem_requirementReferences_iff
    (by simp [mem_inconsistencies_iff, Index.missingEntry_mem_compare_iff])
    (by simp [mem_inconsistencies_iff, Index.staleEntry_mem_compare_iff])
    legible.requirement_plain legible.casesOfRequirement_plain Identifier.eq_of_display_eq

theorem Keyed.exactFindings_resultsOfCase (keyed : model.Keyed) (legible : model.Legible) :
    model.resultsOfCase.ExactFindings model.inconsistencies "mvrs_from_svc"
      Identifier.display Identifier.IsPlain
      fun verificationCase id => model.ReportsOn id verificationCase :=
  Index.exactFindings_of_compare keyed.mem_caseReferences_iff
    (by simp [mem_inconsistencies_iff, Index.missingEntry_mem_compare_iff])
    (by simp [mem_inconsistencies_iff, Index.staleEntry_mem_compare_iff])
    legible.case_plain legible.resultsOfCase_plain Identifier.eq_of_display_eq

theorem Keyed.inconsistencies_eq_nil_iff (keyed : model.Keyed) (legible : model.Legible) :
    model.inconsistencies = [] ↔ model.InOrder := by
  refine ⟨fun nothing => ?_, fun inOrder => inOrder.inconsistencies_eq_nil keyed⟩
  have ofRequirement := keyed.exactFindings_casesOfRequirement legible
  have ofCase := keyed.exactFindings_resultsOfCase legible
  have ofRequirementUrn := model.exactFindings_requirementsOfUrn
  have ofCaseUrn := model.exactFindings_casesOfUrn
  have ofResultUrn := model.exactFindings_resultsOfUrn
  rw [nothing] at ofRequirement ofCase ofRequirementUrn ofCaseUrn ofResultUrn
  refine ⟨?_, ?_, ofRequirementUrn.lists_iff (by simp) (by simp),
    ofCaseUrn.lists_iff (by simp) (by simp), ofResultUrn.lists_iff (by simp) (by simp),
    ofRequirement.lists_iff legible.requirement_plain (legible.casesOfRequirement_plain _),
    ofCase.lists_iff legible.case_plain (legible.resultsOfCase_plain _)⟩
  · intro id requirement verifies
    apply Classical.byContradiction
    intro dangling
    have found := keyed.danglingRequirement_mem_iff.mpr ⟨verifies, dangling⟩
    rw [nothing] at found
    contradiction
  · intro id verificationCase reports
    apply Classical.byContradiction
    intro dangling
    have found := keyed.danglingCase_mem_iff.mpr ⟨reports, dangling⟩
    rw [nothing] at found
    contradiction

/-- Nothing is found but what is wrong. -/
theorem Keyed.damage_of_mem_inconsistencies (keyed : model.Keyed) {finding : Inconsistency}
    (found : finding ∈ model.inconsistencies) : model.Damage finding := by
  obtain ⟨requirement, id, member, dangling, rfl⟩ |
    ⟨verificationCase, id, member, dangling, rfl⟩ | found | found | found | found | found :=
    mem_inconsistencies_iff.mp found
  · exact .danglingRequirement (keyed.mem_requirementReferences_iff.mp member) dangling
  · exact .danglingCase (keyed.mem_caseReferences_iff.mp member) dangling
  · exact .requirementsOfUrn (Index.differs_of_mem_compare mem_keys_byUrn_iff found)
  · exact .casesOfUrn (Index.differs_of_mem_compare mem_keys_byUrn_iff found)
  · exact .resultsOfUrn (Index.differs_of_mem_compare mem_keys_byUrn_iff found)
  · exact .casesOfRequirement
      (Index.differs_of_mem_compare keyed.mem_requirementReferences_iff found)
  · exact .resultsOfCase (Index.differs_of_mem_compare keyed.mem_caseReferences_iff found)

/-- All that is wrong is found, where no separator hides it. -/
theorem Damage.mem_inconsistencies (keyed : model.Keyed) (legible : model.Legible)
    {finding : Inconsistency} (damage : model.Damage finding) :
    finding ∈ model.inconsistencies := by
  cases damage with
  | danglingRequirement verifies dangling =>
    exact keyed.danglingRequirement_mem_iff.mpr ⟨verifies, dangling⟩
  | danglingCase reports dangling =>
    exact keyed.danglingCase_mem_iff.mpr ⟨reports, dangling⟩
  | requirementsOfUrn differs =>
    exact exactFindings_requirementsOfUrn.mem_of_differs (by simp) (by simp) differs
  | casesOfUrn differs =>
    exact exactFindings_casesOfUrn.mem_of_differs (by simp) (by simp) differs
  | resultsOfUrn differs =>
    exact exactFindings_resultsOfUrn.mem_of_differs (by simp) (by simp) differs
  | casesOfRequirement differs =>
    exact (keyed.exactFindings_casesOfRequirement legible).mem_of_differs
      legible.requirement_plain legible.casesOfRequirement_plain differs
  | resultsOfCase differs =>
    exact (keyed.exactFindings_resultsOfCase legible).mem_of_differs
      legible.case_plain legible.resultsOfCase_plain differs

/-- In a model that keeps cases and results under their own identifiers,
however damaged it is otherwise, exactly the references that do not resolve and
exactly the entries in which an index and the entities differ are found, and
nothing else. -/
theorem findings_exact (keyed : model.Keyed) (legible : model.Legible) :
    (∀ id requirement, .danglingRequirement id requirement ∈ model.inconsistencies ↔
      model.Verifies id requirement ∧ requirement ∉ model.requirements) ∧
    (∀ id verificationCase, .danglingCase id verificationCase ∈ model.inconsistencies ↔
      model.ReportsOn id verificationCase ∧ verificationCase ∉ model.cases) ∧
    model.requirementsOfUrn.ExactFindings model.inconsistencies "reqs_from_urn" id
      (fun _ => True) (fun urn id => id ∈ model.requirements ∧ id.urn = urn) ∧
    model.casesOfUrn.ExactFindings model.inconsistencies "svcs_from_urn" id
      (fun _ => True) (fun urn id => id ∈ model.cases ∧ id.urn = urn) ∧
    model.resultsOfUrn.ExactFindings model.inconsistencies "mvrs_from_urn" id
      (fun _ => True) (fun urn id => id ∈ model.results ∧ id.urn = urn) ∧
    model.casesOfRequirement.ExactFindings model.inconsistencies "svcs_from_req"
      Identifier.display Identifier.IsPlain
      (fun requirement id => model.Verifies id requirement) ∧
    model.resultsOfCase.ExactFindings model.inconsistencies "mvrs_from_svc"
      Identifier.display Identifier.IsPlain
      (fun verificationCase id => model.ReportsOn id verificationCase) ∧
    (model.inconsistencies = [] ↔ model.InOrder) ∧
    ∀ finding, finding ∈ model.inconsistencies ↔ model.Damage finding :=
  ⟨fun _ _ => keyed.danglingRequirement_mem_iff, fun _ _ => keyed.danglingCase_mem_iff,
    exactFindings_requirementsOfUrn, exactFindings_casesOfUrn, exactFindings_resultsOfUrn,
    keyed.exactFindings_casesOfRequirement legible, keyed.exactFindings_resultsOfCase legible,
    keyed.inconsistencies_eq_nil_iff legible,
    fun _ => ⟨keyed.damage_of_mem_inconsistencies, Damage.mem_inconsistencies keyed legible⟩⟩

end Model

namespace Sample

def missingRequirement : Identifier := ⟨"base", "missing"⟩

def otherRequirement : Identifier := ⟨"base", "other"⟩

def loneCase : VerificationCase where
  id := ⟨"base", "lone"⟩
  title := ""
  description := none
  verification := .review
  instructions := none
  revision := "1.0.0"
  requirements := ⟨missingRequirement, []⟩

/-- The only case refers to a requirement that is not there, and is listed
under another one. -/
def damaged : Model :=
  { Model.empty "base" ["base"] ∅ with
    cases := (∅ : IdentifierMap VerificationCase).insert loneCase.id loneCase
    casesOfUrn := (∅ : Index String).add "base" loneCase.id
    casesOfRequirement := (∅ : Index Identifier).insert otherRequirement (.ofList [loneCase.id]) }

theorem eq_loneCase {id : Identifier} {verificationCase : VerificationCase}
    (found : damaged.cases[id]? = some verificationCase) :
    loneCase.id = id ∧ loneCase = verificationCase := by
  simpa [damaged, Std.ExtTreeMap.getElem?_insert] using found

theorem damage_found :
    damaged.Keyed ∧ damaged.Legible ∧
      .danglingRequirement loneCase.id missingRequirement ∈ damaged.inconsistencies ∧
      .missingEntry "svcs_from_req" missingRequirement.display loneCase.id ∈
        damaged.inconsistencies ∧
      .staleEntry "svcs_from_req" otherRequirement.display loneCase.id ∈
        damaged.inconsistencies := by
  have keyed : damaged.Keyed := by
    refine ⟨?_, by simp [damaged, Model.empty]⟩
    intro id verificationCase found
    obtain ⟨sameId, rfl⟩ := eq_loneCase found
    exact sameId
  have verifies {requirement : Identifier} (id : Identifier)
      (refers : damaged.Verifies id requirement) : requirement = missingRequirement := by
    obtain ⟨verificationCase, found, member⟩ := refers
    obtain ⟨_, rfl⟩ := eq_loneCase found
    exact List.mem_singleton.mp member
  have legible : damaged.Legible := by
    refine ⟨?_, by simp [damaged, Model.empty, Model.ReportsOn], ?_,
      by simp [damaged, Model.empty]⟩
    · intro id requirement refers
      rw [verifies id refers]
      unfold Identifier.IsPlain
      decide
    · intro key member
      have same : otherRequirement = key := by simpa [damaged] using member
      rw [← same]
      unfold Identifier.IsPlain
      decide
  have refers : damaged.Verifies loneCase.id missingRequirement :=
    ⟨loneCase, by simp [damaged], by decide⟩
  have notReferred : ¬damaged.Verifies loneCase.id otherRequirement := by
    intro refers
    have same := verifies _ refers
    revert same
    decide
  obtain ⟨dangling, _, _, _, _, ofRequirement, _⟩ := Model.findings_exact keyed legible
  refine ⟨keyed, legible, (dangling _ _).mpr ⟨refers, by simp [damaged, Model.empty]⟩,
    (ofRequirement.missing_iff (legible.requirement_plain refers)).mpr ⟨refers, ?_⟩,
    (ofRequirement.stale_iff (legible.casesOfRequirement_plain _ ?_)).mpr ⟨?_, notReferred⟩⟩
  · decide +kernel
  · simp [damaged]
  · decide +kernel

end Sample

end Traceability

import Traceability.Proofs.Model.Origin

/-!
Contract: which graphs have a model.

Besides valid imports it takes identifiers that do not clash. Definitions are
taken in the order of places, and each is checked against what is kept of those
before. A definition of which nothing is kept is therefore checked itself, but
stands in the way of none that comes later.

Owns: when a run of additions goes through, and the graphs that have a model.
Does not own: what the model holds.
-/

namespace Traceability

/-! ### Runs that go through -/

section Runs

variable {δ ε : Type} {identifier : δ → Identifier} {kept? : δ → Option ε}
  {before after : IdentifierMap ε} {id : Identifier}

theorem Admits.mem_iff {entry : δ} (admits : Admits identifier kept? entry before after) :
    id ∈ after ↔ id ∈ before ∨ (identifier entry = id ∧ (kept? entry).isSome) := by
  simp only [mem_iff_exists_getElem?, admits.found_iff, exists_or, exists_and_left,
    Option.isSome_iff_exists]

theorem AdmitsAll.mem_iff {entries : List δ}
    (admits : AdmitsAll identifier kept? entries ∅ after) :
    id ∈ after ↔ ∃ entry ∈ entries, identifier entry = id ∧ (kept? entry).isSome := by
  simp only [mem_iff_exists_getElem?, admits.found_iff, Std.ExtTreeMap.getElem?_empty,
    reduceCtorEq, false_or, Option.isSome_iff_exists]
  constructor
  · rintro ⟨kept, entry, member, sameId, keeps⟩
    exact ⟨entry, member, sameId, kept, keeps⟩
  · rintro ⟨entry, member, sameId, kept, keeps⟩
    exact ⟨kept, entry, member, sameId, keeps⟩

/-- A run of steps that each succeed on a free identifier goes through unless
an entry meets its identifier again after something was kept under it. -/
theorem exists_foldlM_of_separate {σ φ : Type} {step : σ → δ → Except φ σ}
    (identifier : δ → Identifier) (kept? : δ → Option ε) (view : σ → IdentifierMap ε)
    (Fixed : σ → Prop)
    (stepped : ∀ {start entry finish}, Fixed start → step start entry = .ok finish →
      Fixed finish ∧ Admits identifier kept? entry (view start) (view finish))
    (succeeds : ∀ {start entry}, identifier entry ∉ view start →
      ∃ finish, step start entry = .ok finish)
    {entries : List δ} {start : σ} (initially : Fixed start)
    (fresh : ∀ entry ∈ entries, identifier entry ∉ view start)
    (separate : entries.Pairwise fun earlier later =>
      (kept? earlier).isSome → identifier earlier ≠ identifier later) :
    ∃ finish, entries.foldlM step start = .ok finish := by
  induction entries generalizing start with
  | nil => exact ⟨start, rfl⟩
  | cons head tail inductionHypothesis =>
      obtain ⟨apart, separate⟩ := List.pairwise_cons.mp separate
      obtain ⟨between, first⟩ := succeeds (fresh head List.mem_cons_self)
      obtain ⟨still, admits⟩ := stepped initially first
      have freshAfter : ∀ entry ∈ tail, identifier entry ∉ view between := by
        intro entry member taken
        rcases admits.mem_iff.mp taken with before | ⟨sameId, keeps⟩
        · exact fresh entry (List.mem_cons_of_mem _ member) before
        · exact apart entry member keeps sameId
      obtain ⟨finish, ran⟩ := inductionHypothesis still freshAfter separate
      refine ⟨finish, ?_⟩
      rw [List.foldlM_cons, bind_eq_ok_iff]
      exact ⟨between, first, ran⟩

end Runs

/-! ### One definition under a free identifier -/

namespace Model

variable {model : Model} {visible : UrnSet}

theorem exists_mergeRequirement {requirement : Requirement}
    (free : requirement.id ∉ model.requirements) :
    ∃ merged, model.mergeRequirement requirement = .ok merged := by
  rw [← Std.ExtTreeMap.contains_iff_mem] at free
  rw [mergeRequirement, if_neg free]
  exact ⟨_, rfl⟩

theorem exists_mergeCase {verificationCase : VerificationCase}
    (free : verificationCase.id ∉ model.cases) :
    ∃ merged, model.mergeCase visible verificationCase = .ok merged := by
  rw [← Std.ExtTreeMap.contains_iff_mem] at free
  rw [mergeCase, if_neg free]
  split <;> exact ⟨_, rfl⟩

theorem exists_mergeResult {urn : String} {result : ManualResult}
    (free : result.id ∉ model.results) :
    ∃ merged, model.mergeResult visible urn result = .ok merged := by
  rw [← Std.ExtTreeMap.contains_iff_mem] at free
  rw [mergeResult, if_neg free]
  split <;> exact ⟨_, rfl⟩

end Model

namespace ModuleGraph

variable [PatternEngine] {graph : ModuleGraph} {closure : UrnMap UrnSet} {visible : UrnSet}
  {model : Model}

/-! ### The three stages -/

theorem exists_mergeRequirements
    (separate : (definitions Module.requirements graph.contributing).Pairwise
      fun earlier later => earlier.2.id ≠ later.2.id) :
    ∃ merged, graph.mergeRequirements closure = .ok merged := by
  rw [mergeRequirements, ← map_snd_definitions, List.foldlM_map]
  apply exists_foldlM_of_separate (fun definition => definition.2.id)
    (fun definition => some definition.2) Model.requirements
    (fun current => current.cases = ∅ ∧ current.results = ∅) admits_of_requirementStep
    Model.exists_mergeRequirement ⟨rfl, rfl⟩
  · simp [Model.empty]
  · apply separate.imp
    intro earlier later apart _
    exact apart

theorem exists_mergeCases (noCases : model.cases = ∅)
    (separate : (definitions Module.caseMap graph.modules.toList).Pairwise
      fun earlier later =>
        (earlier.2.retain? (Model.resolvesRequirement visible model.requirements)).isSome →
          earlier.2.id ≠ later.2.id) :
    ∃ merged, graph.mergeCases visible model = .ok merged := by
  rw [mergeCases_eq_foldlM]
  exact exists_foldlM_of_separate (fun definition => definition.2.id)
    (fun definition =>
      definition.2.retain? (Model.resolvesRequirement visible model.requirements))
    Model.cases
    (fun current =>
      current.requirements = model.requirements ∧ current.results = model.results)
    admits_of_caseStep Model.exists_mergeCase ⟨rfl, rfl⟩ (by simp [noCases]) separate

theorem exists_mergeResults (noResults : model.results = ∅)
    (separate : (definitions Module.resultMap graph.modules.toList).Pairwise
      fun earlier later =>
        (earlier.2.retain? (Model.resolvesCase visible model.cases earlier.1.urn)).isSome →
          earlier.2.id ≠ later.2.id) :
    ∃ merged, graph.mergeResults visible model = .ok merged := by
  rw [mergeResults_eq_foldlM]
  exact exists_foldlM_of_separate (fun definition => definition.2.id)
    (fun definition =>
      definition.2.retain? (Model.resolvesCase visible model.cases definition.1.urn))
    Model.results
    (fun current =>
      current.requirements = model.requirements ∧ current.cases = model.cases)
    admits_of_resultStep Model.exists_mergeResult ⟨rfl, rfl⟩ (by simp [noResults]) separate

/-! ### What is kept -/

/-- A case refers to a requirement that a module contributes, under a urn that
the root may see. -/
def ShowsRequirement (graph : ModuleGraph) (original : VerificationCase) : Prop :=
  ∃ reference ∈ original.requirements.toList,
    reference.urn ∈ graph.visible graph.accessible ∧
      ∃ place requirement, graph.definedAt? Module.requirements place = some requirement ∧
        graph.Contributes place.urn ∧ requirement.id = reference

/-- A result of the module `urn` refers to a case that shows a requirement,
under a urn that the root or the module itself may see. -/
def ShowsCase (graph : ModuleGraph) (urn : String) (original : ManualResult) : Prop :=
  ∃ reference ∈ original.cases.toList,
    (reference.urn = urn ∨ reference.urn ∈ graph.visible graph.accessible) ∧
      ∃ place verificationCase, graph.definedAt? Module.caseMap place = some verificationCase ∧
        verificationCase.id = reference ∧ graph.ShowsRequirement verificationCase

variable {requirements : IdentifierMap Requirement} {cases : IdentifierMap VerificationCase}

theorem isSome_retain?_resolvesRequirement_iff
    (ofRequirements : graph.AdmitsRequirements requirements) {original : VerificationCase} :
    (original.retain? (Model.resolvesRequirement (graph.visible graph.accessible)
      requirements)).isSome ↔ graph.ShowsRequirement original := by
  apply Referring.isSome_retain?_iff.trans
  apply exists_congr
  intro reference
  apply and_congr_right
  intro _
  simp only [Model.resolvesRequirement, Bool.and_eq_true, Std.ExtTreeSet.contains_iff_mem,
    Std.ExtTreeMap.contains_iff_mem, ofRequirements.mem_iff, Prod.exists,
    mem_definitions_contributing_iff, Option.isSome_some, and_true, Contributes, and_assoc]

theorem isSome_retain?_resolvesCase_iff (ofRequirements : graph.AdmitsRequirements requirements)
    (ofCases : graph.AdmitsCases requirements cases) {urn : String} {original : ManualResult} :
    (original.retain? (Model.resolvesCase (graph.visible graph.accessible) cases urn)).isSome ↔
      graph.ShowsCase urn original := by
  apply Referring.isSome_retain?_iff.trans
  apply exists_congr
  intro reference
  apply and_congr_right
  intro _
  simp only [Model.resolvesCase, Bool.and_eq_true, Bool.or_eq_true, decide_eq_true_iff,
    Std.ExtTreeSet.contains_iff_mem, Std.ExtTreeMap.contains_iff_mem, ofCases.mem_iff,
    Prod.exists, mem_definitions_toList_iff,
    isSome_retain?_resolvesRequirement_iff ofRequirements]

/-! ### Graphs that have a model -/

theorem exists_merge_iff_pairwise :
    (∃ merged, graph.merge = .ok merged) ↔
      graph.ValidImports ∧
      ((definitions Module.requirements graph.contributing).Pairwise fun earlier later =>
        earlier.2.id ≠ later.2.id) ∧
      ((definitions Module.caseMap graph.modules.toList).Pairwise fun earlier later =>
        graph.ShowsRequirement earlier.2 → earlier.2.id ≠ later.2.id) ∧
      (definitions Module.resultMap graph.modules.toList).Pairwise fun earlier later =>
        graph.ShowsCase earlier.1.urn earlier.2 → earlier.2.id ≠ later.2.id := by
  constructor
  · rintro ⟨merged, merges⟩
    obtain ⟨valid, ofRequirements, ofCases, ofResults⟩ := admissions_of_merge merges
    have requirements := ofRequirements.separate
    have cases := ofCases.separate
    have results := ofResults.separate
    simp only [Option.isSome_some, forall_const] at requirements
    simp only [isSome_retain?_resolvesRequirement_iff ofRequirements] at cases
    simp only [isSome_retain?_resolvesCase_iff ofRequirements ofCases] at results
    exact ⟨valid, requirements, cases, results⟩
  · rintro ⟨valid, requirements, cases, results⟩
    have accepted := checkImports_eq_ok_iff.mpr ⟨valid, rfl⟩
    obtain ⟨first, requirementStage⟩ : ∃ first,
        graph.mergeRequirements graph.accessible = .ok first :=
      exists_mergeRequirements requirements
    obtain ⟨⟨noCases, noResults⟩, ofRequirements⟩ :=
      admitsAll_of_mergeRequirements requirementStage
    simp only [← isSome_retain?_resolvesRequirement_iff ofRequirements] at cases
    obtain ⟨second, caseStage⟩ := exists_mergeCases noCases cases
    obtain ⟨⟨_, stillNoResults⟩, ofCases⟩ := admitsAll_of_mergeCases caseStage
    rw [noCases] at ofCases
    simp only [← isSome_retain?_resolvesCase_iff ofRequirements ofCases] at results
    obtain ⟨third, resultStage⟩ := exists_mergeResults (stillNoResults.trans noResults) results
    refine ⟨graph.mergeAnnotations third, ?_⟩
    simp only [merge, mergeBy, build, bind_eq_ok_iff]
    exact ⟨_, accepted, first, requirementStage, second, caseStage, third, resultStage, rfl⟩

theorem pairwise_contributing :
    graph.contributing.Pairwise fun earlier later => compare earlier.1 later.1 = .lt :=
  Std.ExtTreeMap.ordered_keys_toList.filter _

/-- Imports are valid, no requirement that contributes is defined twice, and no
case or result comes after one of the same identifier of which something is
kept. One of which nothing is kept may come first. -/
structure Mergeable (graph : ModuleGraph) : Prop where
  imports : graph.ValidImports
  requirement : ∀ earlier later, earlier.Before later → ∀ first second,
    graph.definedAt? Module.requirements earlier = some first ∧ graph.Contributes earlier.urn →
      graph.definedAt? Module.requirements later = some second ∧ graph.Contributes later.urn →
        first.id ≠ second.id
  verificationCase : ∀ earlier later, earlier.Before later → ∀ first second,
    graph.definedAt? Module.caseMap earlier = some first →
      graph.definedAt? Module.caseMap later = some second →
        graph.ShowsRequirement first → first.id ≠ second.id
  result : ∀ earlier later, earlier.Before later → ∀ first second,
    graph.definedAt? Module.resultMap earlier = some first →
      graph.definedAt? Module.resultMap later = some second →
        graph.ShowsCase earlier.urn first → first.id ≠ second.id

theorem exists_merge_iff : (∃ merged, graph.merge = .ok merged) ↔ graph.Mergeable := by
  rw [exists_merge_iff_pairwise, pairwise_definitions_iff pairwise_contributing,
    pairwise_definitions_iff Std.ExtTreeMap.ordered_keys_toList,
    pairwise_definitions_iff Std.ExtTreeMap.ordered_keys_toList]
  simp only [mem_definitions_toList_iff, mem_definitions_contributing_iff]
  constructor
  · rintro ⟨imports, requirement, verificationCase, result⟩
    exact ⟨imports, requirement, verificationCase, result⟩
  · rintro ⟨imports, requirement, verificationCase, result⟩
    exact ⟨imports, requirement, verificationCase, result⟩

theorem exists_generate_iff_merge {filter : Bool} :
    (∃ model, graph.generate filter = .ok model) ↔ ∃ merged, graph.merge = .ok merged := by
  constructor
  · rintro ⟨model, generates⟩
    obtain ⟨merged, merges, _⟩ := generate_eq_ok_iff.mp generates
    exact ⟨merged, merges⟩
  · rintro ⟨merged, merges⟩
    exact ⟨_, generate_eq_ok_iff.mpr ⟨merged, merges, rfl⟩⟩

/-- A graph has a model, filtered or not, exactly if its imports are valid and
no definition meets its identifier where something was kept under it. -/
theorem generates_iff (graph : ModuleGraph) (filter : Bool) :
    (∃ model, graph.generate filter = .ok model) ↔ graph.Mergeable :=
  exists_generate_iff_merge.trans exists_merge_iff

end ModuleGraph

namespace Sample

/-- The library checks a requirement that nobody has. The root checks its own
under the same name. -/
def sharedName : ModuleGraph :=
  ModuleGraph.empty "root"
    |>.insert (module "root" [⟨"root", "own"⟩] ∅
        [(⟨"shared", "check"⟩, ⟨⟨"root", "own"⟩, []⟩)] ∅ []) ["library"]
    |>.insert (module "library" [] ∅ [(⟨"shared", "check"⟩, ⟨⟨"library", "missing"⟩, []⟩)] ∅ []) []

/-- Two modules define one case, and there is a model. -/
theorem repeated_case_accepted :
    sharedName.definedAt? Module.caseMap ⟨"library", ⟨"shared", "check"⟩⟩ =
        some (verificationCase ⟨"shared", "check"⟩ ⟨⟨"library", "missing"⟩, []⟩) ∧
      sharedName.definedAt? Module.caseMap ⟨"root", ⟨"shared", "check"⟩⟩ =
        some (verificationCase ⟨"shared", "check"⟩ ⟨⟨"root", "own"⟩, []⟩) ∧
      ∀ filter, ∃ model, sharedName.generate filter = .ok model := by
  refine ⟨by decide +kernel, by decide +kernel, ?_⟩
  intro filter
  have evaluated : (sharedName.generate filter).toOption.any fun _ => true := by
    cases filter <;> decide +kernel
  obtain ⟨model, accepted, _⟩ := any_toOption_iff.mp evaluated
  exact ⟨model, accepted⟩

end Sample

end Traceability

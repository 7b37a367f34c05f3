import Traceability.Proofs.Model.Admission
import Traceability.Proofs.Model.Visibility

/-!
Contract: where the entities of a filtered model come from.

Merging and narrowing are two steps, but what they leave can be told from the
documents at once. A requirement is there if a module that contributes defines
it and some chain of imports passes it on to the root. What the first step
strips from a case the second would strip as well, so that a case keeps exactly
the requirements that are there.

Owns: what a filtered model holds in terms of definitions and chains, that
nothing in it has two origins, and what becomes of the requirements that the
root defines itself.
Does not own: whether there is a model at all.
-/

namespace Traceability

/-- References lost in two steps are lost at once. -/
theorem Referring.exists_retain?_retain?_iff {ε : Type} [Referring ε]
    {first second both : Identifier → Bool} (entity kept : ε)
    (agree : ∀ reference, (first reference && second reference) = both reference) :
    (∃ between, retain? entity first = some between ∧ retain? between second = some kept) ↔
      retain? entity both = some kept := by
  rw [← Option.bind_eq_some_iff, retain?_bind_retain?]
  simp only [agree]

/-! ### Chains to an entity -/

namespace Pass

variable [PatternEngine]

/-- Some chain of imports passes an entity on to the root. -/
def Permits (pass : Pass) (graph : ModuleGraph) (id : Identifier) : Prop :=
  ∃ importers, graph.FollowedChain graph.root importers id.urn ∧
    ∀ importer ∈ importers, pass.blocks graph importer id = false

/-- Somebody on some chain of imports blocks an entity. -/
def Excludes (pass : Pass) (graph : ModuleGraph) (id : Identifier) : Prop :=
  ∃ importers, graph.FollowedChain graph.root importers id.urn ∧
    ∃ importer ∈ importers, pass.blocks graph importer id

end Pass

namespace ModuleGraph

variable [PatternEngine] {graph : ModuleGraph}

/-- Whether the requirements of a module are merged. -/
def Contributes (graph : ModuleGraph) (urn : String) : Prop :=
  graph.isMicroservice urn = false ∨ urn = graph.root

theorem FollowedChain.eq_or_followed {first last : String} {importers : List String}
    (chain : graph.FollowedChain first importers last) :
    last = first ∨ graph.isMicroservice last = false := by
  induction chain with
  | here => exact Or.inl rfl
  | step _ follows _ inductionHypothesis =>
      rcases inductionHypothesis with rfl | followed
      · exact Or.inr follows
      · exact Or.inr followed

/-- A chain from the root ends at a module that the root may see. -/
theorem FollowedChain.mem_visible {last : String} {importers : List String}
    (chain : graph.FollowedChain graph.root importers last) :
    last ∈ graph.visible graph.accessible := by
  rw [mem_visible_iff]
  rcases chain.eq_or_followed with isRoot | followed
  · exact Or.inl isRoot
  · rcases chain.eq_or_reaches last (by simp) with isRoot | reaches
    · exact Or.inl isRoot
    · exact Or.inr ⟨reaches, followed⟩

/-! ### The merged model -/

/-- A map holds all requirements that contribute. -/
def AdmitsRequirements (graph : ModuleGraph) (requirements : IdentifierMap Requirement) : Prop :=
  AdmitsAll (fun definition : Place × Requirement => definition.2.id)
    (fun definition => some definition.2)
    (definitions Module.requirements graph.contributing) ∅ requirements

/-- A map holds what these requirements leave of all cases. -/
def AdmitsCases (graph : ModuleGraph) (requirements : IdentifierMap Requirement)
    (cases : IdentifierMap VerificationCase) : Prop :=
  AdmitsAll (fun definition : Place × VerificationCase => definition.2.id)
    (fun definition => definition.2.retain?
      (Model.resolvesRequirement (graph.visible graph.accessible) requirements))
    (definitions Module.caseMap graph.modules.toList) ∅ cases

/-- A map holds what these cases leave of all results. -/
def AdmitsResults (graph : ModuleGraph) (cases : IdentifierMap VerificationCase)
    (results : IdentifierMap ManualResult) : Prop :=
  AdmitsAll (fun definition : Place × ManualResult => definition.2.id)
    (fun definition => definition.2.retain?
      (Model.resolvesCase (graph.visible graph.accessible) cases definition.1.urn))
    (definitions Module.resultMap graph.modules.toList) ∅ results

/-- What each stage of a merge takes from the documents. -/
structure Admissions (graph : ModuleGraph) (merged : Model) : Prop where
  requirements : graph.AdmitsRequirements merged.requirements
  cases : graph.AdmitsCases merged.requirements merged.cases
  results : graph.AdmitsResults merged.cases merged.results

variable {merged model : Model} {filter : Bool}

theorem admissions_of_merge (merges : graph.merge = .ok merged) :
    graph.ValidImports ∧ graph.Admissions merged := by
  obtain ⟨closure, ofRequirements, ofCases, ofResults, accepted, requirementStage, caseStage,
    resultStage, rfl⟩ := stages_of_merge merges
  obtain ⟨valid, rfl⟩ := checkImports_eq_ok_iff.mp accepted
  obtain ⟨⟨noCases, noResults⟩, requirements⟩ := admitsAll_of_mergeRequirements requirementStage
  obtain ⟨⟨sameRequirements, stillNoResults⟩, cases⟩ := admitsAll_of_mergeCases caseStage
  obtain ⟨⟨sameRequirementsAgain, sameCases⟩, results⟩ := admitsAll_of_mergeResults resultStage
  rw [noCases, ← sameRequirements, ← sameRequirementsAgain, ← sameCases] at cases
  rw [stillNoResults, noResults, ← sameCases] at results
  rw [← sameRequirements, ← sameRequirementsAgain] at requirements
  exact ⟨valid, requirements, cases, results⟩

theorem Admissions.requirements_iff (admissions : graph.Admissions merged) {id : Identifier}
    {requirement : Requirement} :
    merged.requirements[id]? = some requirement ↔ requirement.id = id ∧
      ∃ place, graph.definedAt? Module.requirements place = some requirement ∧
        graph.Contributes place.urn := by
  apply admissions.requirements.found_iff.trans
  simp only [Std.ExtTreeMap.getElem?_empty, reduceCtorEq, false_or, Prod.exists,
    mem_definitions_contributing_iff, Option.some.injEq, Contributes]
  constructor
  · rintro ⟨place, _, defined, sameId, rfl⟩
    exact ⟨sameId, place, defined⟩
  · rintro ⟨sameId, place, defined⟩
    exact ⟨place, requirement, defined, sameId, rfl⟩

theorem Admissions.cases_iff (admissions : graph.Admissions merged) {id : Identifier}
    {kept : VerificationCase} :
    merged.cases[id]? = some kept ↔
      ∃ place original, graph.definedAt? Module.caseMap place = some original ∧
        original.id = id ∧ original.retain?
          (Model.resolvesRequirement (graph.visible graph.accessible) merged.requirements) =
            some kept := by
  apply admissions.cases.found_iff.trans
  simp only [Std.ExtTreeMap.getElem?_empty, reduceCtorEq, false_or, Prod.exists,
    mem_definitions_toList_iff]

theorem Admissions.results_iff (admissions : graph.Admissions merged) {id : Identifier}
    {kept : ManualResult} :
    merged.results[id]? = some kept ↔
      ∃ place original, graph.definedAt? Module.resultMap place = some original ∧
        original.id = id ∧ original.retain?
          (Model.resolvesCase (graph.visible graph.accessible) merged.cases place.urn) =
            some kept := by
  apply admissions.results.found_iff.trans
  simp only [Std.ExtTreeMap.getElem?_empty, reduceCtorEq, false_or, Prod.exists,
    mem_definitions_toList_iff]

/-! ### The filtered model -/

theorem filtered_of_generate (filtered : graph.generate true = .ok model) :
    ∃ merged, graph.ValidImports ∧ merged.Coherent ∧ graph.Admissions merged ∧
      model = merged.narrow graph := by
  obtain ⟨merged, merges, same⟩ := generate_eq_ok_iff.mp filtered
  obtain ⟨valid, admissions⟩ := admissions_of_merge merges
  exact ⟨merged, valid, coherent_of_merge merges, admissions, same⟩

variable {id : Identifier}

/-- A requirement is left if a module that contributes defines it and some
chain passes it on. -/
theorem requirements_of_filtered (filtered : graph.generate true = .ok model)
    {kept : Requirement} :
    model.requirements[id]? = some kept ↔
      ∃ place requirement, graph.definedAt? Module.requirements place = some requirement ∧
        requirement.id = id ∧ graph.Contributes place.urn ∧
          Pass.requirements.Permits graph requirement.id ∧ requirement = kept := by
  obtain ⟨merged, valid, coherent, admissions, rfl⟩ := filtered_of_generate filtered
  rw [coherent.requirements_narrow, coherent.requirements_afterRequirements valid,
    admissions.requirements_iff]
  constructor
  · rintro ⟨⟨rfl, place, defined, contributes⟩, permitted⟩
    exact ⟨place, kept, defined, rfl, contributes, permitted, rfl⟩
  · rintro ⟨place, _, defined, rfl, contributes, permitted, rfl⟩
    exact ⟨⟨rfl, place, defined, contributes⟩, permitted⟩

/-- What is left has been merged, and the root may see it. -/
theorem resolvesRequirement_and_left (coherent : merged.Coherent) (valid : graph.ValidImports)
    (id : Identifier) :
    (Model.resolvesRequirement (graph.visible graph.accessible) merged.requirements id &&
      (merged.narrow graph).requirements.contains id) =
        (merged.narrow graph).requirements.contains id := by
  cases left : (merged.narrow graph).requirements.contains id with
  | false => exact Bool.and_false _
  | true =>
      obtain ⟨requirement, found⟩ :=
        mem_iff_exists_getElem?.mp (Std.ExtTreeMap.contains_iff_mem.mp left)
      rw [coherent.requirements_narrow, coherent.requirements_afterRequirements valid] at found
      obtain ⟨foundMerged, importers, chain, _⟩ := found
      have visible := chain.mem_visible
      have present : id ∈ merged.requirements := mem_iff_exists_getElem?.mpr ⟨_, foundMerged⟩
      simp [Model.resolvesRequirement, visible, present]

theorem resolvesCase_and_left (coherent : merged.Coherent) (valid : graph.ValidImports)
    (urn : String) (id : Identifier) :
    (Model.resolvesCase (graph.visible graph.accessible) merged.cases urn id &&
      (merged.narrow graph).cases.contains id) =
        Model.resolvesCase (graph.visible graph.accessible) (merged.narrow graph).cases urn id := by
  cases left : (merged.narrow graph).cases.contains id with
  | false => simp [Model.resolvesCase, left]
  | true =>
      have present : id ∈ merged.cases := by
        obtain ⟨original, found, _⟩ :=
          (coherent.mem_cases_narrow_iff valid).mp (Std.ExtTreeMap.contains_iff_mem.mp left)
        exact mem_iff_exists_getElem?.mpr ⟨original, found⟩
      simp [Model.resolvesCase, left, present]

/-- A case is left with the requirements that are left, unless somebody
excludes it. -/
theorem cases_of_filtered (filtered : graph.generate true = .ok model)
    {kept : VerificationCase} :
    model.cases[id]? = some kept ↔
      ∃ place original, graph.definedAt? Module.caseMap place = some original ∧
        original.id = id ∧ original.retain? model.requirements.contains = some kept ∧
          ¬Pass.cases.Excludes graph original.id := by
  obtain ⟨merged, valid, coherent, admissions, rfl⟩ := filtered_of_generate filtered
  have atOnce (original : VerificationCase) :=
    Referring.exists_retain?_retain?_iff original kept (resolvesRequirement_and_left coherent valid)
  rw [coherent.cases_narrow valid]
  simp only [admissions.cases_iff]
  constructor
  · rintro ⟨⟨stripped, ⟨place, original, defined, rfl, strips⟩, retained⟩, free⟩
    exact ⟨place, original, defined, rfl, (atOnce original).mp ⟨stripped, strips, retained⟩, free⟩
  · rintro ⟨place, original, defined, rfl, retained, free⟩
    obtain ⟨stripped, strips, retained⟩ := (atOnce original).mpr retained
    exact ⟨⟨stripped, ⟨place, original, defined, rfl, strips⟩, retained⟩, free⟩

/-- A result is left with those of the cases left that the root or its own
module may see. -/
theorem results_of_filtered (filtered : graph.generate true = .ok model) {kept : ManualResult} :
    model.results[id]? = some kept ↔
      ∃ place original, graph.definedAt? Module.resultMap place = some original ∧
        original.id = id ∧ original.retain?
          (Model.resolvesCase (graph.visible graph.accessible) model.cases place.urn) =
            some kept := by
  obtain ⟨merged, valid, coherent, admissions, rfl⟩ := filtered_of_generate filtered
  have atOnce (urn : String) (original : ManualResult) :=
    Referring.exists_retain?_retain?_iff original kept (resolvesCase_and_left coherent valid urn)
  rw [coherent.results_narrow]
  simp only [Option.bind_eq_some_iff, admissions.results_iff]
  constructor
  · rintro ⟨stripped, ⟨place, original, defined, sameId, strips⟩, retained⟩
    exact ⟨place, original, defined, sameId,
      (atOnce place.urn original).mp ⟨stripped, strips, retained⟩⟩
  · rintro ⟨place, original, defined, sameId, retained⟩
    obtain ⟨stripped, strips, retained⟩ := (atOnce place.urn original).mpr retained
    exact ⟨stripped, ⟨place, original, defined, sameId, strips⟩, retained⟩

/-! ### One origin -/

variable {first second : Place}

/-- Two places that contribute do not define one requirement. -/
theorem place_eq_of_requirements (filtered : graph.generate true = .ok model)
    {requirement other : Requirement}
    (firstDefined : graph.definedAt? Module.requirements first = some requirement)
    (secondDefined : graph.definedAt? Module.requirements second = some other)
    (firstContributes : graph.Contributes first.urn)
    (secondContributes : graph.Contributes second.urn) (same : requirement.id = other.id) :
    first = second := by
  obtain ⟨_, _, _, admissions, _⟩ := filtered_of_generate filtered
  have equal := admissions.requirements.eq_of_kept
    (mem_definitions_contributing_iff.mpr ⟨firstDefined, firstContributes⟩)
    (mem_definitions_contributing_iff.mpr ⟨secondDefined, secondContributes⟩) rfl rfl same
  exact congrArg Prod.fst equal

/-- Of two places that define one case, one keeps nothing of it. -/
theorem place_eq_of_cases (filtered : graph.generate true = .ok model)
    {original other : VerificationCase}
    (firstDefined : graph.definedAt? Module.caseMap first = some original)
    (secondDefined : graph.definedAt? Module.caseMap second = some other)
    (firstKeeps : ∃ reference ∈ original.requirements.toList, reference ∈ model.requirements)
    (secondKeeps : ∃ reference ∈ other.requirements.toList, reference ∈ model.requirements)
    (same : original.id = other.id) : first = second := by
  obtain ⟨merged, valid, coherent, admissions, rfl⟩ := filtered_of_generate filtered
  have keptBefore {definition : VerificationCase}
      (keeps : ∃ reference ∈ definition.requirements.toList,
        reference ∈ (merged.narrow graph).requirements) :
      (definition.retain? (Model.resolvesRequirement (graph.visible graph.accessible)
        merged.requirements)).isSome := by
    obtain ⟨reference, member, left⟩ := keeps
    have resolves := resolvesRequirement_and_left coherent valid reference
    rw [Std.ExtTreeMap.contains_iff_mem.mpr left, Bool.and_true] at resolves
    exact Referring.isSome_retain?_iff.mpr ⟨reference, member, resolves⟩
  have equal := admissions.cases.eq_of_kept (mem_definitions_toList_iff.mpr firstDefined)
    (mem_definitions_toList_iff.mpr secondDefined) (keptBefore firstKeeps)
    (keptBefore secondKeeps) same
  exact congrArg Prod.fst equal

/-- Of two places that define one result, one keeps nothing of it. -/
theorem place_eq_of_results (filtered : graph.generate true = .ok model)
    {original other : ManualResult}
    (firstDefined : graph.definedAt? Module.resultMap first = some original)
    (secondDefined : graph.definedAt? Module.resultMap second = some other)
    (firstKeeps : ∃ reference ∈ original.cases.toList,
      Model.resolvesCase (graph.visible graph.accessible) model.cases first.urn reference)
    (secondKeeps : ∃ reference ∈ other.cases.toList,
      Model.resolvesCase (graph.visible graph.accessible) model.cases second.urn reference)
    (same : original.id = other.id) : first = second := by
  obtain ⟨merged, valid, coherent, admissions, rfl⟩ := filtered_of_generate filtered
  have keptBefore {urn : String} {definition : ManualResult}
      (keeps : ∃ reference ∈ definition.cases.toList,
        Model.resolvesCase (graph.visible graph.accessible) (merged.narrow graph).cases urn
          reference) :
      (definition.retain? (Model.resolvesCase (graph.visible graph.accessible)
        merged.cases urn)).isSome := by
    obtain ⟨reference, member, left⟩ := keeps
    rw [← resolvesCase_and_left coherent valid, Bool.and_eq_true] at left
    exact Referring.isSome_retain?_iff.mpr ⟨reference, member, left.1⟩
  have equal := admissions.results.eq_of_kept (mem_definitions_toList_iff.mpr firstDefined)
    (mem_definitions_toList_iff.mpr secondDefined) (keptBefore firstKeeps)
    (keptBefore secondKeeps) same
  exact congrArg Prod.fst equal

/-! ### What the root defines itself -/

/-- Of the requirements in the document of the root, those under its own urn
are always left. One under another urn counts as inherited from there: it is
left if some chain of imports passes it on. -/
theorem own_requirement_left_iff (filtered : graph.generate true = .ok model) {key : Identifier}
    {requirement : Requirement}
    (defined : graph.definedAt? Module.requirements ⟨graph.root, key⟩ = some requirement) :
    (requirement.id.urn = graph.root →
      model.requirements[requirement.id]? = some requirement) ∧
    (model.requirements[requirement.id]? = some requirement ↔
      Pass.requirements.Permits graph requirement.id) := by
  have left_iff : model.requirements[requirement.id]? = some requirement ↔
      Pass.requirements.Permits graph requirement.id := by
    rw [requirements_of_filtered filtered]
    constructor
    · rintro ⟨_, _, _, sameId, _, permitted, rfl⟩
      exact permitted
    · intro permitted
      exact ⟨⟨graph.root, key⟩, requirement, defined, rfl, Or.inr rfl, permitted, rfl⟩
  refine ⟨fun own => left_iff.mpr ?_, left_iff⟩
  exact ⟨[], own ▸ .here, by simp⟩

end ModuleGraph

namespace Sample

theorem own_requirement_left :
    ∃ model, graph.generate true = .ok model ∧
      graph.definedAt? Module.requirements ⟨"root", ⟨"root", "own"⟩⟩ =
        some (requirement ⟨"root", "own"⟩) ∧
      model.requirements[(⟨"root", "own"⟩ : Identifier)]? =
        some (requirement ⟨"root", "own"⟩) := by
  obtain ⟨model, filtered⟩ := generates true
  have defined : graph.definedAt? Module.requirements ⟨graph.root, ⟨"root", "own"⟩⟩ =
      some (requirement ⟨"root", "own"⟩) := by decide +kernel
  exact ⟨model, filtered, defined,
    (ModuleGraph.own_requirement_left_iff filtered defined).1 (by decide)⟩

/-- The root defines a requirement under the urn of a library, and drops what
the library has under this name. -/
def adopting : ModuleGraph :=
  ModuleGraph.empty "root"
    |>.insert (module "root" [⟨"library", "adopted"⟩]
        (.ofList [("library", FilterRule.excluding [⟨"library", "adopted"⟩])]) [] ∅ [])
      ["library"]
    |>.insert (module "library" [] ∅ [] ∅ []) []

/-- A filter takes from the root what its own document defines. -/
theorem adopted_requirement_dropped :
    adopting.definedAt? Module.requirements ⟨adopting.root, ⟨"library", "adopted"⟩⟩ =
        some (requirement ⟨"library", "adopted"⟩) ∧
      ∃ model, adopting.generate true = .ok model ∧
        (⟨"library", "adopted"⟩ : Identifier) ∉ model.requirements := by
  have evaluated : (adopting.generate true).toOption.any fun model =>
      (⟨"library", "adopted"⟩ : Identifier) ∉ model.requirements := by decide +kernel
  obtain ⟨model, filtered, absent⟩ := any_toOption_iff.mp evaluated
  exact ⟨by decide +kernel, model, filtered, of_decide_eq_true absent⟩

end Sample

end Traceability

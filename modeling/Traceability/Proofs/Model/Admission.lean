import Traceability.Model.Generation
import Traceability.Proofs.Definition
import Traceability.Proofs.ImportGraph.Reachability
import Traceability.Proofs.Model.Narrowing

/-!
Contract: a merged model holds exactly what the root may see of all definitions.

Each of the three stages of a merge takes its definitions one by one. What is
kept of a definition depends on the stages before and not on the definitions
before, and its identifier must be free even if nothing is kept of it. Hence a
definition of which something is kept is the last one of its identifier, and
nothing added is ever replaced.

Owns: what a run of additions leaves in a map, the three stages, and the
entities of a merged model.
Does not own: indices, annotations, and what filtering takes away.
-/

namespace Traceability

/-! ### Runs of additions -/

section Runs

variable {δ ε : Type} {identifier : δ → Identifier} {kept? : δ → Option ε}
  {before after : IdentifierMap ε}

/-- An entry under a free identifier: what is kept of it is added. -/
structure Admits (identifier : δ → Identifier) (kept? : δ → Option ε) (entry : δ)
    (before after : IdentifierMap ε) : Prop where
  fresh : identifier entry ∉ before
  found_iff : ∀ {id : Identifier} {kept : ε}, after[id]? = some kept ↔
    before[id]? = some kept ∨ (identifier entry = id ∧ kept? entry = some kept)

/-- Entries one after the other, each under a free identifier. -/
structure AdmitsAll (identifier : δ → Identifier) (kept? : δ → Option ε) (entries : List δ)
    (before after : IdentifierMap ε) : Prop where
  fresh : ∀ entry ∈ entries, identifier entry ∉ before
  found_iff : ∀ {id : Identifier} {kept : ε}, after[id]? = some kept ↔
    before[id]? = some kept ∨
      ∃ entry ∈ entries, identifier entry = id ∧ kept? entry = some kept
  separate : entries.Pairwise fun earlier later =>
    (kept? earlier).isSome → identifier earlier ≠ identifier later

theorem Admits.of_none {entry : δ} (fresh : identifier entry ∉ before)
    (dropped : kept? entry = none) : Admits identifier kept? entry before before :=
  ⟨fresh, by simp [dropped]⟩

theorem Admits.of_some {entry : δ} {kept : ε} (fresh : identifier entry ∉ before)
    (found : kept? entry = some kept) :
    Admits identifier kept? entry before (before.insert (identifier entry) kept) where
  fresh := fresh
  found_iff := by
    intro id other
    rw [Std.ExtTreeMap.getElem?_insert]
    simp only [Std.LawfulEqOrd.compare_eq_iff_eq]
    split
    case isTrue same =>
      subst same
      have absent : before[identifier entry]? = none :=
        Std.ExtTreeMap.getElem?_eq_none fresh
      simp [found, absent]
    case isFalse different => simp [different]

theorem Admits.mem {entry : δ} (admits : Admits identifier kept? entry before after)
    {id : Identifier} (member : id ∈ before) : id ∈ after := by
  obtain ⟨kept, found⟩ := mem_iff_exists_getElem?.mp member
  exact mem_iff_exists_getElem?.mpr ⟨kept, admits.found_iff.mpr (Or.inl found)⟩

theorem AdmitsAll.nil : AdmitsAll identifier kept? [] before before where
  fresh := by simp
  found_iff := by simp
  separate := .nil

theorem AdmitsAll.cons {head : δ} {tail : List δ} {between : IdentifierMap ε}
    (first : Admits identifier kept? head before between)
    (others : AdmitsAll identifier kept? tail between after) :
    AdmitsAll identifier kept? (head :: tail) before after where
  fresh := by
    intro entry member taken
    rcases List.mem_cons.mp member with rfl | later
    · exact first.fresh taken
    · exact others.fresh entry later (first.mem taken)
  found_iff := by
    intro id kept
    rw [others.found_iff, first.found_iff, or_assoc]
    simp only [List.mem_cons, or_and_right, exists_or, exists_eq_left]
  separate := by
    refine List.pairwise_cons.mpr ⟨?_, others.separate⟩
    intro later member keeps same
    obtain ⟨kept, keeps⟩ := Option.isSome_iff_exists.mp keeps
    apply others.fresh later member
    rw [← same]
    exact mem_iff_exists_getElem?.mpr ⟨kept, first.found_iff.mpr (Or.inr ⟨rfl, keeps⟩)⟩

/-- Of all entries under an identifier at most one is kept. -/
theorem AdmitsAll.eq_of_kept {entries : List δ}
    (admits : AdmitsAll identifier kept? entries before after) {first second : δ}
    (firstMember : first ∈ entries) (secondMember : second ∈ entries)
    (firstKept : (kept? first).isSome) (secondKept : (kept? second).isSome)
    (same : identifier first = identifier second) : first = second := by
  obtain ⟨i, iBound, rfl⟩ := List.mem_iff_getElem.mp firstMember
  obtain ⟨j, jBound, rfl⟩ := List.mem_iff_getElem.mp secondMember
  have separate := List.pairwise_iff_getElem.mp admits.separate
  rcases Nat.lt_trichotomy i j with earlier | rfl | later
  · exact absurd same (separate i j iBound jBound earlier firstKept)
  · rfl
  · exact absurd same.symm (separate j i jBound iBound later secondKept)

/-- A run of steps that each add to one map of a state. -/
theorem admitsAll_of_foldlM {σ φ : Type} {step : σ → δ → Except φ σ}
    (view : σ → IdentifierMap ε) (Fixed : σ → Prop)
    (stepped : ∀ {start entry finish}, Fixed start → step start entry = .ok finish →
      Fixed finish ∧ Admits identifier kept? entry (view start) (view finish))
    {entries : List δ} {start finish : σ} (initially : Fixed start)
    (ran : entries.foldlM step start = .ok finish) :
    Fixed finish ∧ AdmitsAll identifier kept? entries (view start) (view finish) := by
  induction entries generalizing start with
  | nil =>
      cases ran
      exact ⟨initially, .nil⟩
  | cons head tail inductionHypothesis =>
      rw [List.foldlM_cons, bind_eq_ok_iff] at ran
      obtain ⟨between, first, ran⟩ := ran
      obtain ⟨still, admits⟩ := stepped initially first
      obtain ⟨inTheEnd, others⟩ := inductionHypothesis still ran
      exact ⟨inTheEnd, .cons admits others⟩

end Runs

/-! ### One definition -/

namespace Model

variable {model merged : Model} {visible : UrnSet}

/-- Whether a case keeps a reference. -/
def resolvesRequirement (visible : UrnSet) (requirements : IdentifierMap Requirement)
    (reference : Identifier) : Bool :=
  visible.contains reference.urn && requirements.contains reference

/-- Whether a result of the module `urn` keeps a reference. -/
def resolvesCase (visible : UrnSet) (cases : IdentifierMap VerificationCase) (urn : String)
    (reference : Identifier) : Bool :=
  (reference.urn = urn || visible.contains reference.urn) && cases.contains reference

theorem admits_of_mergeRequirement {requirement : Requirement}
    (added : model.mergeRequirement requirement = .ok merged) :
    (merged.cases = model.cases ∧ merged.results = model.results) ∧
      Admits Requirement.id some requirement model.requirements merged.requirements := by
  unfold mergeRequirement at added
  split at added
  · contradiction
  case isFalse free =>
    cases added
    rw [Std.ExtTreeMap.contains_iff_mem] at free
    exact ⟨⟨rfl, rfl⟩, .of_some free rfl⟩

theorem admits_of_mergeCase {verificationCase : VerificationCase}
    (added : model.mergeCase visible verificationCase = .ok merged) :
    (merged.requirements = model.requirements ∧ merged.results = model.results) ∧
      Admits VerificationCase.id
        (fun original => original.retain? (resolvesRequirement visible model.requirements))
        verificationCase model.cases merged.cases := by
  unfold mergeCase at added
  split at added
  · contradiction
  case isFalse free =>
    rw [Std.ExtTreeMap.contains_iff_mem] at free
    split at added
    next dropped =>
      cases added
      exact ⟨⟨rfl, rfl⟩, .of_none free dropped⟩
    next kept retained =>
      cases added
      have sameId : kept.id = verificationCase.id := Referring.identifier_of_retain? retained
      rw [insertCase, sameId]
      exact ⟨⟨rfl, rfl⟩, .of_some free retained⟩

theorem admits_of_mergeResult {urn : String} {result : ManualResult}
    (added : model.mergeResult visible urn result = .ok merged) :
    (merged.requirements = model.requirements ∧ merged.cases = model.cases) ∧
      Admits ManualResult.id
        (fun original => original.retain? (resolvesCase visible model.cases urn))
        result model.results merged.results := by
  unfold mergeResult at added
  split at added
  · contradiction
  case isFalse free =>
    rw [Std.ExtTreeMap.contains_iff_mem] at free
    split at added
    next dropped =>
      cases added
      exact ⟨⟨rfl, rfl⟩, .of_none free dropped⟩
    next kept retained =>
      cases added
      have sameId : kept.id = result.id := Referring.identifier_of_retain? retained
      rw [insertResult, sameId]
      exact ⟨⟨rfl, rfl⟩, .of_some free retained⟩

end Model

namespace ModuleGraph

/-- `kept` is `original` with the references that satisfy `keep`, in order. -/
structure IsRestriction {ε : Type} [Referring ε] (keep : Identifier → Bool)
    (original kept : ε) : Prop where
  unchanged : kept = Referring.withReferences original (Referring.references kept)
  references_eq : (Referring.references kept).toList =
    (Referring.references original).toList.filter keep

theorem isRestriction_iff {ε : Type} [Referring ε] {keep : Identifier → Bool}
    {original kept : ε} :
    IsRestriction keep original kept ↔ Referring.retain? original keep = some kept := by
  rw [Referring.retain?_eq_some_iff]
  exact ⟨fun restriction => ⟨restriction.unchanged, restriction.references_eq.symm⟩,
    fun ⟨unchanged, filtered⟩ => ⟨unchanged, filtered.symm⟩⟩

variable {visible : UrnSet} {model merged : Model}

/-! ### The three stages

While one kind is added, the kinds that decide what is kept do not change. -/

theorem admits_of_requirementStep {start finish : Model} {definition : Place × Requirement}
    (fixed : start.cases = ∅ ∧ start.results = ∅)
    (stepped : start.mergeRequirement definition.2 = .ok finish) :
    (finish.cases = ∅ ∧ finish.results = ∅) ∧
      Admits (fun definition : Place × Requirement => definition.2.id)
        (fun definition => some definition.2) definition start.requirements
        finish.requirements := by
  obtain ⟨⟨cases, results⟩, admits⟩ := Model.admits_of_mergeRequirement stepped
  exact ⟨⟨cases.trans fixed.1, results.trans fixed.2⟩, admits.fresh, admits.found_iff⟩

theorem admits_of_caseStep {start finish : Model} {definition : Place × VerificationCase}
    (fixed : start.requirements = model.requirements ∧ start.results = model.results)
    (stepped : start.mergeCase visible definition.2 = .ok finish) :
    (finish.requirements = model.requirements ∧ finish.results = model.results) ∧
      Admits (fun definition : Place × VerificationCase => definition.2.id)
        (fun definition => definition.2.retain?
          (Model.resolvesRequirement visible model.requirements))
        definition start.cases finish.cases := by
  obtain ⟨⟨requirements, results⟩, admits⟩ := Model.admits_of_mergeCase stepped
  rw [fixed.1] at admits
  exact ⟨⟨requirements.trans fixed.1, results.trans fixed.2⟩, admits.fresh, admits.found_iff⟩

theorem admits_of_resultStep {start finish : Model} {definition : Place × ManualResult}
    (fixed : start.requirements = model.requirements ∧ start.cases = model.cases)
    (stepped : start.mergeResult visible definition.1.urn definition.2 = .ok finish) :
    (finish.requirements = model.requirements ∧ finish.cases = model.cases) ∧
      Admits (fun definition : Place × ManualResult => definition.2.id)
        (fun definition => definition.2.retain?
          (Model.resolvesCase visible model.cases definition.1.urn))
        definition start.results finish.results := by
  obtain ⟨⟨requirements, cases⟩, admits⟩ := Model.admits_of_mergeResult stepped
  rw [fixed.2] at admits
  exact ⟨⟨requirements.trans fixed.1, cases.trans fixed.2⟩, admits.fresh, admits.found_iff⟩

variable [PatternEngine] {graph : ModuleGraph} {closure : UrnMap UrnSet}

theorem mergeCases_eq_foldlM :
    graph.mergeCases visible model =
      (definitions Module.caseMap graph.modules.toList).foldlM
        (fun current definition => current.mergeCase visible definition.2) model := by
  have flattened : graph.moduleList.flatMap Module.cases =
      (definitions Module.caseMap graph.modules.toList).map Prod.snd := by
    simp only [map_snd_definitions, moduleList, values_eq_map_snd_toList, List.flatMap_map,
      Module.cases_eq_values]
  rw [mergeCases, flattened, List.foldlM_map]

theorem mergeResults_eq_foldlM :
    graph.mergeResults visible model =
      (definitions Module.resultMap graph.modules.toList).foldlM
        (fun current definition => current.mergeResult visible definition.1.urn definition.2)
        model := by
  simp only [mergeResults, definitions, foldlM_flatMap, List.foldlM_map,
    Module.resultList_eq_values, values_eq_map_snd_toList]

theorem admitsAll_of_mergeRequirements
    (added : graph.mergeRequirements closure = .ok merged) :
    (merged.cases = ∅ ∧ merged.results = ∅) ∧
      AdmitsAll (fun definition : Place × Requirement => definition.2.id)
        (fun definition => some definition.2)
        (definitions Module.requirements graph.contributing) ∅ merged.requirements := by
  unfold mergeRequirements at added
  rw [← map_snd_definitions, List.foldlM_map] at added
  exact admitsAll_of_foldlM Model.requirements
    (fun current => current.cases = ∅ ∧ current.results = ∅) admits_of_requirementStep
    ⟨rfl, rfl⟩ added

theorem admitsAll_of_mergeCases (added : graph.mergeCases visible model = .ok merged) :
    (merged.requirements = model.requirements ∧ merged.results = model.results) ∧
      AdmitsAll (fun definition : Place × VerificationCase => definition.2.id)
        (fun definition => definition.2.retain?
          (Model.resolvesRequirement visible model.requirements))
        (definitions Module.caseMap graph.modules.toList) model.cases merged.cases := by
  rw [mergeCases_eq_foldlM] at added
  exact admitsAll_of_foldlM Model.cases
    (fun current =>
      current.requirements = model.requirements ∧ current.results = model.results)
    admits_of_caseStep ⟨rfl, rfl⟩ added

theorem admitsAll_of_mergeResults (added : graph.mergeResults visible model = .ok merged) :
    (merged.requirements = model.requirements ∧ merged.cases = model.cases) ∧
      AdmitsAll (fun definition : Place × ManualResult => definition.2.id)
        (fun definition => definition.2.retain?
          (Model.resolvesCase visible model.cases definition.1.urn))
        (definitions Module.resultMap graph.modules.toList) model.results merged.results := by
  rw [mergeResults_eq_foldlM] at added
  exact admitsAll_of_foldlM Model.results
    (fun current =>
      current.requirements = model.requirements ∧ current.cases = model.cases)
    admits_of_resultStep ⟨rfl, rfl⟩ added

/-! ### The merged model -/

/-- The entities are what the references leave of their definitions: whatever
keeps a reference is there, and whatever is there arises from one definition. -/
structure HoldsExactly {ε : Type} [Referring ε] (graph : ModuleGraph)
    (documents : Module → IdentifierMap ε) (keep : Place → Identifier → Bool)
    (entities : IdentifierMap ε) : Prop where
  admitted : ∀ {place : Place} {original : ε}, graph.definedAt? documents place = some original →
    (∃ reference ∈ (Referring.references original).toList, keep place reference) →
      ∃ kept, entities[Referring.identifier original]? = some kept ∧
        IsRestriction (keep place) original kept
  defined : ∀ {id : Identifier} {kept : ε}, entities[id]? = some kept →
    Referring.identifier kept = id ∧
      ∃ place,
        (∃ original, graph.definedAt? documents place = some original ∧
          IsRestriction (keep place) original kept) ∧
        ∀ other original, graph.definedAt? documents other = some original →
          IsRestriction (keep other) original kept → other = place

theorem holdsExactly_of_admitsAll {ε : Type} [Referring ε]
    {documents : Module → IdentifierMap ε} {keep : Place → Identifier → Bool}
    {entities : IdentifierMap ε}
    (admits : AdmitsAll (fun definition : Place × ε => Referring.identifier definition.2)
      (fun definition => Referring.retain? definition.2 (keep definition.1))
      (definitions documents graph.modules.toList) ∅ entities) :
    graph.HoldsExactly documents keep entities where
  admitted := by
    intro place original found keeps
    obtain ⟨kept, retained⟩ :=
      Option.isSome_iff_exists.mp (Referring.isSome_retain?_iff.mpr keeps)
    refine ⟨kept, admits.found_iff.mpr (Or.inr ⟨(place, original), ?_, rfl, retained⟩),
      isRestriction_iff.mpr retained⟩
    exact mem_definitions_toList_iff.mpr found
  defined := by
    intro id kept found
    rcases admits.found_iff.mp found with nothing | ⟨⟨place, original⟩, member, sameId, retained⟩
    · simp at nothing
    · refine ⟨(Referring.identifier_of_retain? retained).trans sameId, place,
        ⟨original, mem_definitions_toList_iff.mp member, isRestriction_iff.mpr retained⟩, ?_⟩
      intro other otherOriginal otherFound restriction
      have otherRetained := isRestriction_iff.mp restriction
      have same : (other, otherOriginal) = (place, original) :=
        admits.eq_of_kept (mem_definitions_toList_iff.mpr otherFound) member
          (Option.isSome_iff_exists.mpr ⟨kept, otherRetained⟩)
          (Option.isSome_iff_exists.mpr ⟨kept, retained⟩)
          ((Referring.identifier_of_retain? otherRetained).symm.trans
            (Referring.identifier_of_retain? retained))
      exact congrArg Prod.fst same

theorem mem_visible_iff {urn : String} :
    urn ∈ graph.visible graph.accessible ↔
      urn = graph.root ∨ (graph.Reaches graph.root urn ∧ graph.isMicroservice urn = false) := by
  rw [visible, Std.ExtTreeSet.mem_insert, Std.LawfulEqOrd.compare_eq_iff_eq,
    Std.ExtTreeSet.mem_filter, ← mem_accessible_iff, eq_comm]
  simp

/-- Only a microservice other than the root contributes no requirements. -/
theorem mem_definitions_contributing_iff {place : Place} {requirement : Requirement} :
    (place, requirement) ∈ definitions Module.requirements graph.contributing ↔
      graph.definedAt? Module.requirements place = some requirement ∧
        (graph.isMicroservice place.urn = false ∨ place.urn = graph.root) := by
  rw [mem_definitions_iff, definedAt?, Option.bind_eq_some_iff]
  simp only [contributing, List.mem_filter, Std.ExtTreeMap.mem_toList_iff_getElem?_eq_some,
    isMicroservice]
  constructor
  · rintro ⟨module, ⟨found, counts⟩, defined⟩
    exact ⟨⟨module, found, defined⟩, by simpa [found] using counts⟩
  · rintro ⟨⟨module, found, defined⟩, counts⟩
    exact ⟨module, ⟨found, by simpa [found] using counts⟩, defined⟩

/-- Without filtering a model holds the requirements of all modules but the
microservices that are not the root, and what is left of every case and every
result when it keeps only references to what the model holds and the root, or
the module itself in the case of a result, may see. -/
theorem entities_of_generate (generates : graph.generate false = .ok merged) :
    (∀ urn, urn ∈ graph.visible graph.accessible ↔
      urn = graph.root ∨ (graph.Reaches graph.root urn ∧ graph.isMicroservice urn = false)) ∧
    (∀ (id : Identifier) (requirement : Requirement),
      merged.requirements[id]? = some requirement ↔ requirement.id = id ∧
        ∃ place, graph.definedAt? Module.requirements place = some requirement ∧
          (graph.isMicroservice place.urn = false ∨ place.urn = graph.root)) ∧
    graph.HoldsExactly Module.caseMap
      (fun _ => Model.resolvesRequirement (graph.visible graph.accessible) merged.requirements)
      merged.cases ∧
    graph.HoldsExactly Module.resultMap
      (fun place => Model.resolvesCase (graph.visible graph.accessible) merged.cases place.urn)
      merged.results := by
  obtain ⟨model, merges, rfl⟩ := generate_eq_ok_iff.mp generates
  obtain ⟨closure, ofRequirements, ofCases, ofResults, accepted, requirementStage, caseStage,
    resultStage, rfl⟩ := stages_of_merge merges
  obtain ⟨valid, rfl⟩ := checkImports_eq_ok_iff.mp accepted
  obtain ⟨⟨noCases, noResults⟩, requirements⟩ := admitsAll_of_mergeRequirements requirementStage
  obtain ⟨⟨sameRequirements, stillNoResults⟩, cases⟩ := admitsAll_of_mergeCases caseStage
  obtain ⟨⟨sameRequirementsAgain, sameCases⟩, results⟩ := admitsAll_of_mergeResults resultStage
  rw [noCases, ← sameRequirements, ← sameRequirementsAgain, ← sameCases] at cases
  rw [stillNoResults, noResults, ← sameCases] at results
  rw [← sameRequirements, ← sameRequirementsAgain] at requirements
  refine ⟨fun _ => mem_visible_iff, ?_, holdsExactly_of_admitsAll cases,
    holdsExactly_of_admitsAll results⟩
  intro id requirement
  apply requirements.found_iff.trans
  simp only [Std.ExtTreeMap.getElem?_empty, reduceCtorEq, false_or, Prod.exists,
    mem_definitions_contributing_iff, Option.some.injEq]
  constructor
  · rintro ⟨place, _, defined, sameId, rfl⟩
    exact ⟨sameId, place, defined⟩
  · rintro ⟨sameId, place, defined⟩
    exact ⟨place, requirement, defined, sameId, rfl⟩

end ModuleGraph

namespace Sample

/-- A library and a microservice under one root. The microservice verifies a
requirement of its own, which the root does not see, and one of the library. -/
def withMicroservice : ModuleGraph :=
  ModuleGraph.empty "root"
    |>.insert (module "root" [] ∅ [] ∅ []) ["library", "service"]
    |>.insert (module "library" [⟨"library", "shared"⟩] ∅ [] ∅ []) []
    |>.insert { module "service" [⟨"service", "internal"⟩] ∅
        [(⟨"service", "mixed"⟩, ⟨⟨"service", "internal"⟩, [⟨"library", "shared"⟩]⟩),
          (⟨"service", "hidden"⟩, ⟨⟨"service", "internal"⟩, []⟩)] ∅
        [⟨⟨"service", "run"⟩, ⟨⟨"service", "hidden"⟩, [⟨"service", "mixed"⟩]⟩, true, none⟩] with
        variant := .microservice } []

/-- A microservice reports on its own case, as far as that is still there. -/
theorem run_left_with_mixed :
    ∃ merged, withMicroservice.generate false = .ok merged ∧
      ∃ kept, merged.results[(⟨"service", "run"⟩ : Identifier)]? = some kept ∧
        kept.cases.toList = [⟨"service", "mixed"⟩] := by
  let visible := withMicroservice.visible withMicroservice.accessible
  let references : List Identifier := [⟨"service", "hidden"⟩, ⟨"service", "mixed"⟩]
  have evaluated : ((withMicroservice.generate false).toOption.map fun merged =>
      references.filter (Model.resolvesCase visible merged.cases "service")) =
        some [⟨"service", "mixed"⟩] := by decide +kernel
  have defined : withMicroservice.definedAt? Module.resultMap
      ⟨"service", ⟨"service", "run"⟩⟩ =
        some ⟨⟨"service", "run"⟩, ⟨⟨"service", "hidden"⟩, [⟨"service", "mixed"⟩]⟩, true, none⟩ := by
    decide +kernel
  cases unfiltered : withMicroservice.generate false with
  | error failure =>
      rw [unfiltered] at evaluated
      contradiction
  | ok merged =>
      rw [unfiltered] at evaluated
      have filtered : references.filter (Model.resolvesCase visible merged.cases "service") =
          [⟨"service", "mixed"⟩] := Option.some.inj evaluated
      obtain ⟨_, _, _, results⟩ := ModuleGraph.entities_of_generate unfiltered
      have keeps := List.mem_filter.mp (filtered ▸ List.mem_singleton_self _)
      obtain ⟨kept, found, restriction⟩ := results.admitted defined ⟨_, keeps⟩
      exact ⟨merged, rfl, kept, found, restriction.references_eq.trans filtered⟩

end Sample

end Traceability

import Traceability.Proofs.ImportGraph.ReachedPart
import Traceability.Proofs.Model.Acceptance

/-!
Contract: how modules out of reach show in a filtered model.

All modules of a graph are merged, and narrowing takes away what no chain of
imports passes on. That is enough for requirements under the urn of a module
out of reach. A case is taken away only if somebody excludes it, so that one
out of reach stays as soon as it refers to a requirement that is left; and a
requirement may stand under another urn than that of its module.

Owns: that the part in reach has a model if the graph has, and exactly when the
filtered models of the two have the same entities.
Does not own: the chains that the two share.
-/

namespace Traceability

section Parts

variable [PatternEngine] {graph : ModuleGraph} {pass : Pass} {id : Identifier}

/-! ### Chains of the part -/

theorem ModuleGraph.exists_chain_reachedPart_iff {last : String}
    {holdsInPart holds : List String → Prop}
    (agree : ∀ importers, (∀ importer ∈ importers, graph.isReached importer) →
      (holdsInPart importers ↔ holds importers)) :
    (∃ importers, graph.reachedPart.FollowedChain graph.root importers last ∧
        holdsInPart importers) ↔
      ∃ importers, graph.FollowedChain graph.root importers last ∧ holds importers := by
  apply exists_congr
  intro importers
  rw [followedChain_reachedPart_iff isReached_root]
  apply and_congr_right
  intro chain
  have reached := chain.isReached isReached_root
  exact agree importers fun importer member => reached importer (List.mem_append_left _ member)

theorem Pass.blocks_reachedPart {urn : String} (reached : graph.isReached urn) :
    pass.blocks graph.reachedPart urn id = pass.blocks graph urn id := by
  have sameRules : pass.rules graph.reachedPart urn = pass.rules graph urn := by
    cases pass <;> rw [Pass.rules, Pass.rules, ModuleGraph.getElem?_modules_reachedPart,
      if_pos reached]
  rw [Pass.blocks, sameRules, Pass.blocks]

theorem Pass.permits_reachedPart_iff :
    pass.Permits graph.reachedPart id ↔ pass.Permits graph id := by
  apply ModuleGraph.exists_chain_reachedPart_iff
  intro importers reached
  apply forall₂_congr
  intro importer member
  rw [Pass.blocks_reachedPart (reached importer member)]

theorem Pass.excludes_reachedPart_iff :
    pass.Excludes graph.reachedPart id ↔ pass.Excludes graph id := by
  apply ModuleGraph.exists_chain_reachedPart_iff
  intro importers reached
  apply exists_congr
  intro importer
  apply and_congr_right
  intro member
  rw [Pass.blocks_reachedPart (reached importer member)]

namespace ModuleGraph

theorem contributes_reachedPart_iff {urn : String} (reached : graph.isReached urn) :
    graph.reachedPart.Contributes urn ↔ graph.Contributes urn := by
  rw [Contributes, isMicroservice_reachedPart reached, Contributes]
  exact Iff.rfl

/-- The root may see the same modules of both. -/
theorem visible_reachedPart :
    graph.reachedPart.visible graph.reachedPart.accessible = graph.visible graph.accessible := by
  apply Std.ExtTreeSet.ext_mem
  intro urn
  have sameReach : graph.reachedPart.Reaches graph.reachedPart.root urn ↔
      graph.Reaches graph.root urn := reaches_reachedPart_iff isReached_root
  rw [mem_visible_iff, mem_visible_iff, sameReach]
  apply or_congr_right
  apply and_congr_right
  intro reaches
  rw [isMicroservice_reachedPart (isReached_of_reaches isReached_root reaches)]

/-! ### A model of the part -/

theorem showsRequirement_of_reachedPart {original : VerificationCase}
    (shows : graph.reachedPart.ShowsRequirement original) :
    graph.ShowsRequirement original := by
  obtain ⟨reference, member, visible, place, requirement, defined, contributes, sameId⟩ := shows
  obtain ⟨reached, defined⟩ := definedAt?_reachedPart_iff.mp defined
  exact ⟨reference, member, visible_reachedPart ▸ visible, place, requirement, defined,
    (contributes_reachedPart_iff reached).mp contributes, sameId⟩

theorem showsCase_of_reachedPart {urn : String} {original : ManualResult}
    (shows : graph.reachedPart.ShowsCase urn original) :
    graph.ShowsCase urn original := by
  obtain ⟨reference, member, visible, place, verificationCase, defined, sameId, inPart⟩ := shows
  obtain ⟨_, defined⟩ := definedAt?_reachedPart_iff.mp defined
  exact ⟨reference, member, visible_reachedPart ▸ visible, place, verificationCase, defined,
    sameId, showsRequirement_of_reachedPart inPart⟩

theorem Mergeable.reachedPart (mergeable : graph.Mergeable) : graph.reachedPart.Mergeable where
  imports := mergeable.imports.reachedPart
  requirement := by
    rintro earlier later before first second ⟨firstDefined, firstCounts⟩
      ⟨secondDefined, secondCounts⟩
    obtain ⟨firstReached, firstDefined⟩ := definedAt?_reachedPart_iff.mp firstDefined
    obtain ⟨secondReached, secondDefined⟩ := definedAt?_reachedPart_iff.mp secondDefined
    exact mergeable.requirement earlier later before first second
      ⟨firstDefined, (contributes_reachedPart_iff firstReached).mp firstCounts⟩
      ⟨secondDefined, (contributes_reachedPart_iff secondReached).mp secondCounts⟩
  verificationCase := by
    intro earlier later before first second firstDefined secondDefined shows
    exact mergeable.verificationCase earlier later before first second
      (definedAt?_reachedPart_iff.mp firstDefined).2
      (definedAt?_reachedPart_iff.mp secondDefined).2
      (showsRequirement_of_reachedPart shows)
  result := by
    intro earlier later before first second firstDefined secondDefined shows
    exact mergeable.result earlier later before first second
      (definedAt?_reachedPart_iff.mp firstDefined).2
      (definedAt?_reachedPart_iff.mp secondDefined).2
      (showsCase_of_reachedPart shows)

/-- Leaving out modules that are not reached never costs the model. -/
theorem reachedPart_generates {filter : Bool}
    (generates : ∃ model, graph.generate filter = .ok model) :
    ∃ part, graph.reachedPart.generate filter = .ok part := by
  have mergeable := exists_merge_iff.mp (exists_generate_iff_merge.mp generates)
  exact exists_generate_iff_merge.mpr (exists_merge_iff.mpr mergeable.reachedPart)

/-! ### Entities of the part -/

/-- Entities that arise from definitions, at most one under each identifier, are
those that arise in reach exactly if none arises out of reach. -/
theorem eq_iff_none_out_of_reach {ε : Type} {documents : Module → IdentifierMap ε}
    {identifier : ε → Identifier} {arises : Place → ε → ε → Prop} {whole part : IdentifierMap ε}
    (whole_iff : ∀ {id : Identifier} {kept : ε}, whole[id]? = some kept ↔
      ∃ place original, graph.definedAt? documents place = some original ∧
        identifier original = id ∧ arises place original kept)
    (part_iff : ∀ {id : Identifier} {kept : ε}, part[id]? = some kept ↔
      ∃ place original, (graph.isReached place.urn ∧
        graph.definedAt? documents place = some original) ∧
          identifier original = id ∧ arises place original kept)
    (place_eq : ∀ {first second : Place} {original other kept : ε},
      graph.definedAt? documents first = some original →
        graph.definedAt? documents second = some other →
          arises first original kept → arises second other kept →
            identifier original = identifier other → first = second) :
    whole = part ↔ ∀ place original, ¬graph.isReached place.urn →
      graph.definedAt? documents place = some original → ∀ kept, ¬arises place original kept := by
  constructor
  · rintro rfl place original outOfReach defined kept arose
    have found := whole_iff.mpr ⟨place, original, defined, rfl, arose⟩
    obtain ⟨origin, other, ⟨reached, otherDefined⟩, sameId, otherArose⟩ := part_iff.mp found
    have samePlace := place_eq defined otherDefined arose otherArose sameId.symm
    exact outOfReach (samePlace ▸ reached)
  · intro none
    apply Std.ExtTreeMap.ext_getElem?
    intro id
    apply Option.ext
    intro kept
    rw [whole_iff, part_iff]
    constructor
    · rintro ⟨place, original, defined, sameId, arose⟩
      have reached : graph.isReached place.urn := by
        apply Classical.byContradiction
        intro outOfReach
        exact none place original outOfReach defined kept arose
      exact ⟨place, original, ⟨reached, defined⟩, sameId, arose⟩
    · rintro ⟨place, original, ⟨_, defined⟩, sameId, arose⟩
      exact ⟨place, original, defined, sameId, arose⟩

variable {whole part : Model}

theorem requirements_eq_iff (ofWhole : graph.generate true = .ok whole)
    (ofPart : graph.reachedPart.generate true = .ok part) :
    whole.requirements = part.requirements ↔ ∀ place requirement,
      ¬graph.isReached place.urn →
        graph.definedAt? Module.requirements place = some requirement →
          graph.Contributes place.urn → ¬Pass.requirements.Permits graph requirement.id := by
  have part_iff {id : Identifier} {kept : Requirement} :
      part.requirements[id]? = some kept ↔ ∃ place requirement, (graph.isReached place.urn ∧
        graph.definedAt? Module.requirements place = some requirement) ∧
          requirement.id = id ∧ graph.Contributes place.urn ∧
            Pass.requirements.Permits graph requirement.id ∧ requirement = kept := by
    rw [requirements_of_filtered ofPart]
    simp only [definedAt?_reachedPart_iff, Pass.permits_reachedPart_iff]
    apply exists₂_congr
    intro place requirement
    apply and_congr_right
    rintro ⟨reached, _⟩
    rw [contributes_reachedPart_iff reached]
  rw [eq_iff_none_out_of_reach (requirements_of_filtered ofWhole) part_iff]
  · simp
  · intro first second requirement other kept firstDefined secondDefined firstArises secondArises
    exact place_eq_of_requirements ofWhole firstDefined secondDefined firstArises.1 secondArises.1

theorem cases_eq_iff (ofWhole : graph.generate true = .ok whole)
    (ofPart : graph.reachedPart.generate true = .ok part)
    (sameRequirements : whole.requirements = part.requirements) :
    whole.cases = part.cases ↔ ∀ place original,
      ¬graph.isReached place.urn → graph.definedAt? Module.caseMap place = some original →
        (∃ reference ∈ original.requirements.toList, reference ∈ part.requirements) →
          Pass.cases.Excludes graph original.id := by
  have keeps (original : VerificationCase) :
      (∃ kept, original.retain? whole.requirements.contains = some kept) ↔
        ∃ reference ∈ original.requirements.toList, reference ∈ whole.requirements :=
    Referring.exists_retain?_contains_iff
  have part_iff {id : Identifier} {kept : VerificationCase} :
      part.cases[id]? = some kept ↔ ∃ place original, (graph.isReached place.urn ∧
        graph.definedAt? Module.caseMap place = some original) ∧ original.id = id ∧
          original.retain? whole.requirements.contains = some kept ∧
            ¬Pass.cases.Excludes graph original.id := by
    rw [cases_of_filtered ofPart, sameRequirements]
    simp only [definedAt?_reachedPart_iff, Pass.excludes_reachedPart_iff]
  rw [eq_iff_none_out_of_reach (cases_of_filtered ofWhole) part_iff]
  · apply forall₂_congr
    intro place original
    apply forall₂_congr
    intro outOfReach defined
    rw [← sameRequirements, ← keeps original]
    constructor
    · rintro none ⟨kept, retained⟩
      apply Classical.byContradiction
      exact fun free => none kept ⟨retained, free⟩
    · rintro excluded kept ⟨retained, free⟩
      exact free (excluded ⟨kept, retained⟩)
  · intro first second original other kept firstDefined secondDefined firstArises secondArises
    exact place_eq_of_cases ofWhole firstDefined secondDefined
      ((keeps original).mp ⟨kept, firstArises.1⟩) ((keeps other).mp ⟨kept, secondArises.1⟩)

theorem results_eq_iff (ofWhole : graph.generate true = .ok whole)
    (ofPart : graph.reachedPart.generate true = .ok part)
    (sameCases : whole.cases = part.cases) :
    whole.results = part.results ↔ ∀ place original,
      ¬graph.isReached place.urn → graph.definedAt? Module.resultMap place = some original →
        ∀ reference ∈ original.cases.toList,
          Model.resolvesCase (graph.visible graph.accessible) part.cases place.urn reference =
            false := by
  let resolves (urn : String) : Identifier → Bool :=
    Model.resolvesCase (graph.visible graph.accessible) whole.cases urn
  have part_iff {id : Identifier} {kept : ManualResult} :
      part.results[id]? = some kept ↔ ∃ place original, (graph.isReached place.urn ∧
        graph.definedAt? Module.resultMap place = some original) ∧ original.id = id ∧
          original.retain? (resolves place.urn) = some kept := by
    rw [results_of_filtered ofPart, visible_reachedPart, ← sameCases]
    simp only [definedAt?_reachedPart_iff, resolves]
  have keeps {urn : String} {original kept : ManualResult}
      (retained : original.retain? (resolves urn) = some kept) :
      ∃ reference ∈ original.cases.toList, resolves urn reference :=
    Referring.isSome_retain?_iff.mp (Option.isSome_iff_exists.mpr ⟨kept, retained⟩)
  rw [eq_iff_none_out_of_reach (results_of_filtered ofWhole) part_iff, ← sameCases]
  · apply forall₂_congr
    intro place original
    apply forall₂_congr
    intro outOfReach defined
    rw [← Option.eq_none_iff_forall_ne_some]
    exact Referring.retain?_eq_none_iff
  · intro first second original other kept firstDefined secondDefined firstArises secondArises
    exact place_eq_of_results ofWhole firstDefined secondDefined (keeps firstArises)
      (keeps secondArises)

/-! ### Both models -/

/-- Nothing that modules out of reach define is left in the filtered model:
requirements are not passed on, cases that refer to what is left are excluded,
and results do not report on what is left. -/
structure NothingIntrudes (graph : ModuleGraph) (part : Model) : Prop where
  requirement : ∀ place requirement, ¬graph.isReached place.urn →
    graph.definedAt? Module.requirements place = some requirement →
      graph.Contributes place.urn → ¬Pass.requirements.Permits graph requirement.id
  verificationCase : ∀ place original, ¬graph.isReached place.urn →
    graph.definedAt? Module.caseMap place = some original →
      (∃ reference ∈ original.requirements.toList, reference ∈ part.requirements) →
        Pass.cases.Excludes graph original.id
  result : ∀ place original, ¬graph.isReached place.urn →
    graph.definedAt? Module.resultMap place = some original →
      ∀ reference ∈ original.cases.toList,
        Model.resolvesCase (graph.visible graph.accessible) part.cases place.urn reference = false

/-- A graph and its part in reach have the same entities after filtering
exactly if nothing intrudes. A case of a module that nobody imports intrudes as
soon as it refers to a requirement that is left. -/
theorem same_entities_iff (ofWhole : graph.generate true = .ok whole)
    (ofPart : graph.reachedPart.generate true = .ok part) :
    (∀ urn, graph.isReached urn ↔ urn = graph.root ∨ graph.Reaches graph.root urn) ∧
    (whole.requirements = part.requirements ∧ whole.cases = part.cases ∧
        whole.results = part.results ↔
      graph.NothingIntrudes part) := by
  refine ⟨fun _ => isReached_iff, ?_⟩
  constructor
  · rintro ⟨sameRequirements, sameCases, sameResults⟩
    exact
      { requirement := (requirements_eq_iff ofWhole ofPart).mp sameRequirements
        verificationCase := (cases_eq_iff ofWhole ofPart sameRequirements).mp sameCases
        result := (results_eq_iff ofWhole ofPart sameCases).mp sameResults }
  · intro nothing
    have sameRequirements := (requirements_eq_iff ofWhole ofPart).mpr nothing.requirement
    have sameCases :=
      (cases_eq_iff ofWhole ofPart sameRequirements).mpr nothing.verificationCase
    exact ⟨sameRequirements, sameCases,
      (results_eq_iff ofWhole ofPart sameCases).mpr nothing.result⟩

end ModuleGraph

end Parts

namespace Sample

/-- A module that nobody imports verifies a requirement of its own. -/
def besideStranger : ModuleGraph :=
  ModuleGraph.empty "root"
    |>.insert (module "root" [⟨"root", "own"⟩] ∅
        [(⟨"root", "check"⟩, ⟨⟨"root", "own"⟩, []⟩)] ∅ []) []
    |>.insert (module "stranger" [⟨"stranger", "private"⟩] ∅
        [(⟨"stranger", "check"⟩, ⟨⟨"stranger", "private"⟩, []⟩)] ∅ []) []

theorem stranger_without_influence :
    ∃ whole part, besideStranger.generate true = .ok whole ∧
      besideStranger.reachedPart.generate true = .ok part ∧
      besideStranger.NothingIntrudes part := by
  have evaluated : (besideStranger.generate true).toOption.any fun whole =>
      (besideStranger.reachedPart.generate true).toOption.any fun part =>
        whole.requirements = part.requirements ∧ whole.cases = part.cases ∧
          whole.results = part.results := by decide +kernel
  obtain ⟨whole, ofWhole, evaluated⟩ := any_toOption_iff.mp evaluated
  obtain ⟨part, ofPart, same⟩ := any_toOption_iff.mp evaluated
  exact ⟨whole, part, ofWhole, ofPart,
    (ModuleGraph.same_entities_iff ofWhole ofPart).2.mp (of_decide_eq_true same)⟩

/-- A module that nobody imports verifies a requirement of the root. -/
def watchedByStranger : ModuleGraph :=
  ModuleGraph.empty "root"
    |>.insert (module "root" [⟨"root", "own"⟩] ∅ [] ∅ []) []
    |>.insert (module "stranger" [] ∅ [(⟨"stranger", "check"⟩, ⟨⟨"root", "own"⟩, []⟩)] ∅ []) []

/-- The filtered model has a case of a module that the root does not reach, and
loses it with that module. -/
theorem case_of_stranger_left :
    watchedByStranger.isReached "stranger" = false ∧
      ∃ whole part, watchedByStranger.generate true = .ok whole ∧
        watchedByStranger.reachedPart.generate true = .ok part ∧
        (⟨"stranger", "check"⟩ : Identifier) ∈ whole.cases ∧
        (⟨"stranger", "check"⟩ : Identifier) ∉ part.cases := by
  have evaluated : (watchedByStranger.generate true).toOption.any fun whole =>
      (watchedByStranger.reachedPart.generate true).toOption.any fun part =>
        (⟨"stranger", "check"⟩ : Identifier) ∈ whole.cases ∧
          (⟨"stranger", "check"⟩ : Identifier) ∉ part.cases := by decide +kernel
  obtain ⟨whole, ofWhole, evaluated⟩ := any_toOption_iff.mp evaluated
  obtain ⟨part, ofPart, different⟩ := any_toOption_iff.mp evaluated
  exact ⟨by decide +kernel, whole, part, ofWhole, ofPart, of_decide_eq_true different⟩

end Sample

end Traceability

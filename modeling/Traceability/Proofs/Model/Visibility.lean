import Traceability.Proofs.Model.Narrowing
import Traceability.Proofs.Model.Scope

/-!
Contract: what is left of a merged model once it is narrowed to its root.

A requirement needs one chain on which nobody blocks it; a case goes as soon as
somebody blocks it on any chain, and otherwise stays with the requirements that
stay; a result stays with its cases. The second pass runs on what the first one
left, so that it never sees a case whose requirements are all gone.

Owns: the narrowed model in terms of the merged one and of chains of imports.
Does not own: the order in which anything is deleted.
-/

namespace Traceability

namespace Model

theorem cases_without_filteredOut_iff {model : Model} {id : Identifier}
    {filteredOut : IdentifierSet} {kept : VerificationCase} :
    (model.without (deletesFilteredOut filteredOut)).cases[id]? = some kept ↔
      model.cases[id]? = some kept ∧ id ∉ filteredOut := by
  rw [cases_without, casesWithout, Table.entities_restrict, Option.bind_eq_some_iff,
    ← Std.ExtTreeSet.contains_iff_mem]
  cases out : filteredOut.contains id with
  | true =>
      have gone (verificationCase : VerificationCase) :
          Referring.retain? verificationCase (fun reference =>
            !deletesFilteredOut filteredOut (.verificationCase id) &&
              !deletesFilteredOut filteredOut (.requirement reference)) = none :=
        Referring.retain?_eq_none_iff.mpr (by simp only [deletesFilteredOut, out]; simp)
      simp [gone]
  | false =>
      have stays (verificationCase : VerificationCase) :
          Referring.retain? verificationCase (fun reference =>
            !deletesFilteredOut filteredOut (.verificationCase id) &&
              !deletesFilteredOut filteredOut (.requirement reference)) = some verificationCase :=
        Referring.retain?_eq_self (by simp only [deletesFilteredOut, out]; simp)
      simp [stays, caseTable]

variable [PatternEngine] {graph : ModuleGraph} {model : Model} {id : Identifier}

/-- The model after the first pass. -/
def afterRequirements (model : Model) (graph : ModuleGraph) : Model :=
  model.narrowRequirements (scopeOf .requirements graph model graph.importTree)

theorem Coherent.afterRequirements (coherent : model.Coherent) (graph : ModuleGraph) :
    (model.afterRequirements graph).Coherent := by
  rw [Model.afterRequirements, coherent.narrowRequirements_eq]
  exact coherent.without

/-! ### The first pass -/

theorem Coherent.requirements_afterRequirements (coherent : model.Coherent)
    (valid : graph.ValidImports) {requirement : Requirement} :
    (model.afterRequirements graph).requirements[id]? = some requirement ↔
      model.requirements[id]? = some requirement ∧
        ∃ importers, graph.FollowedChain graph.root importers id.urn ∧
          ∀ importer ∈ importers, Pass.requirements.blocks graph importer id = false := by
  rw [Model.afterRequirements, coherent.narrowRequirements_eq, Model.without,
    Std.ExtTreeMap.getElem?_filter', Option.filter_eq_some_iff]
  apply and_congr_right
  intro found
  have present : id ∈ model.requirements := mem_iff_exists_getElem?.mpr ⟨_, found⟩
  rw [deletesUnkept, Bool.not_not, Std.ExtTreeSet.contains_iff_mem,
    coherent.mem_kept_iff valid, Pass.isPresent, Std.ExtTreeMap.contains_iff_mem]
  exact and_iff_right present

theorem Coherent.cases_afterRequirements (coherent : model.Coherent) :
    (model.afterRequirements graph).cases[id]? =
      (model.cases[id]?).bind fun verificationCase =>
        verificationCase.retain? (model.afterRequirements graph).requirements.contains := by
  rw [Model.afterRequirements, coherent.narrowRequirements_eq, coherent.getElem?_cases_without]
  rfl

/-- The first pass leaves the cases that keep a requirement. -/
theorem Coherent.mem_cases_afterRequirements_iff (coherent : model.Coherent) :
    id ∈ (model.afterRequirements graph).cases ↔
      ∃ original : VerificationCase, model.cases[id]? = some original ∧
        ∃ reference ∈ original.requirements.toList,
          reference ∈ (model.afterRequirements graph).requirements := by
  have keeps (original : VerificationCase) :
      (∃ kept, original.retain? (model.afterRequirements graph).requirements.contains =
          some kept) ↔
        ∃ reference ∈ original.requirements.toList,
          reference ∈ (model.afterRequirements graph).requirements :=
    Referring.exists_retain?_contains_iff
  rw [mem_iff_exists_getElem?, coherent.cases_afterRequirements]
  simp only [Option.bind_eq_some_iff, ← keeps]
  constructor
  · rintro ⟨kept, original, found, retained⟩
    exact ⟨original, found, kept, retained⟩
  · rintro ⟨original, found, kept, retained⟩
    exact ⟨kept, original, found, retained⟩

theorem Coherent.results_afterRequirements (coherent : model.Coherent) :
    (model.afterRequirements graph).results[id]? =
      (model.results[id]?).bind fun result =>
        result.retain? (model.afterRequirements graph).cases.contains := by
  rw [Model.afterRequirements, coherent.narrowRequirements_eq, getElem?_results_without]
  rfl

/-! ### The second pass -/

/-- The scope of the root for the cases that the first pass leaves. -/
def caseScope (model : Model) (graph : ModuleGraph) : Scope :=
  scopeOf .cases graph (model.afterRequirements graph) graph.importTree

theorem afterRequirements_congr {other : ModuleGraph}
    (sameKept : (scopeOf .requirements other model other.importTree).kept =
      (scopeOf .requirements graph model graph.importTree).kept) :
    model.afterRequirements other = model.afterRequirements graph := by
  rw [Model.afterRequirements, narrowRequirements, sameKept, Model.afterRequirements,
    narrowRequirements]

/-- Where two graphs keep the same requirements and filter out the same cases,
narrowing differs at most in the notes it leaves. -/
theorem narrow_congr {other : ModuleGraph}
    (sameKept : (scopeOf .requirements other model other.importTree).kept =
      (scopeOf .requirements graph model graph.importTree).kept)
    (sameFilteredOut :
      (scopeOf .cases other (model.afterRequirements graph) other.importTree).filteredOut =
        (model.caseScope graph).filteredOut) :
    model.narrow other =
      { model.narrow graph with
        visited := (model.narrow other).visited
        warnings := (model.narrow other).warnings } := by
  have sameCases : (model.afterRequirements other).narrowCases (model.caseScope other) =
      (model.afterRequirements graph).narrowCases (model.caseScope graph) := by
    rw [caseScope, afterRequirements_congr sameKept, narrowCases, sameFilteredOut, narrowCases]
  have otherNarrow : model.narrow other =
      { (model.afterRequirements other).narrowCases (model.caseScope other) with
        visited := (model.narrow other).visited
        warnings := (model.narrow other).warnings
        filtered := true } := rfl
  rw [otherNarrow, sameCases]
  rfl

/-- The second pass deletes cases only, and leaves a note of both. -/
theorem Coherent.narrow_eq (coherent : model.Coherent) :
    model.narrow graph =
      { (model.afterRequirements graph).without
          (deletesFilteredOut (model.caseScope graph).filteredOut) with
        visited := graph.trace graph.root
        warnings := (scopeOf .requirements graph model graph.importTree).warnings ++
          (model.caseScope graph).warnings
        filtered := true } := by
  rw [← (coherent.afterRequirements graph).narrowCases_eq, ← visited_narrow]
  rfl

theorem Coherent.requirements_narrow (coherent : model.Coherent) :
    (model.narrow graph).requirements = (model.afterRequirements graph).requirements := by
  apply Std.ExtTreeMap.ext_getElem?
  intro id
  rw [coherent.narrow_eq, Model.without, Std.ExtTreeMap.getElem?_filter']
  cases (model.afterRequirements graph).requirements[id]? <;> rfl

/-- A case that is left keeps the requirements that are left. Only a case that
the first pass left can be filtered out by the second. -/
theorem Coherent.cases_narrow (coherent : model.Coherent) (valid : graph.ValidImports)
    {kept : VerificationCase} :
    (model.narrow graph).cases[id]? = some kept ↔
      (∃ original, model.cases[id]? = some original ∧
        original.retain? (model.narrow graph).requirements.contains = some kept) ∧
      ¬∃ importers, graph.FollowedChain graph.root importers id.urn ∧
        ∃ importer ∈ importers, Pass.cases.blocks graph importer id := by
  rw [coherent.requirements_narrow, coherent.narrow_eq, cases_without_filteredOut_iff, caseScope,
    (coherent.afterRequirements graph).mem_filteredOut_iff valid, Pass.isPresent,
    Std.ExtTreeMap.contains_iff_mem, ← Option.bind_eq_some_iff, ← coherent.cases_afterRequirements]
  apply and_congr_right
  intro found
  have present : id ∈ (model.afterRequirements graph).cases :=
    mem_iff_exists_getElem?.mpr ⟨_, found⟩
  rw [and_iff_right present]

theorem Coherent.results_narrow (coherent : model.Coherent) :
    (model.narrow graph).results[id]? =
      (model.results[id]?).bind fun result =>
        result.retain? (model.narrow graph).cases.contains := by
  have fewer (reference : Identifier) (member : reference ∈ (model.narrow graph).cases) :
      reference ∈ (model.afterRequirements graph).cases := by
    rw [coherent.narrow_eq] at member
    obtain ⟨kept, found⟩ := mem_iff_exists_getElem?.mp member
    exact mem_iff_exists_getElem?.mpr ⟨kept, (cases_without_filteredOut_iff.mp found).1⟩
  have secondPass : (model.narrow graph).results[id]? =
      ((model.afterRequirements graph).results[id]?).bind fun result =>
        result.retain? (model.narrow graph).cases.contains := by
    rw [coherent.narrow_eq]
    exact getElem?_results_without
  rw [secondPass, coherent.results_afterRequirements, Option.bind_assoc]
  apply congrArg (Option.bind _)
  funext result
  apply Referring.retain?_bind_retain?.trans
  apply Referring.retain?_congr
  intro reference _
  have atReference := fewer reference
  rw [← Std.ExtTreeMap.contains_iff_mem, ← Std.ExtTreeMap.contains_iff_mem] at atReference
  grind

/-! ### Both passes -/

theorem Coherent.mem_cases_narrow_iff (coherent : model.Coherent) (valid : graph.ValidImports) :
    id ∈ (model.narrow graph).cases ↔
      ∃ original : VerificationCase, model.cases[id]? = some original ∧
        (∃ reference ∈ original.requirements.toList,
          reference ∈ (model.narrow graph).requirements) ∧
        ¬∃ importers, graph.FollowedChain graph.root importers id.urn ∧
          ∃ importer ∈ importers, Pass.cases.blocks graph importer id := by
  have keeps (original : VerificationCase) :
      (∃ kept, original.retain? (model.narrow graph).requirements.contains = some kept) ↔
        ∃ reference ∈ original.requirements.toList,
          reference ∈ (model.narrow graph).requirements := Referring.exists_retain?_contains_iff
  rw [mem_iff_exists_getElem?]
  simp only [coherent.cases_narrow valid, ← keeps]
  constructor
  · rintro ⟨kept, ⟨original, found, retained⟩, free⟩
    exact ⟨original, found, ⟨kept, retained⟩, free⟩
  · rintro ⟨original, found, ⟨kept, retained⟩, free⟩
    exact ⟨kept, ⟨original, found, retained⟩, free⟩

theorem Coherent.original_of_case (coherent : model.Coherent) (valid : graph.ValidImports)
    {kept : VerificationCase} (found : (model.narrow graph).cases[id]? = some kept) :
    ∃ original : VerificationCase, model.cases[id]? = some original ∧
      kept = { original with requirements := kept.requirements } ∧
      kept.requirements.toList =
        original.requirements.toList.filter (model.narrow graph).requirements.contains := by
  obtain ⟨⟨original, originalFound, retained⟩, _⟩ := (coherent.cases_narrow valid).mp found
  obtain ⟨same, filtered⟩ := Referring.retain?_eq_some_iff.mp retained
  exact ⟨original, originalFound, same, filtered.symm⟩

theorem Coherent.mem_results_narrow_iff (coherent : model.Coherent) :
    id ∈ (model.narrow graph).results ↔
      ∃ original : ManualResult, model.results[id]? = some original ∧
        ∃ reference ∈ original.cases.toList, reference ∈ (model.narrow graph).cases := by
  have keeps (original : ManualResult) :
      (∃ kept, original.retain? (model.narrow graph).cases.contains = some kept) ↔
        ∃ reference ∈ original.cases.toList, reference ∈ (model.narrow graph).cases :=
    Referring.exists_retain?_contains_iff
  rw [mem_iff_exists_getElem?, coherent.results_narrow]
  simp only [Option.bind_eq_some_iff, ← keeps]
  constructor
  · rintro ⟨kept, original, found, retained⟩
    exact ⟨original, found, kept, retained⟩
  · rintro ⟨original, found, kept, retained⟩
    exact ⟨kept, original, found, retained⟩

theorem Coherent.original_of_result (coherent : model.Coherent) {kept : ManualResult}
    (found : (model.narrow graph).results[id]? = some kept) :
    ∃ original : ManualResult, model.results[id]? = some original ∧
      kept = { original with cases := kept.cases } ∧
      kept.cases.toList = original.cases.toList.filter (model.narrow graph).cases.contains := by
  rw [coherent.results_narrow, Option.bind_eq_some_iff] at found
  obtain ⟨original, originalFound, retained⟩ := found
  obtain ⟨same, filtered⟩ := Referring.retain?_eq_some_iff.mp retained
  exact ⟨original, originalFound, same, filtered.symm⟩

end Model

namespace ModuleGraph

variable [PatternEngine] {graph : ModuleGraph} {merged narrowed : Model}

/-- With filtering a graph has the narrowed model of what it has without. -/
theorem narrow_of_generate (unfiltered : graph.generate false = .ok merged)
    (filtered : graph.generate true = .ok narrowed) :
    graph.ValidImports ∧ merged.Coherent ∧ narrowed = merged.narrow graph := by
  have coherent := coherent_of_generate unfiltered
  obtain ⟨model, merges, rfl⟩ := generate_eq_ok_iff.mp unfiltered
  obtain ⟨sameModel, mergesAgain, rfl⟩ := generate_eq_ok_iff.mp filtered
  obtain rfl := Except.ok.inj (merges.symm.trans mergesAgain)
  obtain ⟨closure, _, _, _, accepted, _⟩ := stages_of_merge merges
  exact ⟨(checkImports_eq_ok_iff.mp accepted).1, coherent, rfl⟩

/-- Filtering leaves exactly the requirements to which some chain of imports
leads on which no module blocks them, and leaves them as they are. -/
theorem requirement_visible_iff (unfiltered : graph.generate false = .ok merged)
    (filtered : graph.generate true = .ok narrowed) (id : Identifier)
    (requirement : Requirement) :
    narrowed.requirements[id]? = some requirement ↔
      merged.requirements[id]? = some requirement ∧
        ∃ importers, graph.FollowedChain graph.root importers id.urn ∧
          ∀ importer ∈ importers, Pass.requirements.blocks graph importer id = false := by
  obtain ⟨valid, coherent, rfl⟩ := narrow_of_generate unfiltered filtered
  rw [coherent.requirements_narrow, coherent.requirements_afterRequirements valid]

end ModuleGraph

namespace Sample

/-- Every chain from the root to the base goes through the left or the right
module. -/
theorem left_or_right_mem {importers : List String}
    (chain : graph.FollowedChain "root" importers "base") :
    "left" ∈ importers ∨ "right" ∈ importers := by
  obtain ⟨_, same⟩ | ⟨imported, follows, rest, rfl, remaining⟩ :=
    ModuleGraph.followedChain_iff.mp chain
  · exact absurd same (by decide)
  have listed : graph.followedImports "root" = ["left", "right"] := by decide +kernel
  rw [listed, List.mem_pair] at follows
  -- The base is not reached yet, so that the chain goes on from this import.
  obtain ⟨_, rfl⟩ | ⟨_, _, _, rfl, _⟩ := ModuleGraph.followedChain_iff.mp remaining
  · exact absurd follows (by decide)
  · rcases follows with rfl | rfl <;> simp

/-- The one module keeps what the other drops. What both drop is gone. -/
theorem first_visible_through_right :
    ∃ merged narrowed, graph.generate false = .ok merged ∧ graph.generate true = .ok narrowed ∧
      merged.requirements[first]? = some (requirement first) ∧
      narrowed.requirements[first]? = some (requirement first) ∧
      merged.requirements[third]? = some (requirement third) ∧
      narrowed.requirements[third]? = none := by
  have evaluated : (graph.generate false).toOption.any fun model =>
      model.requirements[first]? = some (requirement first) ∧
        model.requirements[third]? = some (requirement third) := by decide +kernel
  obtain ⟨merged, unfiltered, present⟩ := any_toOption_iff.mp evaluated
  rw [decide_eq_true_iff] at present
  obtain ⟨narrowed, filtered⟩ := generates true
  have chain : graph.FollowedChain graph.root ["root", "right"] first.urn :=
    .step (by decide +kernel : "right" ∈ graph.imports "root") (by decide +kernel)
      (.step (by decide +kernel : "base" ∈ graph.imports "right") (by decide +kernel) .here)
  have bothBlock : Pass.requirements.blocks graph "left" third ∧
      Pass.requirements.blocks graph "right" third := by decide +kernel
  refine ⟨merged, narrowed, unfiltered, filtered, present.1, ?_, present.2, ?_⟩
  · exact (ModuleGraph.requirement_visible_iff unfiltered filtered first _).mpr
      ⟨present.1, ["root", "right"], chain, by decide +kernel⟩
  · rw [Option.eq_none_iff_forall_not_mem]
    intro kept found
    obtain ⟨_, importers, blockedChain, free⟩ :=
      (ModuleGraph.requirement_visible_iff unfiltered filtered third kept).mp found
    rcases left_or_right_mem blockedChain with passed | passed
    · exact absurd bothBlock.1 (by simp [free "left" passed])
    · exact absurd bothBlock.2 (by simp [free "right" passed])

end Sample

namespace ModuleGraph

variable [PatternEngine] {graph : ModuleGraph} {merged narrowed : Model}

/-- Filtering leaves exactly the cases that keep a requirement and are blocked
on no chain of imports, and the results that keep a case. Each of them keeps,
in order, the references to what is left; nothing else changes. -/
theorem cases_and_results_restricted (unfiltered : graph.generate false = .ok merged)
    (filtered : graph.generate true = .ok narrowed) :
    (∀ id, id ∈ narrowed.cases ↔
      ∃ original : VerificationCase, merged.cases[id]? = some original ∧
        (∃ reference ∈ original.requirements.toList, reference ∈ narrowed.requirements) ∧
        ¬∃ importers, graph.FollowedChain graph.root importers id.urn ∧
          ∃ importer ∈ importers, Pass.cases.blocks graph importer id) ∧
    (∀ (id : Identifier) (kept : VerificationCase), narrowed.cases[id]? = some kept →
      ∃ original : VerificationCase, merged.cases[id]? = some original ∧
        kept = { original with requirements := kept.requirements } ∧
        kept.requirements.toList =
          original.requirements.toList.filter narrowed.requirements.contains) ∧
    (∀ id, id ∈ narrowed.results ↔
      ∃ original : ManualResult, merged.results[id]? = some original ∧
        ∃ reference ∈ original.cases.toList, reference ∈ narrowed.cases) ∧
    (∀ (id : Identifier) (kept : ManualResult), narrowed.results[id]? = some kept →
      ∃ original : ManualResult, merged.results[id]? = some original ∧
        kept = { original with cases := kept.cases } ∧
        kept.cases.toList = original.cases.toList.filter narrowed.cases.contains) ∧
    narrowed.implementations = merged.implementations ∧ narrowed.tests = merged.tests ∧
    narrowed.testOutcomes = merged.testOutcomes ∧ narrowed.accessible = merged.accessible ∧
    narrowed.order = merged.order := by
  obtain ⟨valid, coherent, rfl⟩ := narrow_of_generate unfiltered filtered
  refine ⟨fun _ => coherent.mem_cases_narrow_iff valid,
    fun _ _ found => coherent.original_of_case valid found,
    fun _ => coherent.mem_results_narrow_iff,
    fun _ _ found => coherent.original_of_result found, ?_⟩
  rw [coherent.narrow_eq, Model.afterRequirements, coherent.narrowRequirements_eq]
  exact ⟨rfl, rfl, rfl, rfl, rfl⟩

end ModuleGraph

/-- One module that drops a case is enough. -/
theorem Sample.second_case_filtered_out_by_left :
    ∃ merged narrowed, graph.generate false = .ok merged ∧ graph.generate true = .ok narrowed ∧
      second ∈ merged.cases ∧ second ∉ narrowed.cases := by
  obtain ⟨merged, unfiltered⟩ := generates false
  obtain ⟨narrowed, filtered⟩ := generates true
  have chain : graph.FollowedChain graph.root ["root", "left"] second.urn :=
    .step (by decide +kernel : "left" ∈ graph.imports "root") (by decide +kernel)
      (.step (by decide +kernel : "base" ∈ graph.imports "left") (by decide +kernel) .here)
  have evaluated : (graph.generate false).toOption.any fun model =>
      model.cases.contains second := by decide +kernel
  rw [unfiltered] at evaluated
  obtain ⟨cases, _⟩ := ModuleGraph.cases_and_results_restricted unfiltered filtered
  refine ⟨merged, narrowed, unfiltered, filtered, Std.ExtTreeMap.contains_iff_mem.mp evaluated, ?_⟩
  intro member
  obtain ⟨_, _, _, free⟩ := (cases second).mp member
  exact free ⟨["root", "left"], chain, "left", by simp, by decide +kernel⟩

end Traceability

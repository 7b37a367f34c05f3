import Mathlib.Data.List.Basic
import Traceability.Proofs.ImportGraph.Unfolding
import Traceability.Proofs.Model.Origin

/-!
Contract: what filtering warns of.

A rule is checked against the entities that the imports of its module pass on,
and these are the same wherever the module is met. So a module warns of the same
names every time it is gone through: of those that a rule lists and no chain
offers to the module. The second pass offers only the cases that the first one
has left.

Owns: what is offered to a module, and all warnings in their order.
Does not own: which of its names a rule is checked for.
-/

namespace Traceability

/-- Some chain offers an entity to a module: from the urn of the entity on,
nobody before the module blocks it. -/
def Pass.Offers [PatternEngine] (pass : Pass) (graph : ModuleGraph) (urn : String)
    (id : Identifier) : Prop :=
  ∃ importers, graph.FollowedChain urn (urn :: importers) id.urn ∧
    ∀ importer ∈ importers, pass.blocks graph importer id = false

namespace ModuleGraph

variable [PatternEngine]

/-- The entities under the urn `target` that the imports of a module pass on. -/
def inherited (graph : ModuleGraph) (pass : Pass) (model : Model) (urn target : String) :
    IdentifierSet :=
  candidates (scopeOfAll pass graph model ((graph.followedImports urn).map graph.tree)).kept target

/-- The warnings of a module for all of its rules. -/
def warningsOf (graph : ModuleGraph) (pass : Pass) (model : Model) (urn : String) :
    List FilterWarning :=
  (pass.rules graph urn).toList.flatMap fun (target, rule) =>
    ruleWarnings urn rule (graph.inherited pass model urn target)

variable {graph : ModuleGraph} {pass : Pass} {model : Model} {urn target : String}
  {id : Identifier}

theorem mem_inherited_iff (coherent : model.Coherent) (valid : graph.ValidImports) :
    id ∈ graph.inherited pass model urn target ↔
      id.urn = target ∧ pass.isPresent model id ∧ pass.Offers graph urn id := by
  have keeps (imported : String) :
      id ∈ (scopeOf pass graph model (graph.tree imported)).kept ↔
        pass.isPresent model id ∧ ∃ importers, graph.FollowedChain imported importers id.urn ∧
          ∀ importer ∈ importers, pass.blocks graph importer id = false :=
    coherent.mem_kept_tree_iff valid
  rw [inherited, mem_candidates_iff, mem_kept_scopeOfAll_iff]
  simp only [keeps, Pass.Offers, followedChain_cons_iff]
  grind

theorem mem_warningsOf_iff {warning : FilterWarning} :
    warning ∈ graph.warningsOf pass model urn ↔ warning.module = urn ∧
      ∃ (target : String) (rule : FilterRule), (pass.rules graph urn)[target]? = some rule ∧
        (warning.action, warning.id) ∈
          rule.unresolved (graph.inherited pass model urn target) := by
  simp only [warningsOf, ruleWarnings, List.mem_flatMap, List.mem_map, Prod.exists,
    Std.ExtTreeMap.mem_toList_iff_getElem?_eq_some]
  constructor
  · rintro ⟨target, rule, found, action, id, told, rfl⟩
    exact ⟨rfl, target, rule, found, told⟩
  · rintro ⟨rfl, target, rule, found, told⟩
    exact ⟨target, rule, found, _, _, told, rfl⟩

theorem scopeOf_tree (valid : graph.ValidImports) :
    scopeOf pass graph model (graph.tree urn) = scopeAt pass graph model urn
      (scopeOfAll pass graph model ((graph.followedImports urn).map graph.tree)) := by
  rw [valid.tree_eq, scopeOf]

/-- Every module warns each time it is gone through. -/
theorem ValidImports.warnings_tree (valid : graph.ValidImports) (urn : String) :
    (scopeOf pass graph model (graph.tree urn)).warnings =
      (graph.trace urn).flatMap (graph.warningsOf pass model) := by
  apply valid.induction (motive := fun urn =>
    (scopeOf pass graph model (graph.tree urn)).warnings =
      (graph.trace urn).flatMap (graph.warningsOf pass model))
  intro urn ofImports
  have before :
      (scopeOfAll pass graph model ((graph.followedImports urn).map graph.tree)).warnings =
        ((graph.followedImports urn).flatMap graph.trace).flatMap (graph.warningsOf pass model) := by
    rw [warnings_scopeOfAll_map, List.flatMap_assoc]
    exact List.flatMap_congr ofImports
  rw [scopeOf_tree valid, valid.trace_eq, List.flatMap_append, ← before, List.flatMap_singleton]
  rfl

/-! ### All warnings -/

theorem unfiltered_of_generate {narrowed : Model} (filtered : graph.generate true = .ok narrowed) :
    ∃ merged, graph.generate false = .ok merged := by
  obtain ⟨merged, merges, _⟩ := generate_eq_ok_iff.mp filtered
  exact ⟨merged, generate_eq_ok_iff.mpr ⟨merged, merges, rfl⟩⟩

/-- Narrowing warns of what the modules on its trace do, for requirements and
then for cases. -/
theorem ValidImports.warnings_narrow (valid : graph.ValidImports) (merged : Model) :
    (merged.narrow graph).warnings =
      (merged.narrow graph).visited.flatMap (graph.warningsOf .requirements merged) ++
        (merged.narrow graph).visited.flatMap
          (graph.warningsOf .cases (merged.afterRequirements graph)) := by
  rw [visited_narrow, ← valid.warnings_tree, ← valid.warnings_tree]
  rfl

/-- The warnings of a filtered model are those of the modules that filtering
goes through, one after the other and as often as it does: first all for
requirements, then all for cases. Each rule is checked against what is offered
to its module under its target: requirements of the unfiltered model, and those
of its cases that keep a requirement. -/
theorem warnings_exact {narrowed : Model} (filtered : graph.generate true = .ok narrowed) :
    ∃ merged, graph.generate false = .ok merged ∧
      narrowed.warnings =
        narrowed.visited.flatMap (graph.warningsOf .requirements merged) ++
          narrowed.visited.flatMap (graph.warningsOf .cases (merged.afterRequirements graph)) ∧
      (∀ urn target id, id ∈ graph.inherited .requirements merged urn target ↔
        id.urn = target ∧ id ∈ merged.requirements ∧ Pass.requirements.Offers graph urn id) ∧
      ∀ urn target id,
        id ∈ graph.inherited .cases (merged.afterRequirements graph) urn target ↔
          id.urn = target ∧
          (∃ original : VerificationCase, merged.cases[id]? = some original ∧
            ∃ reference ∈ original.requirements.toList, reference ∈ narrowed.requirements) ∧
          Pass.cases.Offers graph urn id := by
  obtain ⟨merged, unfiltered⟩ := unfiltered_of_generate filtered
  obtain ⟨valid, coherent, rfl⟩ := narrow_of_generate unfiltered filtered
  refine ⟨merged, unfiltered, valid.warnings_narrow merged, ?_, ?_⟩
  · intro urn target id
    rw [mem_inherited_iff coherent valid, Pass.isPresent, Std.ExtTreeMap.contains_iff_mem]
  · intro urn target id
    rw [mem_inherited_iff (coherent.afterRequirements graph) valid, Pass.isPresent,
      Std.ExtTreeMap.contains_iff_mem, coherent.mem_cases_afterRequirements_iff,
      coherent.requirements_narrow]

end ModuleGraph

namespace Sample

/-- A name of the base under which it has no requirement. -/
def ghost : Identifier := ⟨"base", "ghost"⟩

/-- Two routes lead to the library, which drops the only requirement of the base
and then names a case that it has lost by that. -/
def twofold : ModuleGraph :=
  ModuleGraph.empty "root"
    |>.insert (module "root" [] ∅ [] ∅ []) ["left", "right"]
    |>.insert (module "left" [] ∅ [] ∅ []) ["library"]
    |>.insert (module "right" [] ∅ [] ∅ []) ["library"]
    |>.insert (module "library" [] (.ofList [("base", FilterRule.excluding [first, ghost])]) []
        (.ofList [("base", FilterRule.excluding [first])]) []) ["base"]
    |>.insert (module "base" [first] ∅ [(first, ⟨first, []⟩)] ∅ []) []

/-- The library warns twice of each name, and of the requirement before the case. -/
theorem library_warns_twice :
    ∃ model merged, twofold.generate true = .ok model ∧ twofold.generate false = .ok merged ∧
      model.warnings = [⟨"library", .exclude, ghost⟩, ⟨"library", .exclude, ghost⟩,
        ⟨"library", .exclude, first⟩, ⟨"library", .exclude, first⟩] ∧
      model.warnings =
        model.visited.flatMap (twofold.warningsOf .requirements merged) ++
          model.visited.flatMap (twofold.warningsOf .cases (merged.afterRequirements twofold)) := by
  have evaluated : (twofold.generate true).toOption.any fun model =>
      model.warnings = [⟨"library", .exclude, ghost⟩, ⟨"library", .exclude, ghost⟩,
        ⟨"library", .exclude, first⟩, ⟨"library", .exclude, first⟩] := by decide +kernel
  obtain ⟨model, filtered, warned⟩ := any_toOption_iff.mp evaluated
  obtain ⟨merged, unfiltered, inOrder, -⟩ := ModuleGraph.warnings_exact filtered
  exact ⟨model, merged, filtered, unfiltered, of_decide_eq_true warned, inOrder⟩

end Sample

end Traceability

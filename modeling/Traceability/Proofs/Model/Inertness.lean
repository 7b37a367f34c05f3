import Traceability.Proofs.Filter.Hinge
import Traceability.Proofs.Model.Rules

/-!
Contract: models without a name that is warned of.

A name that filtering warns of may be struck from the rules that do not resolve
it, and nothing but the warnings changes, as long as none of these rules hinges
on it. Rules are struck one by one or together: which of them lose the name is
left open.

Owns: graphs in which a module loses a name, and when they have the same model.
Does not own: what it means for a rule to hinge on a name.
-/

namespace Traceability

namespace ModuleGraph

variable [PatternEngine]

/-- What the rule of a module for a target is asked about in a pass. -/
def askedAbout (graph : ModuleGraph) (merged : Model) (pass : Pass) (urn target : String) :
    IdentifierSet :=
  graph.inherited pass (pass.start graph merged) urn target

/-- The graph in which some rules of a module lose the name that it warns of, on
the side that it warns for. -/
def withoutName (graph : ModuleGraph) (warning : FilterWarning)
    (losing : Pass → String → Bool) : ModuleGraph :=
  graph.mapRules fun urn pass target rule =>
    if urn = warning.module ∧ losing pass target = true then
      rule.withoutName warning.id warning.action
    else rule

variable {graph : ModuleGraph} {merged narrowed : Model} {warning : FilterWarning}

/-- A warning comes from some rule that does not resolve its name. -/
theorem exists_unresolved_of_warned (unfiltered : graph.generate false = .ok merged)
    (filtered : graph.generate true = .ok narrowed) (warned : warning ∈ narrowed.warnings) :
    ∃ (pass : Pass) (target : String) (rule : FilterRule),
      (pass.rules graph warning.module)[target]? = some rule ∧
      (warning.action, warning.id) ∈
        rule.unresolved (graph.askedAbout merged pass warning.module target) := by
  obtain ⟨valid, _, rfl⟩ := narrow_of_generate unfiltered filtered
  rw [valid.warnings_narrow, List.mem_append, List.mem_flatMap, List.mem_flatMap] at warned
  rcases warned with ⟨urn, _, told⟩ | ⟨urn, _, told⟩
  · obtain ⟨rfl, target, rule, found, unresolved⟩ := mem_warningsOf_iff.mp told
    exact ⟨.requirements, target, rule, found, unresolved⟩
  · obtain ⟨rfl, target, rule, found, unresolved⟩ := mem_warningsOf_iff.mp told
    exact ⟨.cases, target, rule, found, unresolved⟩

/-- A name that filtering warns of is not resolved by some rule of the module.
Let any rules of the module for which it does not resolve lose it. Unless one of
them hinges on it, filtering succeeds again, and nothing but the warnings
changes. A rule hinges on the name exactly if some candidate is treated
otherwise without it. -/
theorem inert_unless_hinged (filtered : graph.generate true = .ok narrowed)
    (warned : warning ∈ narrowed.warnings) :
    ∃ merged, graph.generate false = .ok merged ∧
    (∃ (pass : Pass) (target : String) (rule : FilterRule),
      (pass.rules graph warning.module)[target]? = some rule ∧
      (warning.action, warning.id) ∈
        rule.unresolved (graph.askedAbout merged pass warning.module target)) ∧
    (∀ losing : Pass → String → Bool,
      (∀ pass target, losing pass target = true →
        warning.id ∉ graph.askedAbout merged pass warning.module target) →
      (∀ (pass : Pass) (target : String) (rule : FilterRule), losing pass target = true →
        (pass.rules graph warning.module)[target]? = some rule →
          ¬rule.HingesOn target (graph.askedAbout merged pass warning.module target)
            warning.id warning.action) →
      ∃ again, (graph.withoutName warning losing).generate true = .ok again ∧
        again = { narrowed with warnings := again.warnings }) ∧
    ∀ pass target, warning.id ∉ graph.askedAbout merged pass warning.module target →
      ∀ rule : FilterRule,
        rule.HingesOn target (graph.askedAbout merged pass warning.module target)
            warning.id warning.action ↔
          ∃ candidate ∈ graph.askedAbout merged pass warning.module target,
            (rule.withoutName warning.id warning.action).filtersOut target candidate ≠
              rule.filtersOut target candidate := by
  obtain ⟨merged, unfiltered⟩ := unfiltered_of_generate filtered
  refine ⟨merged, unfiltered, exists_unresolved_of_warned unfiltered filtered warned, ?_, ?_⟩
  · intro losing hidden unhinged
    apply generate_mapRules unfiltered filtered
    intro pass urn target rule found id asked
    dsimp only
    by_cases loses : urn = warning.module ∧ losing pass target = true
    · rw [if_pos loses]
      obtain ⟨rfl, lost⟩ := loses
      by_contra differs
      exact unhinged pass target rule lost found
        ((FilterRule.hingesOn_iff (hidden pass target lost)).mpr ⟨id, asked, differs⟩)
    · rw [if_neg loses]
  · intro pass target hidden rule
    exact FilterRule.hingesOn_iff hidden

end ModuleGraph

namespace Sample

/-- The library has another name to exclude next to the ghost, and hinges on neither. -/
theorem ghost_inert_for_library :
    ∃ merged narrowed again, twofold.generate false = .ok merged ∧
      twofold.generate true = .ok narrowed ∧ ⟨"library", .exclude, ghost⟩ ∈ narrowed.warnings ∧
      (twofold.withoutName ⟨"library", .exclude, ghost⟩
        fun pass target => pass = .requirements ∧ target = "base").generate true = .ok again ∧
      again = { narrowed with warnings := again.warnings } := by
  have evaluated : (twofold.generate false).toOption.any fun merged =>
      (twofold.generate true).toOption.any fun narrowed =>
        (⟨"library", .exclude, ghost⟩ ∈ narrowed.warnings) ∧
          ghost ∉ twofold.askedAbout merged .requirements "library" "base" := by decide +kernel
  obtain ⟨merged, unfiltered, evaluated⟩ := any_toOption_iff.mp evaluated
  obtain ⟨narrowed, filtered, evaluated⟩ := any_toOption_iff.mp evaluated
  obtain ⟨warned, hidden⟩ := of_decide_eq_true evaluated
  have left : ((Pass.requirements.rules twofold "library")["base"]?).all fun rule =>
      (rule.withoutName ghost .exclude).hasExcludes := by decide +kernel
  obtain ⟨_, unfilteredAgain, _, inert, _⟩ := ModuleGraph.inert_unless_hinged filtered warned
  cases unfiltered.symm.trans unfilteredAgain
  obtain ⟨again, generates, same⟩ := inert
    (fun pass target => pass = .requirements ∧ target = "base")
    (by
      intro pass target chosen
      obtain ⟨rfl, rfl⟩ := of_decide_eq_true chosen
      exact hidden)
    (by
      intro pass target rule chosen found hinges
      obtain ⟨rfl, rfl⟩ := of_decide_eq_true chosen
      rw [found, Option.all_some] at left
      exact Bool.false_ne_true (hinges.2.1.symm.trans left))
  exact ⟨merged, narrowed, again, unfiltered, filtered, warned, generates, same⟩

/-- The root names nothing but a ghost to include. -/
def hinged : ModuleGraph :=
  ModuleGraph.empty "root"
    |>.insert (module "root" [] (.ofList [("base", FilterRule.including [ghost])]) [] ∅ [])
      ["base"]
    |>.insert (module "base" [first] ∅ [] ∅ []) []

/-- The only name to include is warned of, and without it the requirement that
it was not is kept. -/
theorem ghost_not_inert_for_root :
    ∃ merged narrowed again, hinged.generate false = .ok merged ∧
      hinged.generate true = .ok narrowed ∧ ⟨"root", .import, ghost⟩ ∈ narrowed.warnings ∧
      ghost ∉ hinged.askedAbout merged .requirements "root" "base" ∧
      (hinged.withoutName ⟨"root", .import, ghost⟩
        fun pass target => pass = .requirements ∧ target = "base").generate true = .ok again ∧
      first ∉ narrowed.requirements ∧ first ∈ again.requirements := by
  have evaluated : (hinged.generate false).toOption.any fun merged =>
      (hinged.generate true).toOption.any fun narrowed =>
        (hinged.withoutName ⟨"root", .import, ghost⟩
          fun pass target => pass = .requirements ∧ target = "base").generate true
          |>.toOption.any fun again =>
        (⟨"root", .import, ghost⟩ ∈ narrowed.warnings) ∧
          ghost ∉ hinged.askedAbout merged .requirements "root" "base" ∧
          first ∉ narrowed.requirements ∧ first ∈ again.requirements := by decide +kernel
  obtain ⟨merged, unfiltered, evaluated⟩ := any_toOption_iff.mp evaluated
  obtain ⟨narrowed, filtered, evaluated⟩ := any_toOption_iff.mp evaluated
  obtain ⟨again, generates, evaluated⟩ := any_toOption_iff.mp evaluated
  obtain ⟨warned, hidden, dropped, kept⟩ := of_decide_eq_true evaluated
  exact ⟨merged, narrowed, again, unfiltered, filtered, warned, hidden, generates, dropped, kept⟩

end Sample

end Traceability

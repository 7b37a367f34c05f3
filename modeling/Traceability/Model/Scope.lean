import Traceability.Model.Deletion

/-!
Contract: narrowing a model to what its root may see.

The imports of the root are gone through as a tree, once for requirements and
once for cases. Every module passes on what its imports passed to it, less what
its own rules filter out, and what it defines itself. A requirement stays if
the root is passed it on some chain of imports. A case goes if some module on
some chain filters it out: the cases of microservices are on no chain and stay.

The walk for requirements also notes every module it has gone through.

Owns: the scope of a module, the trace, the warnings, and the filtered model.
Does not own: what a single rule filters out.
-/

namespace Traceability

/-- The kind of entity that a walk through the imports narrows. -/
inductive Pass where
  | requirements
  | cases
deriving DecidableEq, Repr

/-- What a module passes on, what it or one of its imports filtered out, and
on the way the modules that were noted and the warnings. -/
structure Scope where
  kept : IdentifierSet
  filteredOut : IdentifierSet
  visited : List String
  warnings : List FilterWarning
deriving DecidableEq

variable [PatternEngine]

namespace Pass

/-- The rules of a module for the entities of its imports. -/
def rules (graph : ModuleGraph) (urn : String) : Pass → UrnMap FilterRule
  | .requirements => (graph.modules[urn]?).elim ∅ Module.filters
  | .cases => (graph.modules[urn]?).elim ∅ Module.caseFilters

/-- The entities with the urn of a module. -/
def own (model : Model) (urn : String) : Pass → IdentifierSet
  | .requirements => (model.requirementsOfUrn[urn]?).getD ∅
  | .cases => (model.casesOfUrn[urn]?).getD ∅

/-- Whether an entity is in the model. -/
def isPresent (model : Model) (id : Identifier) : Pass → Bool
  | .requirements => model.requirements.contains id
  | .cases => model.cases.contains id

/-- What is noted of a module once it has been gone through. -/
def note (urn : String) : Pass → List String
  | .requirements => [urn]
  | .cases => []

end Pass

namespace Scope

def empty : Scope := ⟨∅, ∅, [], []⟩

def union (left right : Scope) : Scope where
  kept := left.kept ∪ right.kept
  filteredOut := left.filteredOut ∪ right.filteredOut
  visited := left.visited ++ right.visited
  warnings := left.warnings ++ right.warnings

end Scope

/-- The entities of a module among those that are passed on. -/
def candidates (kept : IdentifierSet) (target : String) : IdentifierSet :=
  kept.filter fun id => id.urn = target

/-- The warnings of a module for the names in a rule that do not resolve. -/
def ruleWarnings (urn : String) (rule : FilterRule) (accessible : IdentifierSet) :
    List FilterWarning :=
  (rule.unresolved accessible).map fun (action, id) => ⟨urn, action, id⟩

/-- The candidates in the model that a rule filters out. -/
def ruleFiltersOut (pass : Pass) (model : Model) (target : String) (rule : FilterRule)
    (accessible : IdentifierSet) : IdentifierSet :=
  accessible.filter fun id => pass.isPresent model id && rule.filtersOut target id

/-- The scope of a module, given that of its imports together. -/
def scopeAt (pass : Pass) (graph : ModuleGraph) (model : Model) (urn : String)
    (inherited : Scope) : Scope :=
  let rules := (pass.rules graph urn).toList
  let filteredOut := rules.foldl
    (fun out (target, rule) =>
      out ∪ ruleFiltersOut pass model target rule (candidates inherited.kept target)) ∅
  { kept := (inherited.kept \ filteredOut) ∪ pass.own model urn
    filteredOut := filteredOut ∪ inherited.filteredOut
    visited := inherited.visited ++ pass.note urn
    warnings := inherited.warnings ++ rules.flatMap fun (target, rule) =>
      ruleWarnings urn rule (candidates inherited.kept target) }

mutual

/-- The scope of the module at the top of a tree of imports. -/
def scopeOf (pass : Pass) (graph : ModuleGraph) (model : Model) : ImportTree → Scope
  | .node urn imports => scopeAt pass graph model urn (scopeOfAll pass graph model imports)

/-- The scopes of several imports together. -/
def scopeOfAll (pass : Pass) (graph : ModuleGraph) (model : Model) : List ImportTree → Scope
  | [] => .empty
  | head :: tail => (scopeOf pass graph model head).union (scopeOfAll pass graph model tail)

end

namespace Model

/-- Deletes the requirements that are not passed on to the root. -/
def narrowRequirements (model : Model) (scope : Scope) : Model :=
  (model.requirements.keys.filter fun id => !scope.kept.contains id).foldl
    deleteRequirement model

/-- Deletes the cases that are filtered out on some chain to the root. -/
def narrowCases (model : Model) (scope : Scope) : Model :=
  scope.filteredOut.toList.foldl deleteCase model

/-- Narrows a model to what the root of the graph may see. -/
def narrow (graph : ModuleGraph) (model : Model) : Model :=
  let tree := graph.importTree
  let requirementScope := scopeOf .requirements graph model tree
  let narrowed := model.narrowRequirements requirementScope
  let caseScope := scopeOf .cases graph narrowed tree
  { narrowed.narrowCases caseScope with
    visited := requirementScope.visited ++ caseScope.visited
    warnings := requirementScope.warnings ++ caseScope.warnings
    filtered := true }

end Model

end Traceability

import Traceability.Model.Generation
import Traceability.Pattern.Basic
import Traceability.Proofs.Model.Merge
import Traceability.Proofs.Model.Remainder

/-!
Contract: a narrowed model is what is left of the merged one.

Narrowing deletes the requirements that are not passed on to the root, and then
the cases that are filtered out, whatever scopes say so.

Owns: both passes in closed form, the coherence of every generated model, and a
small graph with a model.
Does not own: what the scopes hold.
-/

namespace Traceability

namespace Model

variable {model : Model}

/-- Whether a deletion is that of a requirement outside of `kept`. -/
def deletesUnkept (kept : IdentifierSet) : Deletion → Bool
  | .requirement id => !kept.contains id
  | .verificationCase _ => false
  | .manualResult _ => false

/-- Whether a deletion is that of a case in `filteredOut`. -/
def deletesFilteredOut (filteredOut : IdentifierSet) : Deletion → Bool
  | .requirement _ => false
  | .verificationCase id => filteredOut.contains id
  | .manualResult _ => false

theorem Coherent.narrowRequirements_eq (coherent : model.Coherent) (scope : Scope) :
    model.narrowRequirements scope = model.without (deletesUnkept scope.kept) := by
  have asDeletions := coherent.deleteAll_eq
    ((model.requirements.keys.filter fun id => !scope.kept.contains id).map Deletion.requirement)
  rw [deleteAll, List.foldl_map] at asDeletions
  apply asDeletions.trans
  apply coherent.without_congr
  · intro id present
    rw [Bool.eq_iff_iff, List.contains_iff_mem]
    simp [deletesUnkept, present]
  · simp [deletesUnkept]
  · simp [deletesUnkept]

theorem Coherent.narrowCases_eq (coherent : model.Coherent) (scope : Scope) :
    model.narrowCases scope = model.without (deletesFilteredOut scope.filteredOut) := by
  have asDeletions := coherent.deleteAll_eq
    (scope.filteredOut.toList.map Deletion.verificationCase)
  rw [deleteAll, List.foldl_map] at asDeletions
  apply asDeletions.trans
  apply coherent.without_congr
  · simp [deletesFilteredOut]
  · intro id
    rw [Bool.eq_iff_iff, List.contains_iff_mem]
    simp [deletesFilteredOut]
  · simp [deletesFilteredOut]

variable [PatternEngine]

theorem Coherent.narrow (coherent : model.Coherent) (graph : ModuleGraph) :
    (model.narrow graph).Coherent := by
  rw [Model.narrow, coherent.narrowRequirements_eq, coherent.without.narrowCases_eq]
  exact { coherent.without.without with }

/-- Apart from entities, narrowing changes nothing but what it tells of itself. -/
theorem Coherent.rest_narrow (coherent : model.Coherent) (graph : ModuleGraph) :
    ∃ visited warnings, (model.narrow graph).rest =
      { model.rest with visited := visited, filtered := true, warnings := warnings } := by
  rw [Model.narrow, coherent.narrowRequirements_eq, coherent.without.narrowCases_eq]
  exact ⟨_, _, rfl⟩

end Model

namespace ModuleGraph

variable [PatternEngine]

/-- A graph has a model if merging gives one, which is narrowed on demand. -/
theorem generateBy_eq_ok_iff {algorithms : DigraphAlgorithms} {graph : ModuleGraph}
    {filter : Bool} {model : Model} :
    graph.generateBy algorithms filter = .ok model ↔
      ∃ merged, graph.mergeBy algorithms = .ok merged ∧
        model = if filter then merged.narrow graph else merged := by
  unfold generateBy
  cases graph.mergeBy algorithms with
  | error failure => simp
  | ok merged => simp [eq_comm]

theorem generate_eq_ok_iff {graph : ModuleGraph} {filter : Bool} {model : Model} :
    graph.generate filter = .ok model ↔
      ∃ merged, graph.merge = .ok merged ∧
        model = if filter then merged.narrow graph else merged :=
  generateBy_eq_ok_iff

theorem coherent_of_generate {graph : ModuleGraph} {filter : Bool} {model : Model}
    (generates : graph.generate filter = .ok model) : model.Coherent := by
  obtain ⟨merged, merges, rfl⟩ := generate_eq_ok_iff.mp generates
  cases filter with
  | false => exact coherent_of_merge merges
  | true => exact (coherent_of_merge merges).narrow graph

/-- Apart from entities, a model is made of its graph and the annotations there,
and of what narrowing tells of itself. -/
theorem rest_of_generate {graph : ModuleGraph} {filter : Bool} {model : Model}
    (generates : graph.generate filter = .ok model) :
    ∃ closure visited warnings, graph.checkImports = .ok closure ∧
      model.rest = { graph.mergeAnnotations (Model.empty graph.root graph.order closure) with
        visited := visited, filtered := filter, warnings := warnings } := by
  obtain ⟨merged, merges, rfl⟩ := generate_eq_ok_iff.mp generates
  obtain ⟨closure, accepted, rest⟩ := rest_of_merge merges
  cases filter with
  | false => exact ⟨closure, [], [], accepted, rest⟩
  | true =>
      obtain ⟨visited, warnings, narrowed⟩ := (coherent_of_merge merges).rest_narrow graph
      refine ⟨closure, visited, warnings, accepted, ?_⟩
      rw [← rest]
      exact narrowed

end ModuleGraph

/-! ### A small graph -/

namespace Sample

def requirement (id : Identifier) : Requirement where
  id := id
  title := ""
  significance := .shall
  description := ""
  rationale := none
  categories := ∅
  revision := "1.0.0"
  implementation := .inCode

def verificationCase (id : Identifier) (requirements : NonEmptyList Identifier) :
    VerificationCase where
  id := id
  title := ""
  description := none
  verification := .manualTest
  instructions := none
  revision := "1.0.0"
  requirements := requirements

/-- A module without annotations and test runs. -/
def module (urn : String) (requirements : List Identifier) (filters : UrnMap FilterRule)
    (cases : List (Identifier × NonEmptyList Identifier)) (caseFilters : UrnMap FilterRule)
    (results : List ManualResult) : Module where
  urn := urn
  variant := .system
  title := ""
  requirements := .ofList (requirements.map fun id => (id, requirement id))
  filters := filters
  caseDocument := some
    { cases := .ofList (cases.map fun (id, references) => (id, verificationCase id references))
      filters := caseFilters }
  results := some (.ofList (results.map fun result => (result.id, result)))
  annotations := none
  testRun := none

def first : Identifier := ⟨"base", "first"⟩

def second : Identifier := ⟨"base", "second"⟩

def third : Identifier := ⟨"base", "third"⟩

/-- The root imports the base on two ways. Each drops a requirement that the
other keeps, and both drop the third. -/
def graph : ModuleGraph :=
  ModuleGraph.empty "root"
    |>.insert (module "root" [⟨"root", "own"⟩] ∅ [] ∅ []) ["left", "right"]
    |>.insert (module "left" [] (.ofList [("base", FilterRule.excluding [first, third])])
        [] (.ofList [("base", FilterRule.excluding [second])]) []) ["base"]
    |>.insert (module "right" [] (.ofList [("base", FilterRule.excluding [second, third])])
        [] ∅ []) ["base"]
    |>.insert (module "base" [first, second, third] ∅
        [(first, ⟨first, [third, first]⟩), (second, ⟨second, []⟩), (third, ⟨third, []⟩)] ∅
        [⟨first, ⟨first, [second]⟩, true, none⟩, ⟨second, ⟨third, []⟩, true, none⟩]) []

theorem generates (filter : Bool) : ∃ model, graph.generate filter = .ok model := by
  have generated : ∀ filter, (graph.generate filter).toOption.isSome := by decide +kernel
  cases result : graph.generate filter with
  | error failure =>
      have impossible := generated filter
      rw [result] at impossible
      contradiction
  | ok model => exact ⟨model, rfl⟩

end Sample

end Traceability

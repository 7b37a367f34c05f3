import Mathlib.Data.List.Forall2
import Traceability.Proofs.Definition
import Traceability.Proofs.Gathering
import Traceability.Proofs.Model.Narrowing

/-!
Contract: the outcomes that a model has for the test annotations of its modules.

Annotations of several modules, and of several cases under one urn, may name one
test. The model then has one outcome for each of them under the urn and the name,
in the order of the modules and of their cases. Only the run of the module that
holds the annotation decides about it, and filtering changes nothing.

Owns: which outcomes there are, and the status of each.
Does not own: whether the annotated cases are in the model.
-/

namespace Traceability

/-! ### The status of a class -/

theorem isPartOf_iff {part text : List Char} : isPartOf part text = true ↔ part <:+: text := by
  induction text with
  | nil => simp [isPartOf]
  | cons c text inductionHypothesis =>
      simp only [isPartOf, Bool.or_eq_true, List.isPrefixOf_iff_prefix, inductionHypothesis,
        List.infix_cons_iff]

namespace TestStatus

variable {status : TestStatus} {statuses : List TestStatus}

theorem aggregate_cons : aggregate (status :: statuses) =
    if ∀ other ∈ status :: statuses, other = .passed then .passed else .failed := by
  simp [aggregate]

theorem aggregate_eq_missing_iff :
    aggregate statuses = .missing ↔ ¬∃ status, status ∈ statuses := by
  cases statuses with
  | nil => simp [aggregate]
  | cons status statuses =>
      rw [aggregate_cons]
      split <;> simp

theorem aggregate_eq_passed_iff :
    aggregate statuses = .passed ↔
      (∃ status, status ∈ statuses) ∧ ∀ status ∈ statuses, status = .passed := by
  cases statuses with
  | nil => simp [aggregate]
  | cons status statuses => simp [aggregate_cons]

theorem aggregate_eq_failed_iff :
    aggregate statuses = .failed ↔ ∃ status ∈ statuses, status ≠ .passed := by
  cases statuses with
  | nil => simp [aggregate]
  | cons status statuses =>
      rw [aggregate_cons]
      split
      next allPassed => simpa using allPassed
      next notAll => simpa [imp_iff_not_or] using notAll

end TestStatus

/-! ### Annotations and runs -/

/-- The annotations of tests of the module under their cases, none without a
document. -/
def Module.annotatedTests [PatternEngine] (module : Module) : IdentifierMap (List Annotation) :=
  module.annotations.elim ∅ AnnotationDocument.tests

namespace ModuleGraph

variable [PatternEngine]

/-- The annotations of tests of all modules, each with the module and the case
that it stands under. -/
def testAnnotations (graph : ModuleGraph) : List (Place × Annotation) :=
  (definitions Module.annotatedTests graph.modules.toList).flatMap fun (place, annotations) =>
    annotations.map fun element => (place, element)

/-- Where the outcome of an annotation belongs: under the urn of its case and its
own name. -/
def outcomeKey (annotated : Place × Annotation) : Identifier :=
  ⟨annotated.1.key.urn, annotated.2.name⟩

/-- The annotations whose outcomes belong under a key. -/
def testAnnotationsUnder (graph : ModuleGraph) (key : Identifier) : List (Place × Annotation) :=
  graph.testAnnotations.filter (outcomeKey · = key)

/-- What the module under `urn` recorded, which is nothing without a run. -/
def runOf (graph : ModuleGraph) (urn : String) : TestRun :=
  ((graph.modules[urn]?).bind Module.testRun).getD ∅

/-- All runs list outcomes under the names that these have. -/
def RunsKeyedByName (graph : ModuleGraph) : Prop :=
  ∀ entry ∈ graph.modules.toList, ∀ run ∈ entry.2.testRun, ∀ recorded ∈ run.toList,
    recorded.2.name = recorded.1.name

instance (graph : ModuleGraph) : Decidable graph.RunsKeyedByName := by
  unfold RunsKeyedByName
  infer_instance

/-- The module under `urn` recorded a status under an identifier. -/
def Recorded (graph : ModuleGraph) (urn : String) (id : Identifier) (status : TestStatus) : Prop :=
  ∃ outcome, (graph.runOf urn)[id]? = some outcome ∧ outcome.status = status

/-- The module under `urn` recorded a status for a test whose name contains that
of a class. -/
def RecordedInClass (graph : ModuleGraph) (urn className : String) (status : TestStatus) : Prop :=
  ∃ id, graph.Recorded urn id status ∧ className.toList <:+: id.name.toList

/-- What the run of the module under `urn` says of an annotation. A class is
missing if none of its tests was recorded, has passed if all of them have, and
has failed otherwise. Anything else has the status that was recorded for it, and
is missing if there is none. -/
structure Says (graph : ModuleGraph) (urn : String) (element : Annotation)
    (status : TestStatus) : Prop where
  missing_iff : element.kind = .classType →
    (status = .missing ↔ ¬∃ recorded, graph.RecordedInClass urn element.name recorded)
  passed_iff : element.kind = .classType →
    (status = .passed ↔ (∃ recorded, graph.RecordedInClass urn element.name recorded) ∧
      ∀ recorded, graph.RecordedInClass urn element.name recorded → recorded = .passed)
  failed_iff : element.kind = .classType →
    (status = .failed ↔ ∃ recorded, graph.RecordedInClass urn element.name recorded ∧
      recorded ≠ .passed)
  recorded_or_missing : element.kind ≠ .classType →
    graph.Recorded urn ⟨urn, element.name⟩ status ∨
      status = .missing ∧ ¬∃ recorded, graph.Recorded urn ⟨urn, element.name⟩ recorded

/-- The outcome of an annotation that stands at a place. -/
def outcomeAt (graph : ModuleGraph) (place : Place) (element : Annotation) : TestOutcome :=
  element.outcome place.urn ((graph.modules[place.urn]?).bind Module.testRun)

variable {graph : ModuleGraph} {place : Place} {element : Annotation} {key : Identifier}
  {urn : String} {status : TestStatus} {model : Model} {filter : Bool}

theorem mem_testAnnotations_iff :
    (place, element) ∈ graph.testAnnotations ↔
      ∃ annotations, graph.definedAt? Module.annotatedTests place = some annotations ∧
        element ∈ annotations := by
  simp only [testAnnotations, List.mem_flatMap, List.mem_map, Prod.exists,
    mem_definitions_toList_iff, Prod.mk.injEq]
  grind

theorem RunsKeyedByName.name_eq (keyed : graph.RunsKeyedByName) {id : Identifier}
    {outcome : TestOutcome} (found : (graph.runOf urn)[id]? = some outcome) :
    outcome.name = id.name := by
  unfold runOf at found
  cases here : (graph.modules[urn]?).bind Module.testRun with
  | none => simp [here] at found
  | some run =>
      obtain ⟨module, isModule, hasRun⟩ := Option.bind_eq_some_iff.mp here
      have listed : (urn, module) ∈ graph.modules.toList :=
        Std.ExtTreeMap.mem_toList_iff_getElem?_eq_some.mpr isModule
      have recorded : (id, outcome) ∈ run.toList := by
        rw [here, Option.getD_some] at found
        exact Std.ExtTreeMap.mem_toList_iff_getElem?_eq_some.mpr found
      exact keyed _ listed run hasRun _ recorded

/-! ### The outcome of one annotation -/

theorem outcomeAt_of_class (isClass : element.kind = .classType) :
    graph.outcomeAt place element = ⟨element.name, .aggregate
      (((graph.runOf place.urn).toList.filter fun entry =>
        isPartOf element.name.toList entry.1.name.toList).map fun entry => entry.2.status)⟩ := by
  simp only [outcomeAt, Annotation.outcome, isClass]
  rfl

theorem outcomeAt_of_ne_class (noClass : element.kind ≠ .classType) :
    graph.outcomeAt place element =
      ((graph.runOf place.urn)[(⟨place.urn, element.name⟩ : Identifier)]?).getD
        ⟨element.name, .missing⟩ := by
  unfold outcomeAt Annotation.outcome
  split
  next isClass => contradiction
  next => rfl

theorem recordedInClass_iff {className : String} :
    graph.RecordedInClass urn className status ↔
      status ∈ ((graph.runOf urn).toList.filter fun entry =>
        isPartOf className.toList entry.1.name.toList).map fun entry => entry.2.status := by
  simp only [RecordedInClass, Recorded, List.mem_map, List.mem_filter, Prod.exists,
    Std.ExtTreeMap.mem_toList_iff_getElem?_eq_some, isPartOf_iff]
  grind

theorem name_outcomeAt (keyed : graph.RunsKeyedByName) :
    (graph.outcomeAt place element).name = element.name := by
  by_cases isClass : element.kind = .classType
  · rw [outcomeAt_of_class isClass]
  · rw [outcomeAt_of_ne_class isClass]
    cases found : (graph.runOf place.urn)[(⟨place.urn, element.name⟩ : Identifier)]? with
    | none => rfl
    | some outcome => exact keyed.name_eq found

theorem says_outcomeAt :
    graph.Says place.urn element (graph.outcomeAt place element).status where
  missing_iff := by
    intro isClass
    rw [outcomeAt_of_class isClass, TestStatus.aggregate_eq_missing_iff]
    simp only [recordedInClass_iff]
  passed_iff := by
    intro isClass
    rw [outcomeAt_of_class isClass, TestStatus.aggregate_eq_passed_iff]
    simp only [recordedInClass_iff]
  failed_iff := by
    intro isClass
    rw [outcomeAt_of_class isClass, TestStatus.aggregate_eq_failed_iff]
    simp only [recordedInClass_iff]
  recorded_or_missing := by
    intro noClass
    rw [outcomeAt_of_ne_class noClass]
    cases found : (graph.runOf place.urn)[(⟨place.urn, element.name⟩ : Identifier)]? with
    | none => exact Or.inr ⟨rfl, by simp [Recorded, found]⟩
    | some outcome => exact Or.inl ⟨outcome, found, rfl⟩

/-! ### All outcomes -/

theorem outcomes_eq (urn : String) (module : Module) :
    module.outcomes urn = module.annotatedTests.toList.flatMap fun (id, annotations) =>
      annotations.map fun element =>
        (⟨id.urn, element.name⟩, element.outcome urn module.testRun) := by
  unfold Module.outcomes Module.annotatedTests
  cases module.annotations with
  | none => simp
  | some document => rfl

theorem flatMap_outcomes :
    (graph.modules.toList.flatMap fun entry => entry.2.outcomes entry.1) =
      graph.testAnnotations.map fun annotated =>
        (outcomeKey annotated, graph.outcomeAt annotated.1 annotated.2) := by
  rw [testAnnotations, definitions, List.flatMap_assoc, List.map_flatMap]
  apply List.flatMap_congr
  intro entry member
  have found := Std.ExtTreeMap.mem_toList_iff_getElem?_eq_some.mp member
  have ofModule (element : Annotation) (id : Identifier) :
      graph.outcomeAt ⟨entry.1, id⟩ element = element.outcome entry.1 entry.2.testRun := by
    rw [outcomeAt, found, Option.bind_some]
  simp only [outcomes_eq, List.flatMap_map, List.map_flatMap, List.map_map, Function.comp_def,
    ofModule, outcomeKey]

/-- The outcomes of a model are gathered from the annotations of its graph. -/
theorem testOutcomes_of_generate (generates : graph.generate filter = .ok model) :
    model.testOutcomes = gather ∅ (graph.testAnnotations.map fun annotated =>
      (outcomeKey annotated, [graph.outcomeAt annotated.1 annotated.2])) := by
  obtain ⟨_, _, _, _, rest⟩ := rest_of_generate generates
  have merged : model.testOutcomes =
      (graph.modules.toList.flatMap fun entry => entry.2.outcomes entry.1).foldl
        (fun lists entry => appendUnder lists entry.1 [entry.2]) ∅ :=
    congrArg Model.testOutcomes rest
  rw [merged, flatMap_outcomes, gather, List.foldl_map, List.foldl_map]

/-- Under a key are the outcomes of its annotations, and nothing without any. -/
theorem getElem?_testOutcomes (generates : graph.generate filter = .ok model) :
    model.testOutcomes[key]? =
      if graph.testAnnotationsUnder key = [] then none
      else some ((graph.testAnnotationsUnder key).map fun annotated =>
        graph.outcomeAt annotated.1 annotated.2) := by
  rw [testOutcomes_of_generate generates]
  exact getElem?_gather_single _ _ _

theorem mem_testOutcomes_iff (generates : graph.generate filter = .ok model) :
    key ∈ model.testOutcomes ↔ ∃ annotated ∈ graph.testAnnotations, outcomeKey annotated = key := by
  rw [testOutcomes_of_generate generates, mem_gather_empty, List.map_map]
  simp only [List.mem_map, Function.comp_apply]

/-- A model has outcomes under exactly those keys under which some annotation
belongs, one for each of these, with the status that the run of its own module
says. They are named for the key if the runs are. -/
theorem outcomes_of_annotations (generates : graph.generate filter = .ok model) :
    (∀ key : Identifier, key ∈ model.testOutcomes ↔
      ∃ place annotations element,
        graph.definedAt? Module.annotatedTests place = some annotations ∧
        element ∈ annotations ∧ place.key.urn = key.urn ∧ element.name = key.name) ∧
    ∀ (key : Identifier) (outcomes : List TestOutcome), model.testOutcomes[key]? = some outcomes →
      List.Forall₂ (fun annotated outcome =>
          graph.Says annotated.1.urn annotated.2 outcome.status)
        (graph.testAnnotationsUnder key) outcomes ∧
      (graph.RunsKeyedByName → ∀ outcome ∈ outcomes, outcome.name = key.name) := by
  constructor
  · intro key
    rw [mem_testOutcomes_iff generates]
    constructor
    · rintro ⟨⟨place, element⟩, member, rfl⟩
      obtain ⟨elements, defined, among⟩ := mem_testAnnotations_iff.mp member
      exact ⟨place, elements, element, defined, among, rfl, rfl⟩
    · rintro ⟨place, elements, element, defined, among, sameUrn, sameName⟩
      refine ⟨(place, element), mem_testAnnotations_iff.mpr ⟨elements, defined, among⟩, ?_⟩
      rw [outcomeKey, sameUrn, sameName]
  · intro key outcomes found
    rw [getElem?_testOutcomes generates] at found
    split at found
    next => contradiction
    next =>
      cases found
      constructor
      · rw [List.forall₂_map_right_iff, List.forall₂_same]
        exact fun _ _ => says_outcomeAt
      · intro keyed outcome member
        obtain ⟨annotated, under, rfl⟩ := List.mem_map.mp member
        have belongs : outcomeKey annotated = key := by
          simpa using (List.mem_filter.mp under).2
        exact (name_outcomeAt keyed).trans (congrArg Identifier.name belongs)

end ModuleGraph

namespace Sample

def suite : Annotation := ⟨.classType, "Suite"⟩

def suiteRuns : Annotation := ⟨.method, "Suite.runs"⟩

/-- A module with annotations of tests. -/
def testedModule (urn : String) (tests : List (Identifier × List Annotation)) (run : TestRun) :
    Module :=
  { module urn [⟨urn, "own"⟩] ∅ [] ∅ [] with
    annotations := some ⟨∅, .ofList tests⟩
    testRun := some run }

/-- The library names a test of the root for a case of the root. Only the root
has recorded it. -/
def tested : ModuleGraph :=
  ModuleGraph.empty "root"
    |>.insert (testedModule "root"
        [(⟨"root", "first"⟩, [suite, suiteRuns]), (⟨"root", "second"⟩, [suiteRuns])]
        ((TestRun.record ∅ "root" ⟨"Suite.runs", .passed⟩).record "root" ⟨"Suite.stops", .skipped⟩))
      ["library"]
    |>.insert (testedModule "library" [(⟨"root", "first"⟩, [suiteRuns])]
        (TestRun.record ∅ "library" ⟨"Suite", .passed⟩)) []

/-- One test has three outcomes. That of the library is missing, and the class of
the root has failed, since one of its tests was skipped. -/
theorem three_outcomes_of_one_test :
    ∃ model outcomes, tested.generate true = .ok model ∧
      model.testOutcomes[(⟨"root", "Suite"⟩ : Identifier)]? = some [⟨"Suite", .failed⟩] ∧
      model.testOutcomes[(⟨"root", "Suite.runs"⟩ : Identifier)]? = some outcomes ∧
      outcomes.map TestOutcome.status = [.missing, .passed, .passed] ∧
      List.Forall₂ (fun annotated outcome =>
          tested.Says annotated.1.urn annotated.2 outcome.status)
        (tested.testAnnotationsUnder ⟨"root", "Suite.runs"⟩) outcomes ∧
      ∀ outcome ∈ outcomes, outcome.name = "Suite.runs" := by
  have evaluated : (tested.generate true).toOption.any fun model =>
      model.testOutcomes[(⟨"root", "Suite"⟩ : Identifier)]? = some [⟨"Suite", .failed⟩] ∧
      model.testOutcomes[(⟨"root", "Suite.runs"⟩ : Identifier)]? = some [⟨"Suite.runs", .missing⟩,
        ⟨"Suite.runs", .passed⟩, ⟨"Suite.runs", .passed⟩] := by decide +kernel
  obtain ⟨model, generates, outcomes⟩ := any_toOption_iff.mp evaluated
  obtain ⟨ofClass, ofTest⟩ := of_decide_eq_true outcomes
  have keyed : tested.RunsKeyedByName := by decide +kernel
  obtain ⟨said, named⟩ := (ModuleGraph.outcomes_of_annotations generates).2 _ _ ofTest
  exact ⟨model, _, generates, ofClass, ofTest, rfl, said, named keyed⟩

end Sample

end Traceability

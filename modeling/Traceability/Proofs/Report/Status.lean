import Traceability.Program
import Traceability.Proofs.Loading.Walk
import Traceability.Proofs.Model.Outcomes

/-!
Contract: the exit code of a request for the status.

It tells of tests that failed or are missing, in every form of the report and
with or without a filter. But a model without requirements ends the request
before any test is looked at.

Owns: the exit code of each request for the status that has a model.
Does not own: which models there are, and what is printed.
-/

namespace Traceability

/-- Some outcome of a test is that it failed, or is missing. -/
def Model.Unverified (model : Model) : Prop :=
  ∃ (key : Identifier) (outcomes : List TestOutcome) (outcome : TestOutcome),
    model.testOutcomes[key]? = some outcomes ∧ outcome ∈ outcomes ∧
      (outcome.status = .failed ∨ outcome.status = .missing)

section Counting

variable {model : Model}

theorem Model.testCount_pos_iff {status : TestStatus} :
    0 < model.testCount status ↔
      ∃ (key : Identifier) (outcomes : List TestOutcome) (outcome : TestOutcome),
        model.testOutcomes[key]? = some outcomes ∧ outcome ∈ outcomes ∧ outcome.status = status := by
  simp only [testCount, testStatuses, List.count_pos_iff, List.mem_map, List.mem_flatten,
    mem_values_iff]
  grind

theorem Model.hasUnverified_iff : model.hasUnverified ↔ model.Unverified := by
  have either : model.hasUnverified ↔
      0 < model.testCount .failed ∨ 0 < model.testCount .missing := by
    unfold hasUnverified
    rw [decide_eq_true_iff]
    omega
  rw [either, testCount_pos_iff, testCount_pos_iff, Unverified]
  grind

theorem Report.exitCode_status {format : OutputFormat} {quiet : Bool} {root : String} :
    (Report.status format quiet root model).exitCode =
      if !model.requirements.isEmpty && model.hasUnverified then 2 else 0 := by
  unfold status
  cases model.requirements.isEmpty <;> cases model.hasUnverified <;> rfl

end Counting

namespace ModuleGraph

variable [PatternEngine] {graph : ModuleGraph} {model : Model} {filter : Bool}

/-- Some annotation has an outcome of that kind, whatever is filtered out. -/
theorem unverified_iff_of_generate (generates : graph.generate filter = .ok model) :
    model.Unverified ↔ ∃ annotated ∈ graph.testAnnotations,
      (graph.outcomeAt annotated.1 annotated.2).status = .failed ∨
        (graph.outcomeAt annotated.1 annotated.2).status = .missing := by
  unfold Model.Unverified
  constructor
  · intro ⟨key, outcomes, outcome, found, member, status⟩
    rw [getElem?_testOutcomes generates] at found
    split at found
    next => contradiction
    next =>
      cases found
      obtain ⟨annotated, under, rfl⟩ := List.mem_map.mp member
      exact ⟨annotated, (List.mem_filter.mp under).1, status⟩
  · intro ⟨annotated, member, status⟩
    have under : annotated ∈ graph.testAnnotationsUnder (outcomeKey annotated) := by
      simp [testAnnotationsUnder, member]
    have found : model.testOutcomes[outcomeKey annotated]? =
        some ((graph.testAnnotationsUnder (outcomeKey annotated)).map fun annotated =>
          graph.outcomeAt annotated.1 annotated.2) := by
      rw [getElem?_testOutcomes generates, if_neg (List.ne_nil_of_mem under)]
    exact ⟨_, _, _, found, List.mem_map_of_mem under, status⟩

end ModuleGraph

namespace Program

variable {tree : FileTree} {base directory : String} {arguments : List String}
  {request : CommandLine.Request} {model other : Model} {noFilter : Bool}

theorem buildModel_eq_ok_iff :
    buildModel tree directory noFilter = .ok model ↔
      ∃ graph, ModuleGraph.load tree (.ofDirectory tree directory) directory = .ok graph ∧
        graph.generate ((Settings.ofDirectory tree directory).filter && !noFilter) = .ok model := by
  simp only [buildModel, bind_eq_ok_iff, mapError_eq_ok_iff]

/-- With a filter and without, the tests are the same. -/
theorem unverified_iff_of_buildModel (builds : buildModel tree directory noFilter = .ok model)
    (buildsOther : buildModel tree directory (!noFilter) = .ok other) :
    model.Unverified ↔ other.Unverified := by
  obtain ⟨graph, loads, generates⟩ := buildModel_eq_ok_iff.mp builds
  obtain ⟨otherGraph, loadsOther, generatesOther⟩ := buildModel_eq_ok_iff.mp buildsOther
  obtain rfl : graph = otherGraph := Except.ok.inj (loads.symm.trans loadsOther)
  rw [ModuleGraph.unverified_iff_of_generate generates,
    ModuleGraph.unverified_iff_of_generate generatesOther]

theorem run_of_status (asks : CommandLine.read arguments = .ok request)
    (isStatus : request.command = .status)
    (builds : buildModel tree (joinPath base request.root) request.noFilter = .ok model) :
    run tree base arguments = .status request.format request.quiet request.root model := by
  simp only [run, asks, report, builds, isStatus]

/-- A request for the status ends with the code 2 if the model has requirements
and some test failed or is missing, and with 0 otherwise. -/
theorem exitCode_of_status (asks : CommandLine.read arguments = .ok request)
    (isStatus : request.command = .status)
    (builds : buildModel tree (joinPath base request.root) request.noFilter = .ok model) :
    ((run tree base arguments).exitCode = 2 ↔ model.requirements ≠ ∅ ∧ model.Unverified) ∧
      ((run tree base arguments).exitCode = 0 ↔ ¬(model.requirements ≠ ∅ ∧ model.Unverified)) := by
  have counted : (!model.requirements.isEmpty && model.hasUnverified) = true ↔
      model.requirements ≠ ∅ ∧ model.Unverified := by
    rw [Bool.and_eq_true, Model.hasUnverified_iff, ne_eq, ← Std.ExtTreeMap.isEmpty_iff]
    simp
  rw [run_of_status asks isStatus builds, Report.exitCode_status, ← counted]
  split
  next unverified => simp [unverified]
  next verified => simp [verified]

/-! ### A module alone -/

/-- The model of a directory whose module imports nothing, for which there is
nothing to search. -/
def loneModel? (tree : FileTree) (directory : String) (noFilter : Bool) : Option Model := do
  let settings := Settings.ofDirectory tree directory
  let location ← (tree.resolve directory).toOption
  let document ← (tree.readRequirements settings location).toOption
  let module ← (tree.readModule settings location document).toOption
  if document.importPaths = [] then
    (((ModuleGraph.empty document.urn).insert module []).generate
      (settings.filter && !noFilter)).toOption
  else none

theorem buildModel_of_lone (alone : loneModel? tree directory noFilter = some model) :
    buildModel tree directory noFilter = .ok model := by
  simp only [loneModel?, bind, Option.bind_eq_some_iff, toOption_eq_some_iff] at alone
  obtain ⟨location, found, document, read, module, readModule, generates⟩ := alone
  split at generates
  next noImports =>
    let nothing : Std.ExtTreeMap Location String := ∅
    have unknown : nothing[location]? = none := by simp [nothing]
    have free : ¬KnownUrn nothing document.urn := by simp [KnownUrn, nothing]
    have walked : Walk tree (.ofDirectory tree directory) nothing [directory] [document.urn]
        ⟨nothing.insert location document.urn, [(module, [])]⟩ :=
      .fresh found unknown read free readModule (by rw [noImports]; exact .done) .done
    have loads : ModuleGraph.load tree (.ofDirectory tree directory) directory =
        .ok ((ModuleGraph.empty document.urn).insert module []) :=
      ModuleGraph.load_eq_ok_iff.mpr ⟨_, _, visited_eq_ok_iff_walk.mpr walked, rfl⟩
    exact buildModel_eq_ok_iff.mpr ⟨_, loads, toOption_eq_some_iff.mp generates⟩
  next => simp at generates

end Program

namespace Program.Sample

/-- A module with a test that failed, and with requirements as they are given. -/
def failing (requirements : String) : FileTree :=
  FileTree.empty
    |>.add ["app", "requirements.yml"] (.text ("metadata:\n  urn: app\n" ++ requirements))
    |>.add ["app", "annotations.yml"] (.text
      ("requirement_annotations:\n  tests:\n    check:\n" ++
        "    - elementKind: METHOD\n      fullyQualifiedName: a.B.runs\n"))
    |>.add ["app", "test_results.yml"] (.text
      "tests:\n- fully_qualified_name: a.B.runs\n  status: failed\n")

def oneRequirement : String := "requirements:\n- id: first\n  title: First\n"

def request : CommandLine.Request := ⟨.status, ".", false, .table, false⟩

theorem asks_request : CommandLine.read ["status"] = .ok request :=
  toOption_eq_some_iff.mp (by decide +kernel)

theorem joinPath_request : joinPath "/app" request.root = "/app/." := by decide +kernel

theorem failed_test_told :
    ∃ model, buildModel (failing oneRequirement) "/app/." false = .ok model ∧
      model.requirements ≠ ∅ ∧ model.Unverified ∧
      (run (failing oneRequirement) "/app" ["status"]).exitCode = 2 := by
  have evaluated : (loneModel? (failing oneRequirement) "/app/." false).any fun model =>
      !model.requirements.isEmpty && model.hasUnverified := by decide +kernel
  obtain ⟨model, alone, checked⟩ := (Option.any_eq_true _ _).mp evaluated
  obtain ⟨someThere, unverified⟩ := Bool.and_eq_true_iff.mp checked
  have requirements : model.requirements ≠ ∅ := by
    rw [ne_eq, ← Std.ExtTreeMap.isEmpty_iff]
    simpa using someThere
  have tests := Model.hasUnverified_iff.mp unverified
  have builds := buildModel_of_lone alone
  have exits := exitCode_of_status asks_request rfl (joinPath_request ▸ builds)
  exact ⟨model, builds, requirements, tests, exits.1.mpr ⟨requirements, tests⟩⟩

/-- Without requirements, a test that failed is not told of. -/
theorem failed_test_untold :
    ∃ model, buildModel (failing "") "/app/." false = .ok model ∧ model.Unverified ∧
      (run (failing "") "/app" ["status"]).exitCode = 0 := by
  have evaluated : (loneModel? (failing "") "/app/." false).any fun model =>
      model.requirements.isEmpty && model.hasUnverified := by decide +kernel
  obtain ⟨model, alone, checked⟩ := (Option.any_eq_true _ _).mp evaluated
  obtain ⟨nothing, unverified⟩ := Bool.and_eq_true_iff.mp checked
  have builds := buildModel_of_lone alone
  refine ⟨model, builds, Model.hasUnverified_iff.mp unverified, ?_⟩
  rw [run_of_status asks_request rfl (joinPath_request ▸ builds), Report.exitCode_status, nothing]
  rfl

end Program.Sample

end Traceability

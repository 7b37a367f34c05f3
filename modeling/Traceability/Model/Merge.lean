import Traceability.Model.Basic

/-!
Contract: merging the modules of a graph into one model.

Modules are taken in the order of their urns, first for their requirements,
then for their cases, then for their results. The requirements of a
microservice count only if it is the root. A case keeps the references to
requirements that are in the model and whose urn is visible from the root; a
result keeps those to cases in the model whose urn is visible or is that of
its own module. What keeps no reference is left out. No two entities of a kind
may share an identifier.

Owns: what the model holds before it is filtered, and why there is none.
Does not own: filter rules.
-/

namespace Traceability

/-- Why a module graph has no model. -/
inductive GenerationError where
  | unknownRoot (root : String)
  | unknownImport (module imported : String)
  | cyclicImports (modules : List String)
  | duplicateRequirement (id : Identifier)
  | duplicateCase (id : Identifier)
  | duplicateResult (id : Identifier)
deriving DecidableEq, Repr

def GenerationError.message : GenerationError → String
  | .unknownRoot root => s!"root module '{root}' is not part of the dataset"
  | .unknownImport module imported => s!"module '{module}' imports unknown module '{imported}'"
  | .cyclicImports modules => "import cycle between modules: " ++ ", ".intercalate modules
  | .duplicateRequirement id => s!"duplicate requirement {id.display}"
  | .duplicateCase id => s!"duplicate SVC {id.display}"
  | .duplicateResult id => s!"duplicate MVR {id.display}"

namespace Model

/-- Adds a requirement. -/
def insertRequirement (model : Model) (requirement : Requirement) : Model :=
  { model with
    requirements := model.requirements.insert requirement.id requirement
    requirementsOfUrn := model.requirementsOfUrn.add requirement.id.urn requirement.id }

/-- Adds a case under the requirements that it still refers to. -/
def insertCase (model : Model) (verificationCase : VerificationCase) : Model :=
  { model with
    cases := model.cases.insert verificationCase.id verificationCase
    casesOfUrn := model.casesOfUrn.add verificationCase.id.urn verificationCase.id
    casesOfRequirement := verificationCase.requirements.toList.foldl
      (fun index reference => index.add reference verificationCase.id)
      model.casesOfRequirement }

/-- Adds a result under the cases that it still refers to. -/
def insertResult (model : Model) (result : ManualResult) : Model :=
  { model with
    results := model.results.insert result.id result
    resultsOfUrn := model.resultsOfUrn.add result.id.urn result.id
    resultsOfCase := result.cases.toList.foldl
      (fun index reference => index.add reference result.id) model.resultsOfCase }

/-- Adds a requirement unless its identifier is taken. -/
def mergeRequirement (model : Model) (requirement : Requirement) :
    Except GenerationError Model :=
  if model.requirements.contains requirement.id then
    .error (.duplicateRequirement requirement.id)
  else .ok (model.insertRequirement requirement)

/-- Adds what is left of a case, unless its identifier is taken. -/
def mergeCase (visible : UrnSet) (model : Model) (verificationCase : VerificationCase) :
    Except GenerationError Model :=
  if model.cases.contains verificationCase.id then .error (.duplicateCase verificationCase.id)
  else
    match verificationCase.retain? fun reference =>
        visible.contains reference.urn && model.requirements.contains reference with
    | none => .ok model
    | some kept => .ok (model.insertCase kept)

/-- Adds what is left of a result of the module `urn`, unless its identifier is
taken. -/
def mergeResult (visible : UrnSet) (urn : String) (model : Model) (result : ManualResult) :
    Except GenerationError Model :=
  if model.results.contains result.id then .error (.duplicateResult result.id)
  else
    match result.retain? fun reference =>
        (reference.urn = urn || visible.contains reference.urn) &&
          model.cases.contains reference with
    | none => .ok model
    | some kept => .ok (model.insertResult kept)

end Model

/-- Appends to the list under a key, which need not be there. -/
def appendUnder {α : Type} (lists : IdentifierMap (List α)) (id : Identifier) (more : List α) :
    IdentifierMap (List α) :=
  lists.alter id fun old => some (old.getD [] ++ more)

variable [PatternEngine]

namespace Module

/-- The outcomes of the test annotations of the module under `urn`, each under
the urn of its case and the name of the annotation. -/
def outcomes (urn : String) (module : Module) : List (Identifier × TestOutcome) :=
  match module.annotations with
  | none => []
  | some document =>
      document.tests.toList.flatMap fun (id, annotations) =>
        annotations.map fun element =>
          (⟨id.urn, element.name⟩, element.outcome urn module.testRun)

/-- The annotations of implementations of a module. -/
def implementationLists (module : Module) : List (Identifier × List Annotation) :=
  match module.annotations with
  | none => []
  | some document => document.implementations.toList

/-- The annotations of tests of a module. -/
def testLists (module : Module) : List (Identifier × List Annotation) :=
  match module.annotations with
  | none => []
  | some document => document.tests.toList

end Module

namespace ModuleGraph

/-- The modules whose requirements count, with their urns: all but the
microservices that are not the root. -/
def contributing (graph : ModuleGraph) : List (String × Module) :=
  graph.modules.toList.filter fun (urn, module) => !module.isMicroservice || urn = graph.root

/-- The root, and the modules it reaches that are no microservices. -/
def visible (graph : ModuleGraph) (closure : UrnMap UrnSet) : UrnSet :=
  ((accessibleFrom closure graph.root).filter fun urn =>
    !graph.isMicroservice urn).insert graph.root

/-- The closure of the imports, if the root and all imports are there and no
module reaches itself. -/
def checkImportsBy (algorithms : DigraphAlgorithms) (graph : ModuleGraph) :
    Except GenerationError (UrnMap UrnSet) :=
  if !graph.modules.contains graph.root then .error (.unknownRoot graph.root)
  else
    match graph.unknownImport? with
    | some (urn, imported) => .error (.unknownImport urn imported)
    | none =>
        match graph.digraph.cyclesAmong (algorithms.components graph.digraph) with
        | modules :: _ => .error (.cyclicImports modules)
        | [] =>
            match algorithms.topologicalOrder graph.digraph with
            | .error urn => .error (.cyclicImports [urn])
            | .ok order => .ok (graph.digraph.closureAlong order)

def checkImports : ModuleGraph → Except GenerationError (UrnMap UrnSet) :=
  checkImportsBy .byReach

/-- The model with the requirements of all contributing modules, each of which
has its urn in the index. -/
def mergeRequirements (graph : ModuleGraph) (closure : UrnMap UrnSet) :
    Except GenerationError Model :=
  let urns : Index String :=
    graph.contributing.foldl (fun index (urn, _) => index.addKey urn) ∅
  (graph.contributing.flatMap fun (_, module) => module.requirements.values).foldlM
    Model.mergeRequirement
    { Model.empty graph.root graph.order closure with requirementsOfUrn := urns }

/-- Adds the cases of all modules. -/
def mergeCases (graph : ModuleGraph) (visible : UrnSet) (model : Model) :
    Except GenerationError Model :=
  (graph.moduleList.flatMap Module.cases).foldlM (Model.mergeCase visible) model

/-- Adds the results of all modules. -/
def mergeResults (graph : ModuleGraph) (visible : UrnSet) (model : Model) :
    Except GenerationError Model :=
  graph.modules.toList.foldlM
    (fun model (urn, module) => module.resultList.foldlM (Model.mergeResult visible urn) model)
    model

/-- Adds the annotations of all modules, and the outcomes of their tests. -/
def mergeAnnotations (graph : ModuleGraph) (model : Model) : Model :=
  { model with
    implementations := (graph.moduleList.flatMap Module.implementationLists).foldl
      (fun lists entry => appendUnder lists entry.1 entry.2) model.implementations
    tests := (graph.moduleList.flatMap Module.testLists).foldl
      (fun lists entry => appendUnder lists entry.1 entry.2) model.tests
    testOutcomes := (graph.modules.toList.flatMap fun (urn, module) => module.outcomes urn).foldl
      (fun lists entry => appendUnder lists entry.1 [entry.2]) model.testOutcomes }

/-- The model of everything that the modules of the graph define, once their
imports are accepted. -/
def build (graph : ModuleGraph) (closure : UrnMap UrnSet) : Except GenerationError Model := do
  let visible := graph.visible closure
  let model ← graph.mergeRequirements closure
  let model ← graph.mergeCases visible model
  let model ← graph.mergeResults visible model
  return graph.mergeAnnotations model

def mergeBy (algorithms : DigraphAlgorithms) (graph : ModuleGraph) :
    Except GenerationError Model := do
  let closure ← graph.checkImportsBy algorithms
  graph.build closure

def merge : ModuleGraph → Except GenerationError Model := mergeBy .byReach

end ModuleGraph

end Traceability

import Traceability.Filter
import Traceability.Record.Automation
import Traceability.Record.Requirement
import Traceability.Record.Verification

/-!
Contract: modules, and the graph in which they import each other.

A module holds the documents read for it. Only requirements are always there;
cases, results, annotations and a test run are there if the module has such a
document. The graph keeps the modules, the order in which they were added, and
for each the modules it imports as it lists them.

Owns: documents, the graph, and adding a module.
Does not own: whether the graph makes sense.
-/

namespace Traceability

/-- Kinds of modules. -/
inductive Variant where
  | system
  /-- Its requirements are seen only where it is the root itself. -/
  | microservice
  | external
deriving DecidableEq, Repr

instance : Spelled Variant where
  values := [.system, .microservice, .external]
  spelling
    | .system => "system"
    | .microservice => "microservice"
    | .external => "external"

/-- Annotations under the requirement or the case they belong to. -/
structure AnnotationDocument where
  implementations : IdentifierMap (List Annotation)
  tests : IdentifierMap (List Annotation)
deriving DecidableEq

variable [PatternEngine]

/-- Verification cases, and the rules that narrow those of imported modules. -/
structure CaseDocument where
  cases : IdentifierMap VerificationCase
  filters : UrnMap FilterRule
deriving DecidableEq

structure Module where
  urn : String
  variant : Variant
  title : String
  requirements : IdentifierMap Requirement
  filters : UrnMap FilterRule
  caseDocument : Option CaseDocument
  results : Option (IdentifierMap ManualResult)
  annotations : Option AnnotationDocument
  testRun : Option TestRun
deriving DecidableEq

namespace Module

def isMicroservice (module : Module) : Bool := module.variant = .microservice

/-- The cases of the module in order, none without a document. -/
def cases (module : Module) : List VerificationCase :=
  match module.caseDocument with
  | none => []
  | some document => document.cases.values

/-- The rules for the cases of imported modules. -/
def caseFilters (module : Module) : UrnMap FilterRule :=
  match module.caseDocument with
  | none => ∅
  | some document => document.filters

/-- The results of the module in order. -/
def resultList (module : Module) : List ManualResult :=
  match module.results with
  | none => []
  | some results => results.values

end Module

structure ModuleGraph where
  root : String
  order : List String
  modules : UrnMap Module
  importLists : UrnMap (List String)
deriving DecidableEq

namespace ModuleGraph

def empty (root : String) : ModuleGraph := ⟨root, [], ∅, ∅⟩

/-- Adds a module with the urns it imports. A module of the same urn is
replaced and keeps its place. -/
def insert (graph : ModuleGraph) (module : Module) (imports : List String) : ModuleGraph :=
  { graph with
    order := if graph.modules.contains module.urn then graph.order
      else graph.order ++ [module.urn]
    modules := graph.modules.insert module.urn module
    importLists := graph.importLists.insert module.urn imports }

/-- Appends imports to the list of a module, which need not be there. -/
def addImports (graph : ModuleGraph) (urn : String) (imports : List String) : ModuleGraph :=
  { graph with
    importLists := graph.importLists.insert urn ((graph.importLists[urn]?).getD [] ++ imports) }

/-- The urns that a module imports, as it lists them. -/
def imports (graph : ModuleGraph) (urn : String) : List String :=
  (graph.importLists[urn]?).getD []

def isMicroservice (graph : ModuleGraph) (urn : String) : Bool :=
  (graph.modules[urn]?).any Module.isMicroservice

/-- The modules in the order of their urns. -/
def moduleList (graph : ModuleGraph) : List Module := graph.modules.values

end ModuleGraph

end Traceability

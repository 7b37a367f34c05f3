import Traceability.Digraph.Algorithms
import Traceability.Module

/-!
Contract: what follows from the import lists of a module graph.

A module reaches those it imports, those they import, and so on. The imports
are the edges of a directed graph, which has cycles if a module reaches itself.
Without cycles the imports of a module unfold into a finite tree, in which a
module occurs once for every chain that leads to it.

Owns: imports without a module, the directed graph, and the unfolding.
Does not own: what modules define.
-/

namespace Traceability

variable [PatternEngine]

namespace ModuleGraph

/-- The first import, in the order of the importing urns, that has no module on
one of its sides. -/
def unknownImport? (graph : ModuleGraph) : Option (String × String) :=
  graph.importLists.toList.findSome? fun (urn, imports) =>
    (imports.find? fun imported =>
      !(graph.modules.contains imported && graph.modules.contains urn)).map fun imported =>
        (urn, imported)

/-- The modules, in order, with an edge for every import. -/
def digraph (graph : ModuleGraph) : Digraph :=
  graph.importLists.toList.foldl (fun digraph entry => digraph.addEdges entry.1 entry.2)
    (graph.modules.keys.foldl Digraph.addNode .empty)

/-- For every module, the modules it reaches by one import or more. -/
def accessible (graph : ModuleGraph) : UrnMap UrnSet := graph.digraph.reach

end ModuleGraph

/-- A module with the trees of the modules it imports. -/
inductive ImportTree where
  | node (urn : String) (imports : List ImportTree)

namespace ImportTree

def urn : ImportTree → String
  | .node urn _ => urn

end ImportTree

namespace ModuleGraph

/-- The imports of a module that are followed: those of microservices are not. -/
def followedImports (graph : ModuleGraph) (urn : String) : List String :=
  (graph.imports urn).filter fun imported => !graph.isMicroservice imported

/-- The tree of the imports that are followed from a module, down to `depth`
imports. -/
def unfold (graph : ModuleGraph) : Nat → String → ImportTree
  | 0, urn => .node urn []
  | depth + 1, urn => .node urn ((graph.followedImports urn).map (unfold graph depth))

/-- The tree of the imports that are followed from the root. A chain without a
cycle has no more imports than there are modules, so that nothing is cut. -/
def importTree (graph : ModuleGraph) : ImportTree :=
  graph.unfold graph.modules.size graph.root

end ModuleGraph

end Traceability

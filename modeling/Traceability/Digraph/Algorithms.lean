import Traceability.Digraph.Basic

/-!
Contract: what is asked of a library of graph algorithms, and one such library.

The components of a graph may come in any order, and so may the nodes of one
component. A topological order has every node before its neighbors, and is
refused for a node on a cycle. Both are found here from the sets of what each
node leads to. These are computed by admitting one node after the other as a
stop on the way, so that in the end every path is covered.

Owns: the two algorithms as a parameter, and what it is set to.
Does not own: what is made of components and orders.
-/

namespace Traceability

structure DigraphAlgorithms where
  /-- The strongly connected components. -/
  components : Digraph → List (List String)
  /-- The nodes in topological order, or one on a cycle. -/
  topologicalOrder : Digraph → Except String (List String)

namespace Digraph

/-- Extends every set that holds `pivot` by what `pivot` leads to. -/
def addPivot (closure : UrnMap UrnSet) (pivot : String) : UrnMap UrnSet :=
  let beyond := accessibleFrom closure pivot
  closure.map fun _ reached => if reached.contains pivot then reached ∪ beyond else reached

/-- The neighbors of every node. -/
def adjacency (digraph : Digraph) : UrnMap UrnSet :=
  .ofList (digraph.nodes.map fun urn => (urn, Std.ExtTreeSet.ofList (digraph.neighbors urn)))

/-- For every node, the nodes that it leads to by one edge or more. -/
def reach (digraph : Digraph) : UrnMap UrnSet :=
  digraph.nodes.foldl addPivot digraph.adjacency

/-- How many nodes a node leads to, itself counted. -/
def rank (closure : UrnMap UrnSet) (urn : String) : Nat :=
  ((accessibleFrom closure urn).insert urn).size

/-- The nodes by their ranks, so that none comes after one that leads to it
unless the two are on a cycle. -/
def ranked (digraph : Digraph) (closure : UrnMap UrnSet) : List String :=
  sortBy (fun first second => rank closure first ≤ rank closure second) digraph.nodes

/-- Whether two nodes are the same or lead to each other. -/
def areConnected (closure : UrnMap UrnSet) (first second : String) : Bool :=
  first = second ||
    (accessibleFrom closure first).contains second && (accessibleFrom closure second).contains first

end Digraph

/-- Components and orders from what every node leads to. -/
def DigraphAlgorithms.byReach : DigraphAlgorithms where
  components digraph :=
    let closure := digraph.reach
    let nodes := digraph.ranked closure
    (nodes.map fun urn => nodes.filter (Digraph.areConnected closure urn)).eraseDups
  topologicalOrder digraph :=
    let closure := digraph.reach
    match digraph.nodes.find? fun urn => (accessibleFrom closure urn).contains urn with
    | some urn => .error urn
    | none => .ok (digraph.ranked closure).reverse

end Traceability

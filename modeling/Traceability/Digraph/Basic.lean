import Traceability.Identifier

/-!
Contract: directed graphs over urns, and two loops over them.

Nodes and edges keep the order in which they were first added, and so do the
neighbors of a node. The first loop goes through the strongly connected
components, in whatever order they are given, and sorts out those that are
cycles. The second one goes backwards through an order of the nodes and gathers,
for each node, its neighbors and what was gathered for them.

Owns: the graph, the cycles among components, and the sets along an order.
Does not own: how components and orders are found.
-/

namespace Traceability

/-- A finite set of urns, in order. -/
abbrev UrnSet := Std.ExtTreeSet String

/-- The urns under a key, none if the key is not there. -/
def accessibleFrom (closure : UrnMap UrnSet) (urn : String) : UrnSet :=
  (closure[urn]?).getD ∅

section Lists

variable {α : Type}

/-- Appends an item to a list that does not have it. -/
def appendNew [DecidableEq α] (items : List α) (item : α) : List α :=
  if item ∈ items then items else items ++ [item]

theorem mem_appendNew [DecidableEq α] {items : List α} {item other : α} :
    other ∈ appendNew items item ↔ other ∈ items ∨ other = item := by
  unfold appendNew
  split <;> grind

theorem nodup_appendNew [DecidableEq α] {items : List α} (nodup : items.Nodup) (item : α) :
    (appendNew items item).Nodup := by
  unfold appendNew
  split <;> grind

/-- Puts an item before the first one that it precedes. -/
def insertInOrder (precedes : α → α → Bool) (item : α) : List α → List α
  | [] => [item]
  | head :: tail =>
      if precedes item head then item :: head :: tail
      else head :: insertInOrder precedes item tail

def sortBy (precedes : α → α → Bool) (items : List α) : List α :=
  items.foldr (insertInOrder precedes) []

end Lists

/-- Nodes and edges, each of them once. -/
structure Digraph where
  nodes : List String
  edges : List (String × String)
  nodup_nodes : nodes.Nodup
  nodup_edges : edges.Nodup
  edges_between : ∀ edge ∈ edges, edge.1 ∈ nodes ∧ edge.2 ∈ nodes

namespace Digraph

def empty : Digraph where
  nodes := []
  edges := []
  nodup_nodes := List.nodup_nil
  nodup_edges := List.nodup_nil
  edges_between := by simp

def addNode (digraph : Digraph) (urn : String) : Digraph where
  nodes := appendNew digraph.nodes urn
  edges := digraph.edges
  nodup_nodes := nodup_appendNew digraph.nodup_nodes urn
  nodup_edges := digraph.nodup_edges
  edges_between := by
    intro edge member
    obtain ⟨sourceMem, targetMem⟩ := digraph.edges_between edge member
    exact ⟨mem_appendNew.mpr (Or.inl sourceMem), mem_appendNew.mpr (Or.inl targetMem)⟩

/-- Adds an edge, and its ends if they are no nodes yet. -/
def addEdge (digraph : Digraph) (source target : String) : Digraph where
  nodes := appendNew (appendNew digraph.nodes source) target
  edges := appendNew digraph.edges (source, target)
  nodup_nodes := nodup_appendNew (nodup_appendNew digraph.nodup_nodes source) target
  nodup_edges := nodup_appendNew digraph.nodup_edges (source, target)
  edges_between := by
    intro edge member
    simp only [mem_appendNew]
    rcases mem_appendNew.mp member with earlier | rfl
    · obtain ⟨sourceMem, targetMem⟩ := digraph.edges_between edge earlier
      exact ⟨Or.inl (Or.inl sourceMem), Or.inl (Or.inl targetMem)⟩
    · exact ⟨Or.inl (Or.inr rfl), Or.inr rfl⟩

def addEdges (digraph : Digraph) (source : String) (targets : List String) : Digraph :=
  targets.foldl (fun digraph target => digraph.addEdge source target) digraph

/-- The targets of the edges from a node. -/
def neighbors (digraph : Digraph) (urn : String) : List String :=
  (digraph.edges.filter fun edge => edge.1 = urn).map Prod.snd

def containsEdge (digraph : Digraph) (source target : String) : Bool :=
  digraph.edges.contains (source, target)

/-! ### Cycles -/

/-- Whether a component is a cycle. A node on its own is one if it is its own
neighbor. -/
def isCycle (digraph : Digraph) : List String → Bool
  | [urn] => digraph.containsEdge urn urn
  | _ => true

/-- Whether one list of urns comes no later than another, as decided by the first
place where they differ. -/
def comesNoLater : List String → List String → Bool
  | [], _ => true
  | _ :: _, [] => false
  | first :: others, head :: tail =>
      if first = head then comesNoLater others tail else first ≤ head

/-- The components that are cycles, each with its nodes in order, and all of
them in the order of these lists. -/
def cyclesAmong (digraph : Digraph) (components : List (List String)) : List (List String) :=
  sortBy comesNoLater
    ((components.filter digraph.isCycle).map (sortBy fun first second => first ≤ second))

/-! ### Closure -/

/-- Adds a neighbor, and what has been gathered for it, if anything. -/
def addNeighbor (closure : UrnMap UrnSet) (reached : UrnSet) (neighbor : String) : UrnSet :=
  match closure[neighbor]? with
  | none => reached.insert neighbor
  | some beyond => reached.insert neighbor ∪ beyond

/-- The neighbors of a node, and what has been gathered for them. -/
def gather (digraph : Digraph) (closure : UrnMap UrnSet) (urn : String) : UrnSet :=
  (digraph.neighbors urn).foldl (addNeighbor closure) ∅

/-- What is gathered for every node of an order, from its end to its start. -/
def closureAlong (digraph : Digraph) (order : List String) : UrnMap UrnSet :=
  order.reverse.foldl (fun closure urn => closure.insert urn (digraph.gather closure urn)) ∅

end Digraph

end Traceability

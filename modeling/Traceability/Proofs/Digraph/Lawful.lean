import Traceability.Digraph.Algorithms

/-!
Contract: what is relied on of a library of graph algorithms.

Components may come in any order, and so may the nodes of one component. What
counts is that every node is in some component, and that a component has
exactly the nodes that lead to each other. An order of the nodes may be any one
in which they come before their neighbors; there is none only if a node leads to
itself.

Owns: edges, what leads where, and the laws of the algorithms.
Does not own: that some algorithms satisfy them.
-/

namespace Traceability

namespace Digraph

def Edge (digraph : Digraph) (source target : String) : Prop := (source, target) ∈ digraph.edges

/-- One node leads to the other by one edge or more. -/
def Leads (digraph : Digraph) : String → String → Prop := Relation.TransGen digraph.Edge

/-- The two are the same, or lead to each other. -/
def Connected (digraph : Digraph) (first second : String) : Prop :=
  first = second ∨ (digraph.Leads first second ∧ digraph.Leads second first)

/-- Some nodes that are connected, and all that are connected to them. -/
structure IsComponent (digraph : Digraph) (component : List String) : Prop where
  ne_nil : component ≠ []
  nodup : component.Nodup
  mem_iff : ∀ first ∈ component, ∀ second,
    second ∈ component ↔ digraph.Connected first second

/-- All nodes, each of them before its neighbors. -/
structure IsTopologicalOrder (digraph : Digraph) (order : List String) : Prop where
  perm : order.Perm digraph.nodes
  neighbor_later : ∀ earlier urn later, order = earlier ++ urn :: later →
    ∀ neighbor, digraph.Edge urn neighbor → neighbor ∈ later

end Digraph

structure DigraphAlgorithms.Lawful (algorithms : DigraphAlgorithms) : Prop where
  isComponent : ∀ digraph, ∀ component ∈ algorithms.components digraph,
    digraph.IsComponent component
  covers : ∀ digraph, ∀ urn ∈ digraph.nodes, ∃ component ∈ algorithms.components digraph,
    urn ∈ component
  isTopologicalOrder : ∀ digraph order, algorithms.topologicalOrder digraph = .ok order →
    digraph.IsTopologicalOrder order
  leads_self : ∀ digraph urn, algorithms.topologicalOrder digraph = .error urn →
    digraph.Leads urn urn

namespace Digraph

variable {digraph : Digraph} {source target urn neighbor first second third : String}

theorem mem_neighbors : neighbor ∈ digraph.neighbors urn ↔ digraph.Edge urn neighbor := by
  simp [neighbors, Edge, eq_comm]

theorem containsEdge_iff : digraph.containsEdge source target ↔ digraph.Edge source target :=
  List.contains_iff_mem

/-- Whatever a node leads to is a neighbor, or a neighbor leads to it. -/
theorem leads_iff_neighbor :
    digraph.Leads source target ↔
      ∃ neighbor, digraph.Edge source neighbor ∧
        (target = neighbor ∨ digraph.Leads neighbor target) := by
  constructor
  · intro leads
    induction leads with
    | single edge => exact ⟨_, edge, Or.inl rfl⟩
    | tail _ edge inductionHypothesis =>
        obtain ⟨neighbor, first, rfl | beyond⟩ := inductionHypothesis
        · exact ⟨_, first, Or.inr (.single edge)⟩
        · exact ⟨neighbor, first, Or.inr (.tail beyond edge)⟩
  · rintro ⟨neighbor, edge, rfl | beyond⟩
    · exact .single edge
    · exact Relation.TransGen.trans (.single edge) beyond

theorem mem_nodes_of_leads (leads : digraph.Leads source target) :
    source ∈ digraph.nodes ∧ target ∈ digraph.nodes := by
  induction leads with
  | single edge => exact digraph.edges_between _ edge
  | tail _ edge inductionHypothesis =>
      exact ⟨inductionHypothesis.1, (digraph.edges_between _ edge).2⟩

theorem Connected.symm (connected : digraph.Connected first second) :
    digraph.Connected second first :=
  connected.imp Eq.symm And.symm

theorem Connected.trans (connected : digraph.Connected first second)
    (further : digraph.Connected second third) : digraph.Connected first third := by
  rcases connected with rfl | ⟨toSecond, toFirst⟩
  · exact further
  · rcases further with rfl | ⟨toThird, backToSecond⟩
    · exact Or.inr ⟨toSecond, toFirst⟩
    · exact Or.inr ⟨toSecond.trans toThird, backToSecond.trans toFirst⟩

theorem Connected.mem_nodes (connected : digraph.Connected first second)
    (member : first ∈ digraph.nodes) : second ∈ digraph.nodes := by
  rcases connected with rfl | ⟨toSecond, _⟩
  · exact member
  · exact (mem_nodes_of_leads toSecond).2

end Digraph

end Traceability

import Traceability.Proofs.Collections
import Traceability.Proofs.Digraph.Lawful

/-!
Contract: what is gathered along a topological order is complete.

The order is gone through backwards, so that all neighbors of a node have had
their turn when the node has its own. Were one of them missing, or not complete
yet, then so would be the set of the node. What makes the loop right is that at
every point the nodes behind it have complete sets, and no other node has one.

Owns: the closure along an order, as exact sets.
Does not own: whether there is such an order.
-/

namespace Traceability.Digraph

/-- The given nodes, and no others, have the sets of all nodes they lead to. -/
structure IsClosure (digraph : Digraph) (nodes : List String) (closure : UrnMap UrnSet) :
    Prop where
  mem_iff : ∀ urn, urn ∈ closure ↔ urn ∈ nodes
  complete : ∀ urn ∈ nodes, ∀ target,
    target ∈ accessibleFrom closure urn ↔ digraph.Leads urn target

variable {digraph : Digraph} {closure other : UrnMap UrnSet} {nodes order : List String}
  {source target urn : String}

theorem IsClosure.ext (isClosure : digraph.IsClosure nodes closure)
    (otherClosure : digraph.IsClosure nodes other) : closure = other := by
  apply Std.ExtTreeMap.ext_getElem?
  intro urn
  by_cases member : urn ∈ nodes
  · obtain ⟨reached, found⟩ := mem_iff_exists_getElem?.mp ((isClosure.mem_iff urn).mpr member)
    obtain ⟨others, otherFound⟩ :=
      mem_iff_exists_getElem?.mp ((otherClosure.mem_iff urn).mpr member)
    have same : accessibleFrom closure urn = accessibleFrom other urn := by
      apply Std.ExtTreeSet.ext_mem
      intro target
      rw [isClosure.complete urn member, otherClosure.complete urn member]
    rw [accessibleFrom, accessibleFrom, found, otherFound, Option.getD_some,
      Option.getD_some] at same
    rw [found, otherFound, same]
  · rw [Std.ExtTreeMap.getElem?_eq_none (mt (isClosure.mem_iff urn).mp member),
      Std.ExtTreeMap.getElem?_eq_none (mt (otherClosure.mem_iff urn).mp member)]

/-! ### One node -/

theorem mem_addNeighbor {reached : UrnSet} {neighbor : String} :
    target ∈ addNeighbor closure reached neighbor ↔
      target ∈ reached ∨ target = neighbor ∨ target ∈ accessibleFrom closure neighbor := by
  unfold addNeighbor accessibleFrom
  rw [@eq_comm _ target]
  cases closure[neighbor]? <;> simp [or_assoc, or_left_comm, or_comm]

theorem mem_foldl_addNeighbor {neighbors : List String} {reached : UrnSet} :
    target ∈ neighbors.foldl (addNeighbor closure) reached ↔
      target ∈ reached ∨ ∃ neighbor ∈ neighbors,
        target = neighbor ∨ target ∈ accessibleFrom closure neighbor := by
  induction neighbors generalizing reached with
  | nil => simp
  | cons head tail inductionHypothesis =>
      rw [List.foldl_cons, inductionHypothesis, mem_addNeighbor, or_assoc, List.exists_mem_cons_iff]

theorem mem_gather :
    target ∈ digraph.gather closure urn ↔
      ∃ neighbor, digraph.Edge urn neighbor ∧
        (target = neighbor ∨ target ∈ accessibleFrom closure neighbor) := by
  rw [gather, mem_foldl_addNeighbor]
  simp [mem_neighbors]

theorem accessibleFrom_insert {reached : UrnSet} :
    accessibleFrom (closure.insert urn reached) source =
      if urn = source then reached else accessibleFrom closure source := by
  rw [accessibleFrom, Std.ExtTreeMap.getElem?_insert]
  simp only [Std.LawfulEqOrd.compare_eq_iff_eq]
  split <;> rfl

/-- A node whose neighbors have complete sets gets one itself. -/
theorem IsClosure.insert_gather (isClosure : digraph.IsClosure nodes closure)
    (neighborsMem : ∀ neighbor, digraph.Edge urn neighbor → neighbor ∈ nodes) :
    digraph.IsClosure (urn :: nodes) (closure.insert urn (digraph.gather closure urn)) where
  mem_iff := by
    intro source
    rw [Std.ExtTreeMap.mem_insert, Std.LawfulEqOrd.compare_eq_iff_eq, isClosure.mem_iff,
      List.mem_cons, eq_comm]
  complete := by
    intro source member target
    rw [accessibleFrom_insert]
    split
    case isTrue same =>
      subst same
      rw [mem_gather, leads_iff_neighbor]
      have beyond : ∀ neighbor, digraph.Edge urn neighbor →
          (target ∈ accessibleFrom closure neighbor ↔ digraph.Leads neighbor target) :=
        fun neighbor edge => isClosure.complete neighbor (neighborsMem neighbor edge) target
      grind
    case isFalse different =>
      exact isClosure.complete source ((List.mem_cons.mp member).resolve_left (Ne.symm different))
        target

/-! ### All nodes -/

theorem closureAlong_cons :
    digraph.closureAlong (urn :: order) =
      (digraph.closureAlong order).insert urn
        (digraph.gather (digraph.closureAlong order) urn) := by
  rw [closureAlong, List.reverse_cons, List.foldl_append]
  rfl

/-- At every point of the loop, the nodes behind it have complete sets. -/
theorem IsTopologicalOrder.isClosure_later (topological : digraph.IsTopologicalOrder order)
    {earlier later : List String} (split : order = earlier ++ later) :
    digraph.IsClosure later (digraph.closureAlong later) := by
  induction later generalizing earlier with
  | nil => exact ⟨by simp [closureAlong], by simp⟩
  | cons urn later inductionHypothesis =>
      have nextSplit : order = (earlier ++ [urn]) ++ later := by
        rw [split, List.append_assoc, List.singleton_append]
      have laterClosure : digraph.IsClosure later (digraph.closureAlong later) :=
        inductionHypothesis nextSplit
      rw [closureAlong_cons]
      exact laterClosure.insert_gather (topological.neighbor_later earlier urn later split)

theorem IsTopologicalOrder.isClosure (topological : digraph.IsTopologicalOrder order) :
    digraph.IsClosure digraph.nodes (digraph.closureAlong order) := by
  have ofOrder : digraph.IsClosure order (digraph.closureAlong order) :=
    topological.isClosure_later (List.nil_append order).symm
  constructor
  · intro urn
    rw [ofOrder.mem_iff, topological.perm.mem_iff]
  · intro urn member
    exact ofOrder.complete urn (topological.perm.mem_iff.mpr member)

end Traceability.Digraph

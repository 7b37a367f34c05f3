import Traceability.Proofs.Digraph.Cycles
import Traceability.Proofs.Digraph.Reach

/-!
Contract: the algorithms that go by what every node leads to are lawful.

Being connected is an equivalence, so that the nodes connected to one node are a
component. Where no node leads to itself, a node leads to more nodes than any of
its neighbors does, because it leads to all of theirs and the neighbor does not
lead to itself. Going down by these numbers is thus a topological order.

Owns: the laws for these algorithms.
Does not own: what other algorithms make of a graph.
-/

namespace Traceability

namespace Digraph

variable {digraph : Digraph} {first second urn neighbor : String}

/-! ### Components -/

theorem areConnected_reach_iff :
    areConnected digraph.reach first second ↔ digraph.Connected first second := by
  simp [areConnected, Connected, mem_accessibleFrom_reach]

theorem ranked_perm : (digraph.ranked digraph.reach).Perm digraph.nodes := sortBy_perm

theorem mem_connected_iff (member : urn ∈ digraph.nodes) :
    first ∈ (digraph.ranked digraph.reach).filter (areConnected digraph.reach urn) ↔
      digraph.Connected urn first := by
  rw [List.mem_filter, ranked_perm.mem_iff, areConnected_reach_iff]
  exact ⟨And.right, fun connected => ⟨connected.mem_nodes member, connected⟩⟩

theorem isComponent_connected (member : urn ∈ digraph.nodes) :
    digraph.IsComponent
      ((digraph.ranked digraph.reach).filter (areConnected digraph.reach urn)) where
  ne_nil := List.ne_nil_of_mem ((mem_connected_iff member).mpr (Or.inl rfl))
  nodup := (ranked_perm.nodup_iff.mpr digraph.nodup_nodes).filter _
  mem_iff := by
    intro first firstMem second
    rw [mem_connected_iff member] at firstMem ⊢
    exact ⟨firstMem.symm.trans, firstMem.trans⟩

/-! ### Order -/

/-- A set has fewer urns than one that has them all and another one. -/
theorem size_lt_size {below above : UrnSet} (included : ∀ first ∈ below, first ∈ above)
    (extra : urn ∈ above) (notBelow : urn ∉ below) : below.size < above.size := by
  have same : below.insert urn ∪ above = above := by
    apply Std.ExtTreeSet.ext_mem
    intro first
    simp only [Std.ExtTreeSet.mem_union_iff, Std.ExtTreeSet.mem_insert,
      Std.LawfulEqOrd.compare_eq_iff_eq, or_iff_right_iff_imp]
    rintro (rfl | member)
    · exact extra
    · exact included first member
  calc below.size
      < (below.insert urn).size := by
        rw [Std.ExtTreeSet.size_insert, if_neg (by simpa using notBelow)]
        exact Nat.lt_succ_self _
    _ ≤ (below.insert urn ∪ above).size := Std.ExtTreeSet.size_left_le_size_union
    _ = above.size := by rw [same]

/-- A node on no cycle has a lower rank than those of which it is a neighbor. -/
theorem rank_lt_of_edge (edge : digraph.Edge urn neighbor)
    (acyclic : ¬digraph.Leads neighbor neighbor) :
    rank digraph.reach neighbor < rank digraph.reach urn := by
  apply @size_lt_size urn
  · intro target
    simp only [Std.ExtTreeSet.mem_insert, Std.LawfulEqOrd.compare_eq_iff_eq,
      mem_accessibleFrom_reach]
    rintro (rfl | leads)
    · exact Or.inr (.single edge)
    · exact Or.inr (Relation.TransGen.trans (.single edge) leads)
  · exact Std.ExtTreeSet.mem_insert_self
  · simp only [Std.ExtTreeSet.mem_insert, Std.LawfulEqOrd.compare_eq_iff_eq,
      mem_accessibleFrom_reach]
    rintro (rfl | back)
    · exact acyclic (.single edge)
    · exact acyclic (back.tail edge)

/-- Where no node leads to itself, going down by rank is a topological order. -/
theorem isTopologicalOrder_ranked (acyclic : ∀ urn, ¬digraph.Leads urn urn) :
    digraph.IsTopologicalOrder (digraph.ranked digraph.reach).reverse where
  perm := (List.reverse_perm _).trans ranked_perm
  neighbor_later := by
    intro earlier urn later split neighbor edge
    have descending : (digraph.ranked digraph.reach).reverse.Pairwise fun first second =>
        rank digraph.reach second ≤ rank digraph.reach first := by
      rw [List.pairwise_reverse]
      exact pairwise_sortBy (fun _ _ => Nat.le_total _ _) fun _ _ _ => Nat.le_trans
    have lower := rank_lt_of_edge edge (acyclic neighbor)
    have member : neighbor ∈ earlier ++ urn :: later := by
      rw [← split, List.mem_reverse, ranked_perm.mem_iff]
      exact (digraph.edges_between _ edge).2
    rw [split, List.pairwise_append] at descending
    rcases List.mem_append.mp member with before | rest
    · have higher := descending.2.2 neighbor before urn List.mem_cons_self
      omega
    · rcases List.mem_cons.mp rest with same | behind
      · rw [same] at lower
        omega
      · exact behind

end Digraph

theorem DigraphAlgorithms.lawful_byReach : DigraphAlgorithms.byReach.Lawful where
  isComponent := by
    intro digraph component given
    obtain ⟨urn, member, rfl⟩ := List.mem_map.mp (List.mem_eraseDups.mp given)
    exact Digraph.isComponent_connected (Digraph.ranked_perm.mem_iff.mp member)
  covers := by
    intro digraph urn member
    refine ⟨_, List.mem_eraseDups.mpr (List.mem_map_of_mem ?_),
      (Digraph.mem_connected_iff member).mpr (Or.inl rfl)⟩
    exact Digraph.ranked_perm.mem_iff.mpr member
  isTopologicalOrder := by
    intro digraph order sorted
    simp only [byReach] at sorted
    split at sorted
    case h_1 => cases sorted
    case h_2 noneFound =>
      obtain rfl := Except.ok.inj sorted
      apply Digraph.isTopologicalOrder_ranked
      intro urn leads
      have notSelf := List.find?_eq_none.mp noneFound urn (Digraph.mem_nodes_of_leads leads).1
      simp [Digraph.mem_accessibleFrom_reach, leads] at notSelf
  leads_self := by
    intro digraph urn refused
    simp only [byReach] at refused
    split at refused
    case h_1 found =>
      obtain rfl := Except.error.inj refused
      simpa [Digraph.mem_accessibleFrom_reach] using List.find?_some found
    case h_2 => cases refused

end Traceability

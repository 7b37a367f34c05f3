import Traceability.Proofs.Digraph.Closure

/-!
Contract: admitting all nodes as stops on the way gives what every node leads to.

Once a node has been admitted, the sets contain whatever is led to through it,
and admitting further nodes does not undo this. Edges are between nodes, so that
in the end every stop has been admitted.

Owns: soundness and completeness of the sets, with or without cycles.
Does not own: components and orders made of them.
-/

namespace Traceability.Digraph

variable {digraph : Digraph} {closure : UrnMap UrnSet} {source pivot target : String}

/-! ### One pivot -/

theorem mem_addPivot :
    target ∈ accessibleFrom (addPivot closure pivot) source ↔
      target ∈ accessibleFrom closure source ∨
        (pivot ∈ accessibleFrom closure source ∧ target ∈ accessibleFrom closure pivot) := by
  simp only [accessibleFrom, addPivot, Std.ExtTreeMap.getElem?_map]
  cases closure[source]? with
  | none => simp
  | some reached =>
      by_cases stops : pivot ∈ reached
      · simp [stops, Std.ExtTreeSet.mem_union_iff]
      · simp [stops]

/-- Whatever is reached through one of the pivots is contained. -/
def ClosedUnder (closure : UrnMap UrnSet) (pivots : List String) : Prop :=
  ∀ pivot ∈ pivots, ∀ source target, pivot ∈ accessibleFrom closure source →
    target ∈ accessibleFrom closure pivot → target ∈ accessibleFrom closure source

theorem ClosedUnder.addPivot {pivots : List String} (closed : ClosedUnder closure pivots) :
    ClosedUnder (addPivot closure pivot) (pivot :: pivots) := by
  intro stop member source target reachesStop reachesTarget
  rw [mem_addPivot] at reachesStop reachesTarget ⊢
  rcases List.mem_cons.mp member with rfl | earlier
  · grind
  · have through := closed stop earlier
    grind

theorem ClosedUnder.foldl_addPivot (pivots : List String) {admitted : List String}
    (closed : ClosedUnder closure admitted) :
    ClosedUnder (pivots.foldl Digraph.addPivot closure) (pivots.reverse ++ admitted) := by
  induction pivots generalizing closure admitted with
  | nil => exact closed
  | cons head tail inductionHypothesis =>
      rw [List.foldl_cons, List.reverse_cons, List.append_assoc]
      exact inductionHypothesis closed.addPivot

theorem mem_foldl_addPivot (pivots : List String)
    (member : target ∈ accessibleFrom closure source) :
    target ∈ accessibleFrom (pivots.foldl addPivot closure) source := by
  induction pivots generalizing closure with
  | nil => exact member
  | cons head tail inductionHypothesis =>
      exact inductionHypothesis (mem_addPivot.mpr (Or.inl member))

/-- Pivots add only what is led to. -/
theorem foldl_addPivot_sound (pivots : List String)
    (sound : ∀ source target, target ∈ accessibleFrom closure source →
      digraph.Leads source target) :
    ∀ source target, target ∈ accessibleFrom (pivots.foldl addPivot closure) source →
      digraph.Leads source target := by
  induction pivots generalizing closure with
  | nil => exact sound
  | cons head tail inductionHypothesis =>
      apply inductionHypothesis
      intro source target member
      rcases mem_addPivot.mp member with direct | ⟨first, second⟩
      · exact sound source target direct
      · exact (sound source head first).trans (sound head target second)

theorem mem_closure_foldl_addPivot (pivots : List String) :
    source ∈ pivots.foldl addPivot closure ↔ source ∈ closure := by
  induction pivots generalizing closure with
  | nil => rfl
  | cons head tail inductionHypothesis =>
      rw [List.foldl_cons, inductionHypothesis, addPivot, Std.ExtTreeMap.mem_map]

/-! ### All pivots -/

theorem mem_adjacency_iff : source ∈ digraph.adjacency ↔ source ∈ digraph.nodes := by
  simp [adjacency, Std.ExtTreeMap.mem_ofList]

theorem mem_accessibleFrom_adjacency :
    target ∈ accessibleFrom digraph.adjacency source ↔ digraph.Edge source target := by
  by_cases member : source ∈ digraph.nodes
  · have found : digraph.adjacency[source]? =
        some (Std.ExtTreeSet.ofList (digraph.neighbors source)) := by
      rw [adjacency, getElem?_ofList_eq_some_iff]
      · exact List.mem_map.mpr ⟨source, member, rfl⟩
      · rw [List.map_map]
        exact (List.map_id digraph.nodes).symm ▸ digraph.nodup_nodes
    rw [accessibleFrom, found, Option.getD_some, Std.ExtTreeSet.mem_ofList, List.contains_iff_mem,
      mem_neighbors]
  · have notFound := Std.ExtTreeMap.getElem?_eq_none (mt mem_adjacency_iff.mp member)
    rw [accessibleFrom, notFound, Option.getD_none]
    constructor
    · intro inEmpty
      exact absurd inEmpty Std.ExtTreeSet.not_mem_empty
    · intro edge
      exact absurd (digraph.edges_between _ edge).1 member

theorem mem_accessibleFrom_reach :
    target ∈ accessibleFrom digraph.reach source ↔ digraph.Leads source target := by
  constructor
  · apply foldl_addPivot_sound
    intro importer imported direct
    exact .single (mem_accessibleFrom_adjacency.mp direct)
  · intro leads
    have closed : ClosedUnder digraph.reach (digraph.nodes.reverse ++ []) :=
      ClosedUnder.foldl_addPivot digraph.nodes (by simp [ClosedUnder])
    have direct {source target : String} (edge : digraph.Edge source target) :
        target ∈ accessibleFrom digraph.reach source :=
      mem_foldl_addPivot digraph.nodes (mem_accessibleFrom_adjacency.mpr edge)
    induction leads with
    | single edge => exact direct edge
    | tail _ edge inductionHypothesis =>
        apply closed _ _ source _ inductionHypothesis (direct edge)
        simp [(digraph.edges_between _ edge).1]

theorem isClosure_reach : digraph.IsClosure digraph.nodes digraph.reach where
  mem_iff := by
    intro urn
    rw [reach, mem_closure_foldl_addPivot, mem_adjacency_iff]
  complete := fun _ _ _ => mem_accessibleFrom_reach

end Traceability.Digraph

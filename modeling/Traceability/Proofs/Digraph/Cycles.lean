import Mathlib.Data.List.Sort
import Traceability.Proofs.Digraph.Lawful

/-!
Contract: the first of the cycles among the components of a graph.

A component of several nodes is a cycle, and one of a single node is a cycle if
the node is its own neighbor. Two components have no node in common unless they
have the same nodes. Sorted, two cycles therefore compare as their first nodes
do, and the first cycle is the one of the first node that leads to itself,
wherever its component stood.

Owns: sorting, and the first cycle among components in any order.
Does not own: which components there are.
-/

namespace Traceability

/-! ### Sorting -/

section Sorting

variable {α : Type} {precedes : α → α → Bool} {items : List α}

theorem sortBy_eq_insertionSort :
    sortBy precedes items = items.insertionSort fun first second => precedes first second := by
  have inserted (item : α) (sorted : List α) : insertInOrder precedes item sorted =
      sorted.orderedInsert (fun first second => precedes first second) item := by
    induction sorted with
    | nil => rfl
    | cons head tail inductionHypothesis =>
        rw [insertInOrder, List.orderedInsert, inductionHypothesis]
  rw [sortBy, List.insertionSort]
  congr 1
  funext item sorted
  exact inserted item sorted

theorem sortBy_perm : (sortBy precedes items).Perm items := by
  rw [sortBy_eq_insertionSort]
  exact List.perm_insertionSort _ items

theorem pairwise_sortBy {related : α → α → Prop} [DecidableRel related]
    (total : ∀ first second, related first second ∨ related second first)
    (trans : ∀ first second third, related first second → related second third →
      related first third) :
    (sortBy (fun first second => related first second) items).Pairwise related := by
  have : Std.Total related := ⟨total⟩
  have : IsTrans α related := ⟨trans⟩
  have sorted := List.pairwise_insertionSort related items
  simpa [sortBy_eq_insertionSort] using sorted

theorem pairwise_sortBy_le [LE α] [DecidableLE α] [Std.IsLinearPreorder α] :
    (sortBy (fun first second => first ≤ second) items).Pairwise (· ≤ ·) :=
  pairwise_sortBy (fun _ _ => Std.le_total) fun _ _ _ => Std.le_trans

end Sorting

/-! ### Cycles of a relation -/

/-- Of all urns that lead to themselves, the first one. -/
structure FirstOnCycle (leads : String → String → Prop) (first : String) : Prop where
  onCycle : leads first first
  least : ∀ other, leads other other → first ≤ other

/-- The urns that `first` leads to and that lead to it, each of them once and in
order. -/
structure CycleOf (leads : String → String → Prop) (first : String) (cycle : List String) :
    Prop where
  ascending : cycle.Pairwise (· < ·)
  mem_iff : ∀ urn, urn ∈ cycle ↔ leads first urn ∧ leads urn first

section Cycles

variable {leads : String → String → Prop} {first head urn : String} {cycle other tail : List String}

theorem FirstOnCycle.unique (isFirst : FirstOnCycle leads first)
    (otherFirst : FirstOnCycle leads urn) : first = urn :=
  String.le_antisymm (isFirst.least urn otherFirst.onCycle) (otherFirst.least first isFirst.onCycle)

theorem CycleOf.unique (cycleOf : CycleOf leads first cycle) (otherOf : CycleOf leads first other) :
    cycle = other := by
  have sameMembers : ∀ urn, urn ∈ cycle ↔ urn ∈ other := by
    intro urn
    rw [cycleOf.mem_iff, otherOf.mem_iff]
  exact cycleOf.ascending.eq_of_mem_iff otherOf.ascending sameMembers

theorem CycleOf.head_le (cycleOf : CycleOf leads first (head :: tail))
    (member : urn ∈ head :: tail) : head ≤ urn := by
  rcases List.mem_cons.mp member with rfl | later
  · exact String.le_refl urn
  · exact Std.le_of_lt (List.rel_of_pairwise_cons cycleOf.ascending later)

end Cycles

namespace Digraph

variable {digraph : Digraph} {components : List (List String)} {component cycle : List String}
  {rest : List (List String)} {first urn : String}

/-! ### Components -/

theorem IsComponent.mem_iff_of_leads_self (isComponent : digraph.IsComponent component)
    (member : first ∈ component) (leads : digraph.Leads first first) :
    urn ∈ component ↔ digraph.Leads first urn ∧ digraph.Leads urn first := by
  rw [isComponent.mem_iff first member, Connected]
  constructor
  · rintro (rfl | both)
    · exact ⟨leads, leads⟩
    · exact both
  · exact Or.inr

/-- A component is a cycle if its nodes lead to themselves. -/
theorem IsComponent.isCycle_iff (isComponent : digraph.IsComponent component)
    (member : urn ∈ component) : digraph.isCycle component ↔ digraph.Leads urn urn := by
  match component with
  | [] => cases member
  | [single] =>
      obtain rfl := List.mem_singleton.mp member
      rw [isCycle, containsEdge_iff]
      constructor
      · exact Relation.TransGen.single
      · intro leads
        -- The first neighbor on the way back is in the component, which has no other node.
        obtain ⟨neighbor, edge, same | back⟩ := leads_iff_neighbor.mp leads
        · exact same ▸ edge
        · have inComponent := (isComponent.mem_iff_of_leads_self member leads).mpr
            ⟨.single edge, back⟩
          exact List.mem_singleton.mp inComponent ▸ edge
  | head :: second :: others =>
      have several : ∃ other ∈ head :: second :: others, other ≠ urn := by
        have different := isComponent.nodup
        by_cases same : head = urn
        · refine ⟨second, by simp, ?_⟩
          rintro rfl
          simp [same] at different
        · exact ⟨head, by simp, same⟩
      obtain ⟨other, otherMem, different⟩ := several
      have both := ((isComponent.mem_iff urn member other).mp otherMem).resolve_left
        (Ne.symm different)
      have leads : digraph.Leads urn urn := both.1.trans both.2
      simpa [isCycle] using leads

theorem IsComponent.ascending_sortBy (isComponent : digraph.IsComponent component) :
    (sortBy (fun first second => first ≤ second) component).Pairwise (· < ·) := by
  have distinct : (sortBy (fun first second => first ≤ second) component).Nodup :=
    sortBy_perm.nodup_iff.mpr isComponent.nodup
  have ordered : (sortBy (fun first second => first ≤ second) component).Pairwise (· ≤ ·) :=
    pairwise_sortBy_le
  exact (ordered.and distinct).imp fun ⟨le, ne⟩ => Std.lt_of_le_of_ne le ne

theorem IsComponent.cycleOf_sortBy (isComponent : digraph.IsComponent component)
    (member : first ∈ component) (leads : digraph.Leads first first) :
    CycleOf digraph.Leads first (sortBy (fun first second => first ≤ second) component) where
  ascending := isComponent.ascending_sortBy
  mem_iff := by
    intro urn
    rw [sortBy_perm.mem_iff, isComponent.mem_iff_of_leads_self member leads]

/-! ### The order of the cycles -/

theorem comesNoLater_total (first second : List String) :
    comesNoLater first second ∨ comesNoLater second first := by
  induction first generalizing second with
  | nil => exact Or.inl rfl
  | cons head tail inductionHypothesis =>
      cases second with
      | nil => exact Or.inr rfl
      | cons other others =>
          rw [comesNoLater, comesNoLater]
          by_cases same : head = other
          · rw [if_pos same, if_pos same.symm]
            exact inductionHypothesis others
          · rw [if_neg same, if_neg (Ne.symm same), decide_eq_true_iff, decide_eq_true_iff]
            exact String.le_total head other

theorem le_of_comesNoLater {tail others : List String}
    (noLater : comesNoLater (first :: others) (urn :: tail)) : first ≤ urn := by
  rw [comesNoLater] at noLater
  split at noLater
  next same => exact same ▸ String.le_refl first
  next => exact of_decide_eq_true noLater

theorem comesNoLater_trans (first second third : List String)
    (firstSecond : comesNoLater first second) (secondThird : comesNoLater second third) :
    comesNoLater first third := by
  induction first generalizing second third with
  | nil => rfl
  | cons head tail inductionHypothesis =>
      match second, third with
      | other :: others, last :: rest =>
          have headLe : head ≤ other := le_of_comesNoLater firstSecond
          have otherLe : other ≤ last := le_of_comesNoLater secondThird
          rw [comesNoLater]
          by_cases same : head = last
          · -- What stands between two equal heads is equal to them.
            obtain rfl := same
            obtain rfl : head = other := String.le_antisymm headLe otherLe
            rw [comesNoLater, if_pos rfl] at firstSecond secondThird
            rw [if_pos rfl]
            exact inductionHypothesis others rest firstSecond secondThird
          · rw [if_neg same, decide_eq_true_iff]
            exact String.le_trans headLe otherLe

/-! ### The first cycle -/

variable (isComponent : ∀ component ∈ components, digraph.IsComponent component)
  (covers : ∀ urn ∈ digraph.nodes, ∃ component ∈ components, urn ∈ component)

include isComponent in
/-- Every cycle is that of its first node. -/
theorem exists_cycleOf_of_mem (member : cycle ∈ digraph.cyclesAmong components) :
    ∃ first rest, cycle = first :: rest ∧ digraph.Leads first first ∧
      CycleOf digraph.Leads first cycle := by
  rw [cyclesAmong, sortBy_perm.mem_iff, List.mem_map] at member
  obtain ⟨component, found, rfl⟩ := member
  obtain ⟨given, isCycle⟩ := List.mem_filter.mp found
  have whole := isComponent component given
  cases sorted : sortBy (fun first second => decide (first ≤ second)) component with
  | nil =>
      rw [← List.length_eq_zero_iff, sortBy_perm.length_eq, List.length_eq_zero_iff] at sorted
      exact absurd sorted whole.ne_nil
  | cons first rest =>
      have firstMem : first ∈ component := by
        rw [← sortBy_perm.mem_iff, sorted]
        exact List.mem_cons_self
      have leads := (whole.isCycle_iff firstMem).mp isCycle
      exact ⟨first, rest, rfl, leads, sorted ▸ whole.cycleOf_sortBy firstMem leads⟩

include isComponent covers in
theorem exists_mem_cyclesAmong (leads : digraph.Leads urn urn) :
    ∃ cycle ∈ digraph.cyclesAmong components, urn ∈ cycle := by
  obtain ⟨component, given, member⟩ := covers urn (mem_nodes_of_leads leads).1
  refine ⟨sortBy (fun first second => first ≤ second) component, ?_, sortBy_perm.mem_iff.mpr member⟩
  rw [cyclesAmong, sortBy_perm.mem_iff]
  apply List.mem_map_of_mem
  exact List.mem_filter.mpr ⟨given, ((isComponent component given).isCycle_iff member).mpr leads⟩

include isComponent covers in
theorem cyclesAmong_eq_nil_iff :
    digraph.cyclesAmong components = [] ↔ ∀ urn, ¬digraph.Leads urn urn := by
  constructor
  · intro none urn leads
    obtain ⟨cycle, member, _⟩ := exists_mem_cyclesAmong isComponent covers leads
    rw [none] at member
    cases member
  · intro acyclic
    rw [List.eq_nil_iff_forall_not_mem]
    intro cycle member
    obtain ⟨first, _, _, leads, _⟩ := exists_cycleOf_of_mem isComponent member
    exact acyclic first leads

include isComponent covers in
/-- The first cycle is the one of the first node on a cycle. -/
theorem cycleOf_first_of_cyclesAmong (found : digraph.cyclesAmong components = cycle :: rest) :
    ∃ first, FirstOnCycle digraph.Leads first ∧ CycleOf digraph.Leads first cycle := by
  have sorted : (cycle :: rest).Pairwise fun first second => comesNoLater first second := by
    rw [← found, cyclesAmong]
    simpa using pairwise_sortBy comesNoLater_total comesNoLater_trans
  have cycleMem : cycle ∈ digraph.cyclesAmong components := found ▸ List.mem_cons_self
  obtain ⟨first, others, rfl, leads, cycleOf⟩ := exists_cycleOf_of_mem isComponent cycleMem
  refine ⟨first, ⟨leads, ?_⟩, cycleOf⟩
  intro urn urnLeads
  obtain ⟨other, otherMem, urnMem⟩ := exists_mem_cyclesAmong isComponent covers urnLeads
  obtain ⟨head, tail, rfl, _, otherOf⟩ := exists_cycleOf_of_mem isComponent otherMem
  have headLe : head ≤ urn := otherOf.head_le urnMem
  have firstLe : first ≤ head := by
    rw [found] at otherMem
    rcases List.mem_cons.mp otherMem with same | later
    · rw [List.cons.injEq] at same
      exact same.1 ▸ String.le_refl head
    · exact le_of_comesNoLater (List.rel_of_pairwise_cons sorted later)
  exact String.le_trans firstLe headLe

include isComponent covers in
/-- In whatever order the components come, the same cycle is the first one. -/
theorem exists_cyclesAmong_eq_cons_iff :
    (∃ rest, digraph.cyclesAmong components = cycle :: rest) ↔
      ∃ first, FirstOnCycle digraph.Leads first ∧ CycleOf digraph.Leads first cycle := by
  constructor
  · rintro ⟨rest, found⟩
    exact cycleOf_first_of_cyclesAmong isComponent covers found
  · rintro ⟨first, isFirst, cycleOf⟩
    cases found : digraph.cyclesAmong components with
    | nil =>
        have acyclic := (cyclesAmong_eq_nil_iff isComponent covers).mp found
        exact absurd isFirst.onCycle (acyclic first)
    | cons head rest =>
        obtain ⟨other, otherFirst, otherOf⟩ := cycleOf_first_of_cyclesAmong isComponent covers found
        obtain rfl := isFirst.unique otherFirst
        obtain rfl := cycleOf.unique otherOf
        exact ⟨rest, rfl⟩

end Digraph

end Traceability

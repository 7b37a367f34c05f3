import Mathlib.Data.Set.Card
import Traceability.Proofs.ImportGraph.Unfolding
import Traceability.Proofs.Model.Origin

/-!
Contract: the modules that filtering goes through.

Filtering follows imports anew on every way to a module, so that a module is
gone through as often as there are ways to it. A way is told by the positions
that it takes in the import lists: an import that is listed twice makes two of
them. Wherever a module stands in the trace, the traces of its own imports stand
right before it.

Owns: routes, how many there are, and the order of the trace.
Does not own: what is passed on along a route.
-/

namespace Traceability

/-- A member of lists that are put one after the other is a member of one of
them, with what comes before it there and the lists before that one. -/
theorem exists_of_flatMap_eq_append_cons {α β : Type} {expand : α → List β} {entries : List α}
    {before after : List β} {last : β} (split : entries.flatMap expand = before ++ last :: after) :
    ∃ earlier, ∃ entry ∈ entries, ∃ start rest,
      expand entry = start ++ last :: rest ∧ before = earlier ++ start := by
  induction entries generalizing before with
  | nil => simp at split
  | cons head tail inductionHypothesis =>
      rw [List.flatMap_cons, List.append_eq_append_iff] at split
      rcases split with ⟨start, whole, rest⟩ | ⟨rest, whole, others⟩
      · obtain ⟨earlier, entry, member, first, later, expanded, same⟩ := inductionHypothesis rest
        refine ⟨expand head ++ earlier, entry, List.mem_cons_of_mem _ member, first, later,
          expanded, ?_⟩
        rw [whole, same, List.append_assoc]
      · cases rest with
        | nil =>
            have fromTail : tail.flatMap expand = [] ++ last :: after := others.symm
            obtain ⟨earlier, entry, member, first, later, expanded, same⟩ :=
              inductionHypothesis fromTail
            refine ⟨expand head ++ earlier, entry, List.mem_cons_of_mem _ member, first, later,
              expanded, ?_⟩
            rw [whole, List.append_nil, List.append_assoc, ← same, List.append_nil]
        | cons first later =>
            obtain ⟨rfl, rfl⟩ := List.cons.inj others
            exact ⟨[], head, List.mem_cons_self, before, later, whole, rfl⟩

namespace ModuleGraph

variable [PatternEngine]

/-- The positions that a chain takes in the import lists of its modules. -/
inductive FollowedRoute (graph : ModuleGraph) : String → List Nat → String → Prop where
  | here {urn : String} : FollowedRoute graph urn [] urn
  | step {urn imported last : String} {position : Nat} {route : List Nat} :
      (graph.imports urn)[position]? = some imported → graph.isMicroservice imported = false →
        FollowedRoute graph imported route last →
          FollowedRoute graph urn (position :: route) last

variable {graph : ModuleGraph} {urn first last : String}

/-- There is a route along every chain. -/
theorem exists_route_iff :
    (∃ route, graph.FollowedRoute first route last) ↔
      ∃ importers, graph.FollowedChain first importers last := by
  constructor
  · rintro ⟨route, leads⟩
    induction leads with
    | here => exact ⟨[], .here⟩
    | step listed follows _ inductionHypothesis =>
        obtain ⟨importers, chain⟩ := inductionHypothesis
        exact ⟨_, .step (List.mem_of_getElem? listed) follows chain⟩
  · rintro ⟨importers, chain⟩
    induction chain with
    | here => exact ⟨[], .here⟩
    | step imports follows _ inductionHypothesis =>
        obtain ⟨route, leads⟩ := inductionHypothesis
        obtain ⟨position, listed⟩ := List.mem_iff_getElem?.mp imports
        exact ⟨position :: route, .step listed follows leads⟩

/-! ### Counting routes -/

/-- The routes that begin with an entry of a list, whose first entry stands at
the position `start`. -/
def routesThrough (graph : ModuleGraph) (last : String) (start : Nat) (entries : List String) :
    Set (List Nat) :=
  {route | ∃ position imported rest, entries[position]? = some imported ∧
    graph.isMicroservice imported = false ∧ graph.FollowedRoute imported rest last ∧
      route = (start + position) :: rest}

theorem routesThrough_nil {start : Nat} : graph.routesThrough last start [] = ∅ := by
  simp [routesThrough]

theorem routesThrough_cons {start : Nat} {head : String} {tail : List String} :
    graph.routesThrough last start (head :: tail) =
      (start :: ·) '' {rest | graph.isMicroservice head = false ∧
        graph.FollowedRoute head rest last} ∪ graph.routesThrough last (start + 1) tail := by
  ext route
  simp only [routesThrough, Set.mem_union, Set.mem_image, Set.mem_ofPred_eq]
  constructor
  · rintro ⟨position, imported, rest, listed, follows, leads, rfl⟩
    cases position with
    | zero =>
        rw [List.getElem?_cons_zero, Option.some.injEq] at listed
        subst listed
        exact Or.inl ⟨rest, ⟨follows, leads⟩, rfl⟩
    | succ position =>
        rw [List.getElem?_cons_succ] at listed
        refine Or.inr ⟨position, imported, rest, listed, follows, leads, ?_⟩
        rw [Nat.add_assoc, Nat.add_comm 1]
  · rintro (⟨rest, ⟨follows, leads⟩, rfl⟩ | ⟨position, imported, rest, listed, follows, leads, rfl⟩)
    · exact ⟨0, head, rest, rfl, follows, leads, rfl⟩
    · refine ⟨position + 1, imported, rest, listed, follows, leads, ?_⟩
      rw [Nat.add_assoc, Nat.add_comm 1]

/-- Where the routes from each import that is followed are counted by its trace,
those through the whole list are counted by the traces of all of them. -/
theorem encard_routesThrough {entries : List String} {start : Nat}
    (counted : ∀ imported ∈ entries, graph.isMicroservice imported = false →
      {rest | graph.FollowedRoute imported rest last}.encard = (graph.trace imported).count last) :
    (graph.routesThrough last start entries).encard =
      ((entries.filter fun imported => !graph.isMicroservice imported).flatMap graph.trace).count
        last := by
  induction entries generalizing start with
  | nil => simp [routesThrough_nil]
  | cons head tail inductionHypothesis =>
      have headCounted := counted head List.mem_cons_self
      have tailCounted : (graph.routesThrough last (start + 1) tail).encard = _ :=
        inductionHypothesis fun imported member =>
          counted imported (List.mem_cons_of_mem _ member)
      have apart : Disjoint
          ((start :: ·) '' {rest | graph.isMicroservice head = false ∧
            graph.FollowedRoute head rest last}) (graph.routesThrough last (start + 1) tail) := by
        rw [Set.disjoint_left]
        rintro _ ⟨rest, _, rfl⟩ ⟨position, _, _, _, _, _, same⟩
        have sameStart := (List.cons.inj same).1
        omega
      have prepends : Function.Injective fun rest : List Nat => start :: rest :=
        fun _ _ same => (List.cons.inj same).2
      rw [routesThrough_cons, Set.encard_union_eq apart, tailCounted, prepends.encard_image]
      cases follows : graph.isMicroservice head with
      | true => simp [follows]
      | false => simp [follows, headCounted follows]

theorem setOf_followedRoute :
    {route | graph.FollowedRoute urn route last} =
      {route | route = [] ∧ urn = last} ∪ graph.routesThrough last 0 (graph.imports urn) := by
  ext route
  simp only [routesThrough, Set.mem_union, Set.mem_ofPred_eq, Nat.zero_add]
  constructor
  · intro leads
    cases leads with
    | here => exact Or.inl ⟨rfl, rfl⟩
    | step listed follows rest => exact Or.inr ⟨_, _, _, listed, follows, rest, rfl⟩
  · rintro (⟨rfl, rfl⟩ | ⟨position, imported, rest, listed, follows, leads, rfl⟩)
    · exact .here
    · exact .step listed follows leads

/-- A module stands in a trace as often as routes lead to it. -/
theorem ValidImports.encard_routes (valid : graph.ValidImports) (last urn : String) :
    {route | graph.FollowedRoute urn route last}.encard = (graph.trace urn).count last := by
  apply valid.induction (motive := fun urn =>
    {route | graph.FollowedRoute urn route last}.encard = (graph.trace urn).count last)
  intro urn counted
  have throughImports : (graph.routesThrough last 0 (graph.imports urn)).encard =
      ((graph.followedImports urn).flatMap graph.trace).count last := by
    apply encard_routesThrough
    intro imported imports follows
    exact counted imported (mem_followedImports.mpr ⟨imports, follows⟩)
  have apart : Disjoint {route : List Nat | route = [] ∧ urn = last}
      (graph.routesThrough last 0 (graph.imports urn)) := by
    rw [Set.disjoint_left]
    rintro _ ⟨rfl, _⟩ ⟨_, _, _, _, _, _, same⟩
    contradiction
  have atOnce : {route : List Nat | route = [] ∧ urn = last}.encard = [urn].count last := by
    by_cases same : urn = last
    · simp [same]
    · simp [same]
  rw [setOf_followedRoute, Set.encard_union_eq apart, throughImports, atOnce, valid.trace_eq,
    List.count_append, Nat.cast_add, add_comm]

theorem ValidImports.mem_trace_iff (valid : graph.ValidImports) :
    last ∈ graph.trace urn ↔ ∃ importers, graph.FollowedChain urn importers last := by
  have nonempty :
      {route | graph.FollowedRoute urn route last}.Nonempty ↔ last ∈ graph.trace urn := by
    rw [← Set.encard_ne_zero, valid.encard_routes last urn, Nat.cast_ne_zero, ← Nat.pos_iff_ne_zero,
      List.count_pos_iff]
  rw [← nonempty, ← exists_route_iff]
  rfl

/-! ### The order of a trace -/

/-- No import leads back to the module. -/
theorem ValidImports.not_mem_trace_imports (valid : graph.ValidImports) (urn : String) :
    urn ∉ (graph.followedImports urn).flatMap graph.trace := by
  intro member
  obtain ⟨imported, follows, later⟩ := List.mem_flatMap.mp member
  obtain ⟨importers, chain⟩ := valid.mem_trace_iff.mp later
  have direct : graph.Reaches urn imported :=
    Relation.TransGen.single (mem_followedImports.mp follows).1
  have back := chain.eq_or_reaches urn (List.mem_append_right _ (List.mem_singleton_self _))
  rcases back with rfl | reaches
  · exact valid.acyclic _ direct
  · exact valid.acyclic urn (direct.trans reaches)

/-- Right before every module in a trace stand the traces of its imports. -/
theorem ValidImports.imports_suffix (valid : graph.ValidImports) (urn : String) :
    ∀ before last after, graph.trace urn = before ++ last :: after →
      (graph.followedImports last).flatMap graph.trace <:+ before := by
  apply valid.induction (motive := fun urn => ∀ before last after,
    graph.trace urn = before ++ last :: after →
      (graph.followedImports last).flatMap graph.trace <:+ before)
  intro urn inImports before last after split
  rw [valid.trace_eq] at split
  rcases List.eq_nil_or_concat after with rfl | ⟨front, closing, rfl⟩
  · -- The module at the end is the one whose trace it is.
    obtain ⟨rfl, sameLast⟩ := List.append_inj' split rfl
    obtain rfl := List.singleton_inj.mp sameLast
    exact List.suffix_rfl
  · have ofImports : (graph.followedImports urn).flatMap graph.trace = before ++ last :: front := by
      rw [List.concat_eq_append, ← List.cons_append, ← List.append_assoc] at split
      exact (List.append_inj' split rfl).1
    obtain ⟨earlier, imported, follows, start, rest, traced, rfl⟩ :=
      exists_of_flatMap_eq_append_cons ofImports
    exact (inImports imported follows start last rest traced).trans (List.suffix_append _ _)

/-- Filtering goes through the root last, and only then. It goes through a
module if some chain of imports leads there, and as often as there are routes.
The trace is that of the root; each trace consists of those of the imports that
are followed, in their order, and of the module itself, and wherever a module
stands in the trace of the root, the traces of its imports stand before it. -/
theorem visited_unfolds {model : Model} (filtered : graph.generate true = .ok model) :
    (∃ earlier, model.visited = earlier ++ [graph.root] ∧ graph.root ∉ earlier) ∧
    (∀ urn, urn ∈ model.visited ↔ ∃ importers, graph.FollowedChain graph.root importers urn) ∧
    (∀ urn, {route | graph.FollowedRoute graph.root route urn}.encard =
      model.visited.count urn) ∧
    model.visited = graph.trace graph.root ∧
    (∀ urn, graph.trace urn = (graph.followedImports urn).flatMap graph.trace ++ [urn]) ∧
    ∀ before urn after, model.visited = before ++ urn :: after →
      (graph.followedImports urn).flatMap graph.trace <:+ before := by
  obtain ⟨merged, valid, _, _, rfl⟩ := filtered_of_generate filtered
  rw [visited_narrow]
  exact ⟨⟨_, valid.trace_eq _, valid.not_mem_trace_imports _⟩, fun _ => valid.mem_trace_iff,
    fun urn => valid.encard_routes urn graph.root, rfl, valid.trace_eq,
    valid.imports_suffix graph.root⟩

end ModuleGraph

namespace Sample

/-- The root lists the base twice and reaches it by the library as well. The
service, which it lists too, is not followed. -/
def repeating : ModuleGraph :=
  ModuleGraph.empty "root"
    |>.insert (module "root" [] ∅ [] ∅ []) ["base", "service", "library", "base"]
    |>.insert (module "library" [] ∅ [] ∅ []) ["base"]
    |>.insert { module "service" [] ∅ [] ∅ [] with variant := .microservice } ["base"]
    |>.insert (module "base" [] ∅ [] ∅ []) []

/-- Three routes lead to the base, two of them directly. -/
theorem base_on_three_routes :
    ∃ model, repeating.generate true = .ok model ∧
      model.visited = ["base", "base", "library", "base", "root"] ∧
      {route | repeating.FollowedRoute "root" route "base"}.encard = 3 := by
  have evaluated : (repeating.generate true).toOption.any fun model =>
      model.visited = ["base", "base", "library", "base", "root"] := by decide +kernel
  obtain ⟨model, filtered, visited⟩ := any_toOption_iff.mp evaluated
  have trace := of_decide_eq_true visited
  obtain ⟨-, -, counted, -⟩ := ModuleGraph.visited_unfolds filtered
  have three : model.visited.count "base" = 3 := by
    rw [trace]
    rfl
  refine ⟨model, filtered, trace, ?_⟩
  rw [← Nat.cast_ofNat, ← three]
  exact counted "base"

end Sample

end Traceability

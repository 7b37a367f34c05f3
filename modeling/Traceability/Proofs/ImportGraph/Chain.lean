import Traceability.Proofs.ImportGraph.Reachability

/-!
Contract: chains of imports that are followed.

A chain starts at any module and goes on by imports that are no microservices.
Where no module reaches itself, no module occurs twice on a chain, so that a
chain has fewer imports than there are modules.

Owns: chains, and the bound on their length.
Does not own: what is passed on along a chain.
-/

namespace Traceability.ModuleGraph

variable [PatternEngine]

/-- The modules from the first on that import the next one, up to the last
module, which is not among them. -/
inductive FollowedChain (graph : ModuleGraph) : String → List String → String → Prop where
  | here {urn : String} : FollowedChain graph urn [] urn
  | step {urn imported last : String} {importers : List String} :
      imported ∈ graph.imports urn → graph.isMicroservice imported = false →
        FollowedChain graph imported importers last →
          FollowedChain graph urn (urn :: importers) last

variable {graph : ModuleGraph} {first last urn : String} {importers : List String}

theorem mem_followedImports {imported : String} :
    imported ∈ graph.followedImports urn ↔
      imported ∈ graph.imports urn ∧ graph.isMicroservice imported = false := by
  simp [followedImports]

/-- A chain is over at once, or goes on with an import of the first module. -/
theorem followedChain_iff :
    graph.FollowedChain first importers last ↔
      (importers = [] ∧ first = last) ∨
      ∃ imported ∈ graph.followedImports first, ∃ rest, importers = first :: rest ∧
        graph.FollowedChain imported rest last := by
  constructor
  · intro chain
    cases chain with
    | here => exact Or.inl ⟨rfl, rfl⟩
    | step imports follows rest =>
        exact Or.inr ⟨_, mem_followedImports.mpr ⟨imports, follows⟩, _, rfl, rest⟩
  · rintro (⟨rfl, rfl⟩ | ⟨imported, follows, rest, rfl, chain⟩)
    · exact .here
    · obtain ⟨imports, noMicroservice⟩ := mem_followedImports.mp follows
      exact .step imports noMicroservice chain

/-- A chain with a further module goes on with an import of the first one. -/
theorem followedChain_cons_iff :
    graph.FollowedChain first (first :: importers) last ↔
      ∃ imported ∈ graph.followedImports first, graph.FollowedChain imported importers last := by
  rw [followedChain_iff]
  simp

theorem FollowedChain.eq_or_reaches (chain : graph.FollowedChain first importers last) :
    ∀ urn ∈ importers ++ [last], urn = first ∨ graph.Reaches first urn := by
  induction chain with
  | here =>
      intro urn member
      exact Or.inl (List.mem_singleton.mp member)
  | @step first imported last importers imports _ _ inductionHypothesis =>
      intro urn member
      rcases List.mem_cons.mp member with rfl | later
      · exact Or.inl rfl
      · have direct : graph.Reaches first imported := Relation.TransGen.single imports
        rcases inductionHypothesis urn later with rfl | reaches
        · exact Or.inr direct
        · exact Or.inr (direct.trans reaches)

theorem FollowedChain.nodup (chain : graph.FollowedChain first importers last)
    (acyclic : ∀ urn, ¬graph.Reaches urn urn) : (importers ++ [last]).Nodup := by
  induction chain with
  | here => simp
  | @step first imported last importers imports _ chain inductionHypothesis =>
      rw [List.cons_append, List.nodup_cons]
      refine ⟨?_, inductionHypothesis⟩
      intro again
      have direct : graph.Reaches first imported := Relation.TransGen.single imports
      rcases chain.eq_or_reaches first again with rfl | reaches
      · exact acyclic _ direct
      · exact acyclic first (direct.trans reaches)

theorem FollowedChain.mem_modules (chain : graph.FollowedChain first importers last)
    (known : graph.ImportsKnown) (firstMem : first ∈ graph.modules) :
    ∀ urn ∈ importers ++ [last], urn ∈ graph.modules := by
  induction chain with
  | here => simpa using firstMem
  | step imports _ _ inductionHypothesis =>
      intro urn member
      rcases List.mem_cons.mp member with rfl | later
      · exact firstMem
      · exact inductionHypothesis (known _ _ imports).2 urn later

/-- No chain is cut off by the depth to which imports are unfolded. -/
theorem FollowedChain.length_le (chain : graph.FollowedChain first importers last)
    (valid : graph.ValidImports) : importers.length ≤ graph.modules.size := by
  by_cases ended : importers = []
  · rw [ended]
    exact Nat.zero_le _
  · have firstMem : first ∈ graph.modules := by
      cases chain with
      | here => exact absurd rfl ended
      | step imports _ _ => exact (valid.known _ _ imports).1
    have modules : importers ++ [last] ⊆ graph.modules.keys := by
      intro urn member
      exact Std.ExtTreeMap.mem_keys.mpr (chain.mem_modules valid.known firstMem urn member)
    have bound := (chain.nodup valid.acyclic).length_le_of_subset modules
    rw [List.length_append, List.length_singleton, Std.ExtTreeMap.length_keys] at bound
    omega

end Traceability.ModuleGraph

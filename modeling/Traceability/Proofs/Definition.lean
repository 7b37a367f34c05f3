import Traceability.ImportGraph
import Traceability.Proofs.Collections

/-!
Contract: where the modules of a graph define entities.

Requirements, cases and results are defined alike: a document of a module lists
them under keys, so that a module and a key make a place with at most one
definition of each kind. The keys need not be the identifiers of what stands
under them.

Owns: places, what is defined at them, and definitions in the order of places.
Does not own: which definitions a model admits.
-/

namespace Traceability

/-- A key of a document, with the urn of the module that holds the document. -/
structure Place where
  urn : String
  key : Identifier
deriving DecidableEq, Repr

/-- Places are taken by urn, and within a document by key. -/
def Place.Before (earlier later : Place) : Prop :=
  compare earlier.urn later.urn = .lt ∨
    (earlier.urn = later.urn ∧ compare earlier.key later.key = .lt)

theorem Place.Before.not_before {first second : Place} (before : first.Before second) :
    ¬second.Before first := by
  rintro (byUrn | ⟨sameUrn, byKey⟩)
  · rcases before with otherWay | ⟨sameUrn, _⟩
    · exact Std.OrientedCmp.not_lt_of_lt byUrn otherWay
    · simp [sameUrn] at byUrn
  · rcases before with otherWay | ⟨_, otherWay⟩
    · simp [sameUrn] at otherWay
    · exact Std.OrientedCmp.not_lt_of_lt byKey otherWay

namespace Module

variable [PatternEngine]

/-- The cases of the module under their keys, none without a document. -/
def caseMap (module : Module) : IdentifierMap VerificationCase :=
  module.caseDocument.elim ∅ CaseDocument.cases

/-- The results of the module under their keys, none without a document. -/
def resultMap (module : Module) : IdentifierMap ManualResult :=
  module.results.getD ∅

theorem cases_eq_values (module : Module) : module.cases = module.caseMap.values := by
  unfold cases caseMap
  cases module.caseDocument with
  | none => simp [values_eq_map_snd_toList]
  | some document => rfl

theorem resultList_eq_values (module : Module) :
    module.resultList = module.resultMap.values := by
  unfold resultList resultMap
  cases module.results with
  | none => simp [values_eq_map_snd_toList]
  | some results => rfl

end Module

variable [PatternEngine] {ε : Type}

/-- What the documents of a kind define at a place. -/
def ModuleGraph.definedAt? (graph : ModuleGraph) (documents : Module → IdentifierMap ε)
    (place : Place) : Option ε :=
  (graph.modules[place.urn]?).bind fun module => (documents module)[place.key]?

/-- What the documents of a kind define in some modules, in order. -/
def definitions (documents : Module → IdentifierMap ε) (modules : List (String × Module)) :
    List (Place × ε) :=
  modules.flatMap fun (urn, module) =>
    (documents module).toList.map fun (key, entity) => (⟨urn, key⟩, entity)

variable {documents : Module → IdentifierMap ε} {modules : List (String × Module)}
  {graph : ModuleGraph} {place : Place} {entity : ε}

theorem mem_definitions_iff :
    (place, entity) ∈ definitions documents modules ↔
      ∃ module, (place.urn, module) ∈ modules ∧
        (documents module)[place.key]? = some entity := by
  simp only [definitions, List.mem_flatMap, List.mem_map, Prod.exists,
    Std.ExtTreeMap.mem_toList_iff_getElem?_eq_some, Prod.mk.injEq]
  constructor
  · rintro ⟨urn, module, member, key, _, found, rfl, rfl⟩
    exact ⟨module, member, found⟩
  · rintro ⟨module, member, found⟩
    exact ⟨place.urn, module, member, place.key, entity, found, rfl, rfl⟩

/-- All modules together define what is defined at the places of the graph. -/
theorem mem_definitions_toList_iff :
    (place, entity) ∈ definitions documents graph.modules.toList ↔
      graph.definedAt? documents place = some entity := by
  rw [mem_definitions_iff, ModuleGraph.definedAt?, Option.bind_eq_some_iff]
  simp only [Std.ExtTreeMap.mem_toList_iff_getElem?_eq_some]

theorem map_snd_definitions :
    (definitions documents modules).map Prod.snd =
      modules.flatMap fun (_, module) => (documents module).values := by
  simp only [definitions, List.map_flatMap, List.map_map, values_eq_map_snd_toList]
  rfl

/-! ### The order of places -/

theorem pairwise_before_definitions
    (ordered : modules.Pairwise fun earlier later => compare earlier.1 later.1 = .lt) :
    (definitions documents modules).Pairwise fun earlier later => earlier.1.Before later.1 := by
  rw [definitions, List.pairwise_flatMap]
  constructor
  · intro entry _
    rw [List.pairwise_map]
    exact Std.ExtTreeMap.ordered_keys_toList.imp fun byKey => Or.inr ⟨rfl, byKey⟩
  · apply ordered.imp
    intro earlier later byUrn first firstMember second secondMember
    obtain ⟨_, _, rfl⟩ := List.mem_map.mp firstMember
    obtain ⟨_, _, rfl⟩ := List.mem_map.mp secondMember
    exact Or.inl byUrn

theorem pairwise_definitions_iff
    (ordered : modules.Pairwise fun earlier later => compare earlier.1 later.1 = .lt)
    {related : Place × ε → Place × ε → Prop} :
    (definitions documents modules).Pairwise related ↔
      ∀ earlier later, earlier.Before later → ∀ first second,
        (earlier, first) ∈ definitions documents modules →
          (later, second) ∈ definitions documents modules →
            related (earlier, first) (later, second) := by
  rw [pairwise_iff_of_pairwise (pairwise_before_definitions ordered)
    fun _ _ before => before.not_before]
  constructor
  · intro related earlier later before first second firstMember secondMember
    exact related _ firstMember _ secondMember before
  · intro related earlier earlierMember later laterMember before
    exact related _ _ before _ _ earlierMember laterMember

end Traceability

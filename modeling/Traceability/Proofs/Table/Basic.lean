import Traceability.Proofs.Index

/-!
Contract: entities that refer to others, together with the indices over them.

Cases refer to requirements as results refer to cases, and both kinds are
indexed alike: by the urn in their identifiers, and by what they refer to. A
table holds the entities of one kind with these two indices. It is coherent
when the indices list exactly what the entities imply.

Owns: coherence of one table, adding an entity, and restricting all references
at once.
Does not own: whether references resolve.
-/

namespace Traceability

/-- Records with an identifier and a list of references that is never empty. -/
class Referring (ε : Type) where
  identifier : ε → Identifier
  references : ε → NonEmptyList Identifier
  withReferences : ε → NonEmptyList Identifier → ε
  identifier_withReferences : ∀ entity list,
    identifier (withReferences entity list) = identifier entity
  references_withReferences : ∀ entity list, references (withReferences entity list) = list
  withReferences_references : ∀ entity, withReferences entity (references entity) = entity
  withReferences_withReferences : ∀ entity first second,
    withReferences (withReferences entity first) second = withReferences entity second

instance : Referring VerificationCase where
  identifier := VerificationCase.id
  references := VerificationCase.requirements
  withReferences verificationCase requirements := { verificationCase with requirements }
  identifier_withReferences _ _ := rfl
  references_withReferences _ _ := rfl
  withReferences_references _ := rfl
  withReferences_withReferences _ _ _ := rfl

instance : Referring ManualResult where
  identifier := ManualResult.id
  references := ManualResult.cases
  withReferences result cases := { result with cases }
  identifier_withReferences _ _ := rfl
  references_withReferences _ _ := rfl
  withReferences_references _ := rfl
  withReferences_withReferences _ _ _ := rfl

namespace Referring

variable {ε : Type} [Referring ε]

/-- The entity with the references that satisfy `keep`, unless none does. -/
def retain? (entity : ε) (keep : Identifier → Bool) : Option ε :=
  ((references entity).retain? keep).map (withReferences entity)

theorem retain?_eq_some_iff {entity kept : ε} {keep : Identifier → Bool} :
    retain? entity keep = some kept ↔
      kept = withReferences entity (references kept) ∧
        (references entity).toList.filter keep = (references kept).toList := by
  simp only [retain?, Option.map_eq_some_iff, NonEmptyList.retain?_eq_some_iff]
  constructor
  · rintro ⟨list, filtered, rfl⟩
    simp [references_withReferences, filtered]
  · rintro ⟨same, filtered⟩
    exact ⟨references kept, filtered, same.symm⟩

theorem retain?_eq_none_iff {entity : ε} {keep : Identifier → Bool} :
    retain? entity keep = none ↔
      ∀ reference ∈ (references entity).toList, keep reference = false := by
  simp only [retain?, Option.map_eq_none_iff, NonEmptyList.retain?_eq_none_iff]

theorem isSome_retain?_iff {entity : ε} {keep : Identifier → Bool} :
    (retain? entity keep).isSome ↔ ∃ reference ∈ (references entity).toList, keep reference := by
  rw [← Option.ne_none_iff_isSome, ne_eq, retain?_eq_none_iff]
  simp

/-- Something is kept where some reference resolves. -/
theorem exists_retain?_contains_iff {α : Type} {entity : ε} {targets : IdentifierMap α} :
    (∃ kept, retain? entity targets.contains = some kept) ↔
      ∃ reference ∈ (references entity).toList, reference ∈ targets := by
  rw [← Option.isSome_iff_exists, isSome_retain?_iff]
  simp only [Std.ExtTreeMap.contains_iff_mem]

theorem identifier_of_retain? {entity kept : ε} {keep : Identifier → Bool}
    (retained : retain? entity keep = some kept) : identifier kept = identifier entity := by
  rw [(retain?_eq_some_iff.mp retained).1, identifier_withReferences]

theorem mem_references_of_retain? {entity kept : ε} {keep : Identifier → Bool}
    (retained : retain? entity keep = some kept) {reference : Identifier} :
    reference ∈ (references kept).toList ↔
      reference ∈ (references entity).toList ∧ keep reference := by
  rw [← (retain?_eq_some_iff.mp retained).2, List.mem_filter]

theorem retain?_congr {entity : ε} {keep other : Identifier → Bool}
    (agree : ∀ reference ∈ (references entity).toList, keep reference = other reference) :
    retain? entity keep = retain? entity other := by
  unfold retain? NonEmptyList.retain?
  rw [List.filter_congr agree]

theorem retain?_eq_self {entity : ε} {keep : Identifier → Bool}
    (all : ∀ reference ∈ (references entity).toList, keep reference) :
    retain? entity keep = some entity := by
  rw [retain?_eq_some_iff]
  exact ⟨(withReferences_references entity).symm, List.filter_eq_self.mpr all⟩

theorem retain?_bind_retain? {entity : ε} {first second : Identifier → Bool} :
    (retain? entity first).bind (fun kept => retain? kept second) =
      retain? entity fun reference => first reference && second reference := by
  cases retained : retain? entity first with
  | none =>
      rw [retain?_eq_none_iff] at retained
      rw [Option.bind_none, eq_comm, retain?_eq_none_iff]
      intro reference member
      rw [retained reference member, Bool.false_and]
  | some kept =>
      obtain ⟨same, filtered⟩ := retain?_eq_some_iff.mp retained
      have filteredTwice : (references kept).toList.filter second =
          (references entity).toList.filter fun reference =>
            first reference && second reference := by
        rw [← filtered, List.filter_filter]
        exact List.filter_congr fun reference _ => Bool.and_comm _ _
      rw [Option.bind_some, same]
      simp only [retain?, NonEmptyList.retain?, references_withReferences, filteredTwice]
      cases NonEmptyList.ofList? _ <;> simp [withReferences_withReferences]

end Referring

/-- The entities of one kind with their indices. -/
@[ext] structure Table (ε : Type) where
  entities : IdentifierMap ε
  ofUrn : Index String
  ofReference : Index Identifier

namespace Table

open Referring

variable {ε : Type} [Referring ε]

/-- The index by urn lists exactly the entities, each under its urn. -/
def Located (table : Table ε) : Prop :=
  ∀ urn id, table.ofUrn.lists urn id ↔ id ∈ table.entities ∧ id.urn = urn

/-- The entities are kept under their own identifiers, and the indices list
exactly what the entities imply. -/
structure Coherent (table : Table ε) : Prop where
  keyed : ∀ {id entity}, table.entities[id]? = some entity → identifier entity = id
  located : table.Located
  lists_ofReference : ∀ {reference id}, table.ofReference.lists reference id ↔
    ∃ entity, table.entities[id]? = some entity ∧ reference ∈ (references entity).toList
  pruned : table.ofReference.Pruned

theorem coherent_empty : (⟨∅, ∅, ∅⟩ : Table ε).Coherent where
  keyed := by simp
  located := by simp [Located]
  lists_ofReference := by simp
  pruned := Index.pruned_empty

/-- The keys of the index by reference are what is referred to. -/
theorem Coherent.mem_ofReference_iff {table : Table ε} (coherent : table.Coherent)
    {reference : Identifier} :
    reference ∈ table.ofReference ↔
      ∃ (id : Identifier) (entity : ε), table.entities[id]? = some entity ∧
        reference ∈ (references entity).toList := by
  rw [coherent.pruned.mem_iff]
  exact exists_congr fun id => coherent.lists_ofReference

/-- Adds an entity under everything it refers to. -/
def insert (table : Table ε) (entity : ε) : Table ε where
  entities := table.entities.insert (identifier entity) entity
  ofUrn := table.ofUrn.add (identifier entity).urn (identifier entity)
  ofReference := (references entity).toList.foldl
    (fun index reference => index.add reference (identifier entity)) table.ofReference

/-- Keeps the references that satisfy `keep` and the entities that still have
one. An index by urn keeps its keys, one by reference does not. -/
def restrict (table : Table ε) (keep : Identifier → Identifier → Bool) : Table ε :=
  let entities := table.entities.filterMap fun id entity => retain? entity (keep id)
  { entities
    ofUrn := table.ofUrn.filterIds entities.contains
    ofReference := table.ofReference.pruneIds fun reference id => keep id reference }

variable {table : Table ε} {keep other : Identifier → Identifier → Bool} {id : Identifier}

theorem entities_restrict :
    (table.restrict keep).entities[id]? =
      (table.entities[id]?).bind fun entity => retain? entity (keep id) :=
  Std.ExtTreeMap.getElem?_filterMap'

theorem mem_restrict_iff :
    id ∈ (table.restrict keep).entities ↔
      ∃ entity, table.entities[id]? = some entity ∧
        ∃ reference ∈ (references entity).toList, keep id reference := by
  rw [Std.ExtTreeMap.mem_iff_isSome_getElem?, entities_restrict]
  cases table.entities[id]? with
  | none => simp
  | some entity => simp [isSome_retain?_iff]

theorem mem_of_mem_restrict (member : id ∈ (table.restrict keep).entities) :
    id ∈ table.entities := by
  obtain ⟨entity, found, _⟩ := mem_restrict_iff.mp member
  exact mem_iff_exists_getElem?.mpr ⟨entity, found⟩

theorem mem_ofUrn_restrict {urn : String} :
    urn ∈ (table.restrict keep).ofUrn ↔ urn ∈ table.ofUrn :=
  Index.mem_filterIds

theorem lists_ofUrn_restrict {urn : String} :
    (table.restrict keep).ofUrn.lists urn id ↔
      table.ofUrn.lists urn id ∧ id ∈ (table.restrict keep).entities := by
  rw [← Std.ExtTreeMap.contains_iff_mem]
  exact Index.lists_filterIds

theorem lists_ofReference_restrict {reference : Identifier} :
    (table.restrict keep).ofReference.lists reference id ↔
      table.ofReference.lists reference id ∧ keep id reference :=
  Index.lists_pruneIds

theorem pruned_restrict : (table.restrict keep).ofReference.Pruned :=
  Index.pruned_pruneIds

/-- Whatever is referred to after a restriction was referred to before, and
was kept. -/
theorem of_mem_references_restrict {kept : ε}
    (found : (table.restrict keep).entities[id]? = some kept) {reference : Identifier}
    (member : reference ∈ (references kept).toList) :
    keep id reference ∧
      ∃ entity, table.entities[id]? = some entity ∧ reference ∈ (references entity).toList := by
  rw [entities_restrict, Option.bind_eq_some_iff] at found
  obtain ⟨entity, found, retained⟩ := found
  obtain ⟨present, holds⟩ := (mem_references_of_retain? retained).mp member
  exact ⟨holds, entity, found, present⟩

theorem Located.restrict (located : table.Located) : (table.restrict keep).Located := by
  intro urn id
  rw [lists_ofUrn_restrict, located]
  constructor
  · rintro ⟨⟨_, same⟩, member⟩
    exact ⟨member, same⟩
  · rintro ⟨member, same⟩
    exact ⟨⟨mem_of_mem_restrict member, same⟩, member⟩

theorem Coherent.restrict (coherent : table.Coherent) : (table.restrict keep).Coherent where
  keyed := by
    intro id kept found
    rw [entities_restrict, Option.bind_eq_some_iff] at found
    obtain ⟨entity, found, retained⟩ := found
    rw [identifier_of_retain? retained]
    exact coherent.keyed found
  located := coherent.located.restrict
  lists_ofReference := by
    intro reference id
    rw [lists_ofReference_restrict, coherent.lists_ofReference, entities_restrict]
    cases table.entities[id]? with
    | none => simp
    | some entity =>
        simp only [Option.some.injEq, exists_eq_left', Option.bind_some]
        constructor
        · rintro ⟨member, holds⟩
          have retained : (retain? entity (keep id)).isSome :=
            isSome_retain?_iff.mpr ⟨reference, member, holds⟩
          obtain ⟨kept, retained⟩ := Option.isSome_iff_exists.mp retained
          exact ⟨kept, retained, (mem_references_of_retain? retained).mpr ⟨member, holds⟩⟩
        · rintro ⟨kept, retained, member⟩
          exact (mem_references_of_retain? retained).mp member
  pruned := pruned_restrict

/-- Restricting twice keeps what both restrictions keep. -/
theorem restrict_restrict :
    (table.restrict keep).restrict other =
      table.restrict fun id reference => keep id reference && other id reference := by
  have sameEntities : ((table.restrict keep).restrict other).entities =
      (table.restrict fun id reference => keep id reference && other id reference).entities := by
    apply Std.ExtTreeMap.ext_getElem?
    intro id
    rw [entities_restrict, entities_restrict, entities_restrict, Option.bind_assoc]
    simp only [retain?_bind_retain?]
  apply Table.ext
  · exact sameEntities
  · apply Index.ext_lists
    · intro urn
      rw [mem_ofUrn_restrict, mem_ofUrn_restrict, mem_ofUrn_restrict]
    · intro urn id
      rw [lists_ofUrn_restrict, lists_ofUrn_restrict, lists_ofUrn_restrict, ← sameEntities]
      constructor
      · rintro ⟨⟨listed, _⟩, member⟩
        exact ⟨listed, member⟩
      · rintro ⟨listed, member⟩
        exact ⟨⟨listed, mem_of_mem_restrict member⟩, member⟩
  · apply pruned_restrict.ext pruned_restrict
    intro reference id
    rw [lists_ofReference_restrict, lists_ofReference_restrict, lists_ofReference_restrict,
      Bool.and_eq_true, and_assoc]

/-- Restrictions are equal when they keep the same of what there is. -/
theorem Coherent.restrict_congr (coherent : table.Coherent)
    (agree : ∀ id entity, table.entities[id]? = some entity →
      ∀ reference ∈ (references entity).toList, keep id reference = other id reference) :
    table.restrict keep = table.restrict other := by
  have sameEntities : (table.restrict keep).entities = (table.restrict other).entities := by
    apply Std.ExtTreeMap.ext_getElem?
    intro id
    rw [entities_restrict, entities_restrict]
    cases found : table.entities[id]? with
    | none => rfl
    | some entity => exact retain?_congr (agree id entity found)
  apply Table.ext
  · exact sameEntities
  · apply Index.ext_lists
    · intro urn
      rw [mem_ofUrn_restrict, mem_ofUrn_restrict]
    · intro urn id
      rw [lists_ofUrn_restrict, lists_ofUrn_restrict, sameEntities]
  · apply pruned_restrict.ext pruned_restrict
    intro reference id
    rw [lists_ofReference_restrict, lists_ofReference_restrict, coherent.lists_ofReference]
    apply and_congr_right
    rintro ⟨entity, found, member⟩
    rw [agree id entity found reference member]

theorem entities_restrict_eq_self
    (all : ∀ id entity, table.entities[id]? = some entity →
      ∀ reference ∈ (references entity).toList, keep id reference) :
    (table.restrict keep).entities = table.entities := by
  apply Std.ExtTreeMap.ext_getElem?
  intro id
  rw [entities_restrict]
  cases found : table.entities[id]? with
  | none => rfl
  | some entity => exact retain?_eq_self (all id entity found)

theorem Located.ofUrn_restrict_eq_self (located : table.Located)
    (sameKeys : ∀ id, id ∈ (table.restrict keep).entities ↔ id ∈ table.entities) :
    (table.restrict keep).ofUrn = table.ofUrn := by
  apply Index.ext_lists
  · intro urn
    rw [mem_ofUrn_restrict]
  · intro urn id
    rw [lists_ofUrn_restrict, sameKeys, located]
    exact and_iff_left_of_imp And.left

theorem Coherent.restrict_eq_self (coherent : table.Coherent)
    (all : ∀ id entity, table.entities[id]? = some entity →
      ∀ reference ∈ (references entity).toList, keep id reference) :
    table.restrict keep = table := by
  have sameEntities := entities_restrict_eq_self all
  apply Table.ext
  · exact sameEntities
  · exact coherent.located.ofUrn_restrict_eq_self fun id => by rw [sameEntities]
  · apply pruned_restrict.ext coherent.pruned
    intro reference id
    rw [lists_ofReference_restrict, coherent.lists_ofReference]
    apply and_iff_left_of_imp
    rintro ⟨entity, found, member⟩
    exact all id entity found reference member

/-- Where a restriction judges entities and references apart, its index lists
what is left of either kind. -/
theorem Coherent.ofReference_restrict (coherent : table.Coherent)
    {own target live : Identifier → Bool}
    (agree : ∀ (id : Identifier) (entity : ε), table.entities[id]? = some entity →
      ∀ reference ∈ (references entity).toList, live reference = target reference) :
    (table.restrict fun id reference => own id && target reference).ofReference =
      table.ofReference.pruneIds fun reference id => live reference &&
        (table.restrict fun id reference => own id && target reference).entities.contains id := by
  apply pruned_restrict.ext Index.pruned_pruneIds
  intro reference id
  rw [lists_ofReference_restrict, Index.lists_pruneIds, coherent.lists_ofReference]
  apply and_congr_right
  rintro ⟨entity, found, member⟩
  rw [agree id entity found reference member, Bool.and_eq_true, Bool.and_eq_true,
    Std.ExtTreeMap.contains_iff_mem, mem_restrict_iff]
  constructor
  · rintro ⟨owned, kept⟩
    exact ⟨kept, entity, found, reference, member, by rw [owned, kept]; rfl⟩
  · rintro ⟨kept, _, _, other, _, holds⟩
    rw [Bool.and_eq_true] at holds
    exact ⟨holds.1, kept⟩

theorem entities_insert {entity : ε} :
    (table.insert entity).entities[id]? =
      if identifier entity = id then some entity else table.entities[id]? := by
  rw [insert, Std.ExtTreeMap.getElem?_insert]
  simp only [Std.LawfulEqOrd.compare_eq_iff_eq]

/-- A fresh entity is added to both indices at once. -/
theorem Coherent.insert (coherent : table.Coherent) {entity : ε}
    (fresh : identifier entity ∉ table.entities) : (table.insert entity).Coherent where
  keyed := by
    intro id stored found
    rw [entities_insert] at found
    split at found
    case isTrue same => rw [← Option.some.inj found, same]
    case isFalse => exact coherent.keyed found
  located := by
    intro urn id
    rw [Std.ExtTreeMap.mem_iff_isSome_getElem?, entities_insert]
    simp only [Table.insert]
    rw [Index.lists_add, coherent.located, Std.ExtTreeMap.mem_iff_isSome_getElem?]
    grind
  lists_ofReference := by
    intro reference id
    rw [entities_insert]
    simp only [Table.insert]
    rw [Index.lists_foldl_add, coherent.lists_ofReference]
    grind
  pruned := coherent.pruned.foldl_add

end Table

end Traceability

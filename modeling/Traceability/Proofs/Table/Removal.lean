import Traceability.Proofs.Table.Basic

/-!
Contract: removing an entity, and forgetting what entities refer to.

Both are written as programs that update the entities and the indices one
after the other. On a coherent table each of them is a restriction: removing
keeps all references but those of one entity, forgetting keeps all references
but those to one target.

Owns: the two programs on one table, and their equality with restrictions.
Does not own: what a removal causes in another table.
-/

namespace Traceability.Table

open Referring

variable {ε : Type} [Referring ε]

/-- Takes an entity out, and its entries out of both indices. -/
def erase (table : Table ε) (id : Identifier) : Table ε :=
  match table.entities[id]? with
  | none => table
  | some entity =>
      { entities := table.entities.erase id
        ofUrn := table.ofUrn.remove id.urn id
        ofReference := (references entity).toList.foldl
          (fun index reference => index.prune reference id) table.ofReference }

/-- Takes the reference to `gone` from an entity, and the entity out if that
was its last. -/
def dropReference (gone : Identifier) (table : Table ε) (id : Identifier) : Table ε :=
  match table.entities[id]? with
  | none => table
  | some entity =>
      match retain? entity (· ≠ gone) with
      | some kept => { table with entities := table.entities.insert id kept }
      | none => table.erase id

/-- Takes all references to `gone` away, one entity after the other. -/
def forget (table : Table ε) (gone : Identifier) : Table ε :=
  ((table.ofReference[gone]?).getD ∅).toList.foldl (dropReference gone)
    { table with ofReference := table.ofReference.erase gone }

variable {table : Table ε} {id gone : Identifier} {entity kept : ε}

theorem erase_of_absent (absent : table.entities[id]? = none) : table.erase id = table := by
  rw [erase, absent]

theorem erase_of_found (found : table.entities[id]? = some entity) :
    table.erase id =
      { entities := table.entities.erase id
        ofUrn := table.ofUrn.remove id.urn id
        ofReference := (references entity).toList.foldl
          (fun index reference => index.prune reference id) table.ofReference } := by
  rw [erase, found]

/-- What one step does: nothing without the entity, and otherwise the entity
keeps its other references or goes with its entries. -/
theorem dropReference_cases (gone : Identifier) (table : Table ε) (id : Identifier) :
    (table.entities[id]? = none ∧ dropReference gone table id = table) ∨
    (∃ entity kept, table.entities[id]? = some entity ∧
      retain? entity (· ≠ gone) = some kept ∧
      dropReference gone table id = { table with entities := table.entities.insert id kept }) ∨
    (∃ entity, table.entities[id]? = some entity ∧ retain? entity (· ≠ gone) = none ∧
      dropReference gone table id =
        { entities := table.entities.erase id
          ofUrn := table.ofUrn.remove id.urn id
          ofReference := (references entity).toList.foldl
            (fun index reference => index.prune reference id) table.ofReference }) := by
  cases found : table.entities[id]? with
  | none => exact Or.inl ⟨rfl, by rw [dropReference, found]⟩
  | some entity =>
      cases retained : retain? entity (· ≠ gone) with
      | some kept =>
          refine Or.inr (Or.inl ⟨entity, kept, rfl, retained, ?_⟩)
          simp only [dropReference, found, retained]
      | none =>
          refine Or.inr (Or.inr ⟨entity, rfl, retained, ?_⟩)
          simp only [dropReference, found, retained, erase_of_found found]

/-! ### Removing -/

theorem entities_restrict_ne :
    (table.restrict fun other _ => other ≠ id).entities = table.entities.erase id := by
  apply Std.ExtTreeMap.ext_getElem?
  intro other
  rw [entities_restrict, Std.ExtTreeMap.getElem?_erase]
  split
  case isTrue same =>
    obtain rfl := Std.LawfulEqOrd.eq_of_compare same
    cases table.entities[id]? with
    | none => rfl
    | some entity => simp [retain?_eq_none_iff]
  case isFalse different =>
    have apart : other ≠ id := by
      rintro rfl
      exact different Std.ReflOrd.compare_self
    cases table.entities[other]? with
    | none => rfl
    | some entity => exact retain?_eq_self (by simp [apart])

theorem Coherent.erase_eq_restrict (coherent : table.Coherent) :
    table.erase id = table.restrict fun other _ => other ≠ id := by
  cases found : table.entities[id]? with
  | none =>
      rw [erase_of_absent found, coherent.restrict_eq_self]
      intro other entity otherFound reference _
      have apart : other ≠ id := by
        rintro rfl
        rw [found] at otherFound
        contradiction
      simp [apart]
  | some entity =>
      rw [erase_of_found found]
      apply Table.ext
      · exact entities_restrict_ne.symm
      · apply Index.ext_lists
        · intro urn
          rw [Index.mem_remove, mem_ofUrn_restrict]
        · intro urn other
          rw [Index.lists_remove, lists_ofUrn_restrict, entities_restrict_ne, coherent.located,
            Std.ExtTreeMap.mem_erase, ne_eq, Std.LawfulEqOrd.compare_eq_iff_eq]
          grind
      · apply coherent.pruned.foldl_prune.ext pruned_restrict
        intro reference other
        rw [Index.lists_foldl_prune, lists_ofReference_restrict, coherent.lists_ofReference]
        grind

/-! ### Forgetting

While references to `gone` are taken away, the index by reference no longer
lists anything under `gone` and does not change. -/

/-- The entities that a list of steps leaves. -/
def keepsUnless (gone : Identifier) (ids : List Identifier) (id reference : Identifier) : Bool :=
  !(reference = gone && ids.contains id)

theorem entities_restrict_keepsUnless {other : Identifier} :
    (table.restrict (keepsUnless gone [id])).entities[other]? =
      if other = id then (table.entities[id]?).bind fun entity => retain? entity (· ≠ gone)
      else table.entities[other]? := by
  rw [entities_restrict]
  split
  case isTrue same =>
    subst same
    cases table.entities[other]? with
    | none => rfl
    | some entity => exact retain?_congr (by simp [keepsUnless])
  case isFalse apart =>
    cases table.entities[other]? with
    | none => rfl
    | some entity => exact retain?_eq_self (by simp [keepsUnless, apart])

theorem entities_dropReference :
    (dropReference gone table id).entities =
      (table.restrict (keepsUnless gone [id])).entities := by
  apply Std.ExtTreeMap.ext_getElem?
  intro other
  rw [entities_restrict_keepsUnless]
  rcases dropReference_cases gone table id with
    ⟨absent, step⟩ | ⟨entity, kept, found, retained, step⟩ | ⟨entity, found, last, step⟩
  · rw [step]
    grind
  · rw [step, Std.ExtTreeMap.getElem?_insert]
    simp only [Std.LawfulEqOrd.compare_eq_iff_eq]
    grind
  · rw [step, Std.ExtTreeMap.getElem?_erase]
    simp only [Std.LawfulEqOrd.compare_eq_iff_eq]
    grind

theorem mem_of_mem_foldl_dropReference (gone : Identifier) (ids : List Identifier)
    (table : Table ε) :
    ∀ other ∈ (ids.foldl (dropReference gone) table).entities, other ∈ table.entities := by
  induction ids generalizing table with
  | nil => exact fun _ member => member
  | cons head tail inductionHypothesis =>
      intro other member
      have afterHead := inductionHypothesis (dropReference gone table head) other member
      rw [entities_dropReference] at afterHead
      exact mem_of_mem_restrict afterHead

theorem mem_ofUrn_dropReference {urn : String} :
    urn ∈ (dropReference gone table id).ofUrn ↔ urn ∈ table.ofUrn := by
  rcases dropReference_cases gone table id with
    ⟨absent, step⟩ | ⟨entity, kept, found, retained, step⟩ | ⟨entity, found, last, step⟩
  · rw [step]
  · rw [step]
  · rw [step, Index.mem_remove]

theorem lists_ofUrn_dropReference (located : table.Located) {urn : String} {other : Identifier} :
    (dropReference gone table id).ofUrn.lists urn other ↔
      table.ofUrn.lists urn other ∧ other ∈ (dropReference gone table id).entities := by
  rcases dropReference_cases gone table id with
    ⟨absent, step⟩ | ⟨entity, kept, found, retained, step⟩ | ⟨entity, found, last, step⟩
  · rw [step, located]
    grind
  · rw [step, located, Std.ExtTreeMap.mem_insert]
    grind
  · rw [step, Index.lists_remove, located, Std.ExtTreeMap.mem_erase, ne_eq,
      Std.LawfulEqOrd.compare_eq_iff_eq]
    grind

theorem ofReference_dropReference (absent : gone ∉ table.ofReference) :
    (dropReference gone table id).ofReference = table.ofReference := by
  rcases dropReference_cases gone table id with
    ⟨_, step⟩ | ⟨entity, kept, found, retained, step⟩ | ⟨entity, found, last, step⟩
  · rw [step]
  · rw [step]
  · rw [step]
    apply Index.foldl_prune_of_not_mem
    intro reference member
    have onlyGone := retain?_eq_none_iff.mp last reference member
    have same : reference = gone := by simpa using onlyGone
    rwa [same]

theorem dropReference_eq (located : table.Located) (absent : gone ∉ table.ofReference) :
    dropReference gone table id =
      { table.restrict (keepsUnless gone [id]) with ofReference := table.ofReference } := by
  apply Table.ext
  · exact entities_dropReference
  · apply Index.ext_lists
    · intro urn
      rw [mem_ofUrn_dropReference, mem_ofUrn_restrict]
    · intro urn other
      rw [lists_ofUrn_dropReference located, lists_ofUrn_restrict, entities_dropReference]
  · exact ofReference_dropReference absent

theorem foldl_dropReference_eq (located : table.Located) (absent : gone ∉ table.ofReference)
    (ids : List Identifier) :
    ids.foldl (dropReference gone) table =
      { table.restrict (keepsUnless gone ids) with ofReference := table.ofReference } := by
  induction ids generalizing table with
  | nil =>
      have sameEntities : (table.restrict (keepsUnless gone [])).entities = table.entities :=
        entities_restrict_eq_self (by simp [keepsUnless])
      apply Table.ext
      · exact sameEntities.symm
      · exact (located.ofUrn_restrict_eq_self fun id => by rw [sameEntities]).symm
      · rfl
  | cons head tail inductionHypothesis =>
      have both : (table.restrict (keepsUnless gone [head])).restrict (keepsUnless gone tail) =
          table.restrict (keepsUnless gone (head :: tail)) := by
        rw [restrict_restrict]
        congr 1
        funext id reference
        simp [keepsUnless]
        grind
      rw [List.foldl_cons, dropReference_eq located absent, inductionHypothesis, ← both]
      · rfl
      · exact located.restrict
      · exact absent

theorem Coherent.forget_eq_restrict (coherent : table.Coherent) :
    table.forget gone = table.restrict fun _ reference => reference ≠ gone := by
  have sameRestriction :
      table.restrict (keepsUnless gone ((table.ofReference[gone]?).getD ∅).toList) =
        table.restrict fun _ reference => reference ≠ gone := by
    apply coherent.restrict_congr
    intro other entity found reference member
    by_cases same : reference = gone
    · subst same
      have listed : other ∈ (table.ofReference[reference]?).getD ∅ :=
        Index.mem_getD_iff.mpr (coherent.lists_ofReference.mpr ⟨entity, found, member⟩)
      simp [keepsUnless, listed]
    · simp [keepsUnless, same]
  rw [forget, foldl_dropReference_eq]
  · rw [← sameRestriction]
    apply Table.ext
    · rfl
    · rfl
    rw [sameRestriction]
    apply coherent.pruned.erase.ext pruned_restrict
    intro reference other
    rw [Index.lists_erase, lists_ofReference_restrict, decide_eq_true_iff]
  · exact coherent.located
  · simp

end Traceability.Table

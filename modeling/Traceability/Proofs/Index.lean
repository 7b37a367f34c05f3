import Traceability.Model.Basic
import Traceability.Proofs.Collections

/-!
Contract: what the operations on an index do to the entries it lists.

An index is determined by its keys and by the entries it lists under them. One
without empty keys is determined by its entries alone. Every operation is
described by these two views, so that equal indices need not be compared key
by key.

Owns: the two views, and the two ways to keep only some of the entries.
Does not own: which entries an index should list.
-/

namespace Traceability.Index

variable {κ : Type} [Ord κ] [Std.TransOrd κ]

/-- Keeps the listed identifiers that satisfy `keep`, and every key. -/
def filterIds (index : Index κ) (keep : Identifier → Bool) : Index κ :=
  index.map fun _ ids => ids.filter keep

/-- Keeps the entries that satisfy `keep`, and the keys that still list one. -/
def pruneIds (index : Index κ) (keep : κ → Identifier → Bool) : Index κ :=
  index.filterMap fun key ids =>
    if (ids.filter (keep key)).isEmpty then none else some (ids.filter (keep key))

/-- No key lists nothing. -/
def Pruned (index : Index κ) : Prop := ∀ key : κ, index[key]? ≠ some (∅ : IdentifierSet)

section Views

variable {index : Index κ} {key : κ} {id : Identifier}

theorem lists_iff : index.lists key id ↔ ∃ ids, index[key]? = some ids ∧ id ∈ ids := by
  simp [lists, Option.any_eq_true]

theorem mem_getD_iff : id ∈ (index[key]?).getD ∅ ↔ index.lists key id := by
  rw [lists_iff]
  cases index[key]? <;> simp

theorem mem_of_lists (listed : index.lists key id) : key ∈ index := by
  obtain ⟨ids, found, _⟩ := lists_iff.mp listed
  exact mem_iff_exists_getElem?.mpr ⟨ids, found⟩

theorem Pruned.mem_iff (pruned : index.Pruned) : key ∈ index ↔ ∃ id, index.lists key id := by
  constructor
  · intro member
    obtain ⟨ids, found⟩ := mem_iff_exists_getElem?.mp member
    have nonempty : ids ≠ ∅ := by
      rintro rfl
      exact pruned key found
    rw [ne_eq, Std.ExtTreeSet.eq_empty_iff_forall_not_mem] at nonempty
    simp only [Classical.not_forall, Classical.not_not] at nonempty
    obtain ⟨id, member⟩ := nonempty
    exact ⟨id, lists_iff.mpr ⟨ids, found, member⟩⟩
  · rintro ⟨id, listed⟩
    exact mem_of_lists listed

theorem pruned_empty : (∅ : Index κ).Pruned := by
  intro key
  simp

@[simp] theorem lists_empty : (∅ : Index κ).lists key id = false := by
  simp [lists]

end Views

variable [Std.LawfulEqOrd κ] {index left right : Index κ} {key target : κ} {id other : Identifier}

/-- Indices with the same keys and the same entries are equal. -/
theorem ext_lists (sameKeys : ∀ key, key ∈ left ↔ key ∈ right)
    (sameEntries : ∀ key id, left.lists key id ↔ right.lists key id) : left = right := by
  apply Std.ExtTreeMap.ext_getElem?
  intro key
  have keys := sameKeys key
  rw [Std.ExtTreeMap.mem_iff_isSome_getElem?, Std.ExtTreeMap.mem_iff_isSome_getElem?] at keys
  have entries := sameEntries key
  simp only [lists_iff] at entries
  cases leftFound : left[key]? with
  | none =>
      rw [leftFound] at keys
      cases rightFound : right[key]? with
      | none => rfl
      | some ids => simp [rightFound] at keys
  | some leftIds =>
      rw [leftFound] at keys
      cases rightFound : right[key]? with
      | none => simp [rightFound] at keys
      | some rightIds =>
          apply congrArg some
          apply Std.ExtTreeSet.ext_mem
          intro id
          simpa [leftFound, rightFound] using entries id

/-- Indices without empty keys that list the same entries are equal. -/
theorem Pruned.ext (leftPruned : left.Pruned) (rightPruned : right.Pruned)
    (sameEntries : ∀ key id, left.lists key id ↔ right.lists key id) : left = right := by
  apply ext_lists _ sameEntries
  intro key
  rw [leftPruned.mem_iff, rightPruned.mem_iff]
  exact exists_congr (sameEntries key)

private theorem getElem?_alter_other (change : Option IdentifierSet → Option IdentifierSet)
    (different : target ≠ key) : (index.alter target change)[key]? = index[key]? := by
  rw [Std.ExtTreeMap.getElem?_alter, if_neg]
  exact mt Std.LawfulEqOrd.eq_of_compare different

private theorem mem_erase_iff {ids : IdentifierSet} :
    id ∈ ids.erase other ↔ id ∈ ids ∧ id ≠ other := by
  rw [Std.ExtTreeSet.mem_erase, ne_eq, Std.LawfulEqOrd.compare_eq_iff_eq, and_comm, ne_comm]

private theorem exists_unless_empty_iff {ids : IdentifierSet} :
    (∃ kept, (if ids.isEmpty then none else some ids) = some kept ∧ id ∈ kept) ↔ id ∈ ids := by
  by_cases empty : ids = ∅ <;> simp [empty]

private theorem unless_empty_ne_some_empty {ids : IdentifierSet} :
    (if ids.isEmpty then none else some ids) ≠ some (∅ : IdentifierSet) := by
  by_cases empty : ids = ∅ <;> simp [empty]

/-! ### Adding -/

@[simp] theorem lists_addKey : (index.addKey target).lists key id = index.lists key id := by
  rw [Bool.eq_iff_iff, lists_iff, lists_iff, addKey]
  by_cases same : target = key
  · subst same
    rw [Std.ExtTreeMap.getElem?_alter_self]
    cases index[target]? <;> simp
  · rw [getElem?_alter_other _ same]

theorem lists_add :
    (index.add target other).lists key id ↔ (target = key ∧ other = id) ∨ index.lists key id := by
  rw [lists_iff, lists_iff, add]
  by_cases same : target = key
  · subst same
    rw [Std.ExtTreeMap.getElem?_alter_self]
    cases index[target]? <;> simp
  · rw [getElem?_alter_other _ same]
    simp [same]

theorem Pruned.add (pruned : index.Pruned) : (index.add target other).Pruned := by
  intro key
  rw [Index.add]
  by_cases same : target = key
  · subst same
    simp
  · rw [getElem?_alter_other _ same]
    exact pruned key

theorem lists_foldl_add {references : List κ} :
    (references.foldl (fun index reference => index.add reference other) index).lists key id ↔
      (key ∈ references ∧ other = id) ∨ index.lists key id := by
  induction references generalizing index with
  | nil => simp
  | cons head tail inductionHypothesis =>
      rw [List.foldl_cons, inductionHypothesis, lists_add, List.mem_cons]
      grind

theorem Pruned.foldl_add (pruned : index.Pruned) {references : List κ} :
    (references.foldl (fun index reference => index.add reference other) index).Pruned := by
  induction references generalizing index with
  | nil => exact pruned
  | cons head tail inductionHypothesis => exact inductionHypothesis pruned.add

/-! ### Removing -/

omit [Std.LawfulEqOrd κ] in
theorem mem_remove : key ∈ index.remove target other ↔ key ∈ index :=
  Std.ExtTreeMap.mem_modify

theorem lists_remove :
    (index.remove target other).lists key id ↔
      index.lists key id ∧ ¬(key = target ∧ id = other) := by
  rw [lists_iff, lists_iff, remove]
  by_cases same : target = key
  · subst same
    rw [Std.ExtTreeMap.getElem?_modify_self]
    cases index[target]? with
    | none => simp
    | some ids =>
        simp only [Option.map_some, Option.some.injEq, exists_eq_left', mem_erase_iff]
        simp
  · rw [Std.ExtTreeMap.getElem?_modify, if_neg (mt Std.LawfulEqOrd.eq_of_compare same)]
    simp [Ne.symm same]

theorem lists_prune :
    (index.prune target other).lists key id ↔
      index.lists key id ∧ ¬(key = target ∧ id = other) := by
  rw [lists_iff, lists_iff, prune]
  by_cases same : target = key
  · subst same
    rw [Std.ExtTreeMap.getElem?_alter_self]
    cases index[target]? with
    | none => simp
    | some ids =>
        simp only [exists_unless_empty_iff, mem_erase_iff]
        simp
  · rw [getElem?_alter_other _ same]
    simp [Ne.symm same]

theorem Pruned.prune (pruned : index.Pruned) : (index.prune target other).Pruned := by
  intro key
  rw [Index.prune]
  by_cases same : target = key
  · subst same
    rw [Std.ExtTreeMap.getElem?_alter_self]
    cases index[target]? with
    | none => simp
    | some ids => exact unless_empty_ne_some_empty
  · rw [getElem?_alter_other _ same]
    exact pruned key

theorem lists_foldl_prune {references : List κ} :
    (references.foldl (fun index reference => index.prune reference other) index).lists key id ↔
      index.lists key id ∧ ¬(key ∈ references ∧ id = other) := by
  induction references generalizing index with
  | nil => simp
  | cons head tail inductionHypothesis =>
      rw [List.foldl_cons, inductionHypothesis, lists_prune, List.mem_cons]
      grind

theorem Pruned.foldl_prune (pruned : index.Pruned) {references : List κ} :
    (references.foldl (fun index reference => index.prune reference other) index).Pruned := by
  induction references generalizing index with
  | nil => exact pruned
  | cons head tail inductionHypothesis => exact inductionHypothesis pruned.prune

/-- Nothing is pruned under keys that are not there. -/
theorem foldl_prune_of_not_mem {references : List κ}
    (absent : ∀ reference ∈ references, reference ∉ index) :
    references.foldl (fun index reference => index.prune reference other) index = index := by
  induction references with
  | nil => rfl
  | cons head tail inductionHypothesis =>
      have unchanged : index.prune head other = index := by
        have headAbsent := absent head (by simp)
        apply Std.ExtTreeMap.ext_getElem?
        intro key
        by_cases same : head = key
        · subst same
          rw [prune, Std.ExtTreeMap.getElem?_alter_self, Std.ExtTreeMap.getElem?_eq_none headAbsent]
        · rw [prune, getElem?_alter_other _ same]
      rw [List.foldl_cons, unchanged]
      exact inductionHypothesis fun reference member => absent reference (by simp [member])

theorem lists_erase : lists (index.erase target) key id ↔ index.lists key id ∧ key ≠ target := by
  rw [lists_iff, lists_iff, Std.ExtTreeMap.getElem?_erase]
  by_cases same : target = key
  · simp [same]
  · rw [if_neg (mt Std.LawfulEqOrd.eq_of_compare same)]
    simp [Ne.symm same]

omit [Std.LawfulEqOrd κ] in
theorem Pruned.erase (pruned : index.Pruned) : Pruned (index.erase target) := by
  intro key
  rw [Std.ExtTreeMap.getElem?_erase]
  split
  · simp
  · exact pruned key

/-! ### Keeping -/

omit [Std.LawfulEqOrd κ] in
theorem mem_filterIds {keep : Identifier → Bool} : key ∈ index.filterIds keep ↔ key ∈ index :=
  Std.ExtTreeMap.mem_map

theorem lists_filterIds {keep : Identifier → Bool} :
    (index.filterIds keep).lists key id ↔ index.lists key id ∧ keep id := by
  rw [lists_iff, lists_iff, filterIds, Std.ExtTreeMap.getElem?_map]
  cases index[key]? <;> simp

theorem lists_pruneIds {keep : κ → Identifier → Bool} :
    (index.pruneIds keep).lists key id ↔ index.lists key id ∧ keep key id := by
  rw [lists_iff, lists_iff, pruneIds, Std.ExtTreeMap.getElem?_filterMap']
  cases index[key]? with
  | none => simp
  | some ids =>
      simp only [Option.bind_some, exists_unless_empty_iff]
      simp

theorem pruned_pruneIds {keep : κ → Identifier → Bool} : (index.pruneIds keep).Pruned := by
  intro key
  rw [pruneIds, Std.ExtTreeMap.getElem?_filterMap']
  cases index[key]? with
  | none => simp
  | some ids => exact unless_empty_ne_some_empty

end Traceability.Index

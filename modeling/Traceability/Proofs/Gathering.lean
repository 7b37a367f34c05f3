import Traceability.Model.Merge
import Traceability.Proofs.Collections

/-!
Contract: lists of values gathered under identifiers.

Values come in groups, each with the identifier that it belongs to, and several
groups may belong to one. Appending them one after the other leaves under an
identifier what its groups hold, in their order, and nothing is lost or repeated
on the way.

Owns: what is gathered, under one identifier and all together.
Does not own: where the groups come from.
-/

namespace Traceability

variable {α : Type}

/-- Appends every group under its identifier. -/
def gather (lists : IdentifierMap (List α)) (groups : List (Identifier × List α)) :
    IdentifierMap (List α) :=
  groups.foldl (fun lists group => appendUnder lists group.1 group.2) lists

/-- What the groups of an identifier hold. -/
def gathered (groups : List (Identifier × List α)) (id : Identifier) : List α :=
  (groups.filter fun group => group.1 = id).flatMap Prod.snd

variable {lists : IdentifierMap (List α)} {groups : List (Identifier × List α)}
  {id key : Identifier} {values : List α}

theorem appendUnder_eq_insert :
    appendUnder lists id values = lists.insert id ((lists[id]?).getD [] ++ values) := by
  apply Std.ExtTreeMap.ext_getElem?
  intro key
  rw [appendUnder, Std.ExtTreeMap.getElem?_alter, Std.ExtTreeMap.getElem?_insert]

theorem getElem?_appendUnder :
    (appendUnder lists id values)[key]? =
      if id = key then some ((lists[id]?).getD [] ++ values) else lists[key]? := by
  rw [appendUnder, Std.ExtTreeMap.getElem?_alter]
  simp only [Std.LawfulEqOrd.compare_eq_iff_eq]

theorem gathered_cons (group : Identifier × List α) :
    gathered (group :: groups) key =
      (if group.1 = key then group.2 else []) ++ gathered groups key := by
  by_cases same : group.1 = key
  · simp [gathered, same]
  · simp [gathered, same]

theorem gathered_eq_nil (absent : key ∉ groups.map Prod.fst) : gathered groups key = [] := by
  have noGroup : groups.filter (fun group => group.1 = key) = [] := by
    simp only [List.filter_eq_nil_iff, decide_eq_true_eq]
    intro group member same
    exact absent (List.mem_map.mpr ⟨group, member, same⟩)
  rw [gathered, noGroup, List.flatMap_nil]

/-- What is under an identifier that has groups stays in front of them. -/
theorem getElem?_gather :
    (gather lists groups)[key]? =
      if key ∈ groups.map Prod.fst then some ((lists[key]?).getD [] ++ gathered groups key)
      else lists[key]? := by
  induction groups generalizing lists with
  | nil => simp [gather]
  | cons group groups inductionHypothesis =>
      have split : gather lists (group :: groups) =
          gather (appendUnder lists group.1 group.2) groups := rfl
      rw [split, inductionHypothesis, getElem?_appendUnder, gathered_cons]
      by_cases same : group.1 = key
      · by_cases later : key ∈ groups.map Prod.fst
        · simp [same, later, List.append_assoc]
        · simp [same, later, gathered_eq_nil later]
      · have later : key ∈ (group :: groups).map Prod.fst ↔ key ∈ groups.map Prod.fst := by
          simp [eq_comm (a := key), same]
        simp only [later, same, if_false, List.nil_append]

theorem getElem?_gather_empty :
    (gather (∅ : IdentifierMap (List α)) groups)[key]? =
      if key ∈ groups.map Prod.fst then some (gathered groups key) else none := by
  simp [getElem?_gather]

theorem mem_gather_empty :
    key ∈ gather (∅ : IdentifierMap (List α)) groups ↔ key ∈ groups.map Prod.fst := by
  rw [mem_iff_exists_getElem?, getElem?_gather_empty]
  split
  next present => simp [present]
  next absent => simp [absent]

/-- Single values come together in the order in which they are, and an identifier
of none has no list. -/
theorem getElem?_gather_single {β : Type} (entries : List β) (idOf : β → Identifier)
    (valueOf : β → α) :
    (gather (∅ : IdentifierMap (List α))
        (entries.map fun entry => (idOf entry, [valueOf entry])))[key]? =
      if entries.filter (idOf · = key) = [] then none
      else some ((entries.filter (idOf · = key)).map valueOf) := by
  have under : gathered (entries.map fun entry => (idOf entry, [valueOf entry])) key =
      (entries.filter (idOf · = key)).map valueOf := by
    rw [gathered, List.filter_map, List.flatMap_map, ← List.flatMap_pure_eq_map]
    rfl
  have absent : key ∉ (entries.map fun entry => (idOf entry, [valueOf entry])).map Prod.fst ↔
      entries.filter (idOf · = key) = [] := by
    simp
  rw [getElem?_gather_empty, under]
  simp only [← absent, ite_not]

/-! ### All values together -/

/-- One entry can be taken out of a map. -/
theorem toList_perm_cons_erase (found : lists[id]? = some values) :
    lists.toList.Perm ((id, values) :: (lists.erase id).toList) := by
  have fresh : ((id, values) :: (lists.erase id).toList).Nodup := by
    rw [List.nodup_cons]
    exact ⟨by simp, nodup_toList⟩
  rw [List.perm_ext_iff_of_nodup nodup_toList fresh]
  intro (key, stored)
  simp only [List.mem_cons, Prod.mk.injEq, Std.ExtTreeMap.mem_toList_iff_getElem?_eq_some,
    Std.ExtTreeMap.getElem?_erase, Std.LawfulEqOrd.compare_eq_iff_eq]
  by_cases same : id = key
  · subst same
    simp [found, eq_comm]
  · simp [same, Ne.symm same]

theorem erase_eq_self_of_absent (absent : lists[id]? = none) : lists.erase id = lists := by
  apply Std.ExtTreeMap.ext_getElem?
  intro key
  rw [Std.ExtTreeMap.getElem?_erase]
  split
  next same => rw [← Std.LawfulEqOrd.eq_of_compare same, absent]
  next => rfl

/-- All values are those under an identifier and the others. -/
theorem flatMap_toList_perm (lists : IdentifierMap (List α)) (id : Identifier) :
    (lists.toList.flatMap Prod.snd).Perm
      ((lists[id]?).getD [] ++ (lists.erase id).toList.flatMap Prod.snd) := by
  cases found : lists[id]? with
  | none => simp [erase_eq_self_of_absent found]
  | some values => simpa using (toList_perm_cons_erase found).flatMap_right Prod.snd

/-- A group adds its values to all that there are. -/
theorem flatMap_appendUnder_perm :
    ((appendUnder lists id values).toList.flatMap Prod.snd).Perm
      (lists.toList.flatMap Prod.snd ++ values) := by
  have here : ((appendUnder lists id values)[id]?).getD [] = (lists[id]?).getD [] ++ values := by
    rw [getElem?_appendUnder, if_pos rfl, Option.getD_some]
  have elsewhere : (appendUnder lists id values).erase id = lists.erase id := by
    apply Std.ExtTreeMap.ext_getElem?
    intro key
    simp only [Std.ExtTreeMap.getElem?_erase, getElem?_appendUnder,
      Std.LawfulEqOrd.compare_eq_iff_eq]
    split <;> rfl
  have after := flatMap_toList_perm (appendUnder lists id values) id
  rw [here, elsewhere, List.append_assoc] at after
  have moved : (values ++ (lists.erase id).toList.flatMap Prod.snd).Perm
      ((lists.erase id).toList.flatMap Prod.snd ++ values) := List.perm_append_comm
  have before := (flatMap_toList_perm lists id).append_right values
  rw [List.append_assoc] at before
  exact after.trans ((moved.append_left _).trans before.symm)

/-- Gathering loses nothing and repeats nothing. -/
theorem flatMap_gather_perm :
    ((gather lists groups).toList.flatMap Prod.snd).Perm
      (lists.toList.flatMap Prod.snd ++ groups.flatMap Prod.snd) := by
  induction groups generalizing lists with
  | nil => simp [gather]
  | cons group groups inductionHypothesis =>
      have split : gather lists (group :: groups) =
          gather (appendUnder lists group.1 group.2) groups := rfl
      rw [split, List.flatMap_cons, ← List.append_assoc]
      exact inductionHypothesis.trans (flatMap_appendUnder_perm.append_right _)

theorem flatMap_gather_empty_perm :
    ((gather (∅ : IdentifierMap (List α)) groups).toList.flatMap Prod.snd).Perm
      (groups.flatMap Prod.snd) :=
  flatMap_gather_perm

end Traceability

import Traceability.Document.Automation
import Traceability.Proofs.Document.Entries
import Traceability.Proofs.Gathering

/-!
Contract: the entries of a document together.

Records are added one by one, and none replaces another, since two entries that
name the same are refused. Rules are under the targets of the filters. Texts
that name the same may well stand in front of several lists of annotations,
which are then put together in the order of the texts.

Owns: when entries can be put together, and what comes of it.
Does not own: single entries, and documents with more than one kind of them.
-/

namespace Traceability.Document

variable {α β : Type} {urn : String}

/-! ### One record for each entry -/

/-- No two of the texts name the same identifier. -/
def Distinct (urn : String) (texts : List String) : Prop :=
  texts.Pairwise fun first second => ∀ id, Names urn first id → ¬Names urn second id

/-- Every entry has made one of the records, and each record is under its own
identifier. -/
structure OneEach (Makes : α → β → Prop) (idOf : β → Identifier) (entries : List α)
    (records : IdentifierMap β) : Prop where
  keyed : ∀ id record, records[id]? = some record → idOf record = id
  made : ∃ made, List.Forall₂ Makes entries made ∧ records.values.Perm made

/-- Makes a record of every entry, and adds it unless there is one of its name. -/
def collect (make : α → Except Error β) (idOf : β → Identifier) (entries : List α) :
    Except Error (IdentifierMap β) :=
  entries.foldlM (fun records entry =>
    make entry >>= fun record => insertNew records (idOf record) record) ∅

section Collecting

variable {make : α → Except Error β} {idOf : β → Identifier} {textOf : α → String}
  {Makes : α → β → Prop} {entries : List α} {made : List β} {before records : IdentifierMap β}
  {id : Identifier} {record : β}

theorem distinct_iff_nodup {texts : List String} {ids : List Identifier}
    (named : List.Forall₂ (Names urn) texts ids) : Distinct urn texts ↔ ids.Nodup := by
  induction named with
  | nil => simp [Distinct]
  | @cons text id texts ids first others inductionHypothesis =>
      have apart : (∀ other ∈ texts, ∀ id, Names urn text id → ¬Names urn other id) ↔ id ∉ ids := by
        rw [mem_iff_of_names others]
        constructor
        · intro apart ⟨other, member, again⟩
          exact apart other member id first again
        · intro absent other member named fromFirst again
          exact absent ⟨other, member, first.unique fromFirst ▸ again⟩
      rw [Distinct, List.pairwise_cons, List.nodup_cons, apart]
      exact and_congr_right' inductionHypothesis

theorem insertNew_eq_ok_iff :
    insertNew before id record = .ok records ↔
      before[id]? = none ∧ before.insert id record = records := by
  unfold insertNew
  rw [Std.ExtTreeMap.contains_eq_isSome_getElem?]
  cases before[id]? with
  | none => simp
  | some existing => simp

theorem foldlM_insertNew_eq_ok_iff :
    made.foldlM (fun records record => insertNew records (idOf record) record) before =
        .ok records ↔
      (made.map idOf).Nodup ∧ (∀ record ∈ made, before[idOf record]? = none) ∧
        before.insertMany (made.map fun record => (idOf record, record)) = records := by
  -- A record may clash with one of the list or with one from before, hence both conditions.
  induction made generalizing before with
  | nil => simp [pure, Except.pure]
  | cons record made inductionHypothesis =>
      have untouched (other : Identifier) :
          (before.insert (idOf record) record)[other]? = none ↔
            idOf record ≠ other ∧ before[other]? = none := by
        rw [Std.ExtTreeMap.getElem?_insert]
        by_cases same : idOf record = other
        · simp [same]
        · simp [same]
      have fresh_iff :
          (∀ other ∈ made, (before.insert (idOf record) record)[idOf other]? = none) ↔
            idOf record ∉ made.map idOf ∧ ∀ other ∈ made, before[idOf other]? = none := by
        simp only [untouched, List.mem_map, not_exists, not_and, ← forall_and, ne_comm, ne_eq]
      rw [List.foldlM_cons, bind_eq_ok_iff]
      simp only [insertNew_eq_ok_iff, inductionHypothesis, List.map_cons, List.nodup_cons,
        List.forall_mem_cons, Std.ExtTreeMap.insertMany_cons]
      constructor
      · intro ⟨_, ⟨free, inserted⟩, nodup, fresh, all⟩
        subst inserted
        obtain ⟨apart, fresh⟩ := fresh_iff.mp fresh
        exact ⟨⟨apart, nodup⟩, ⟨free, fresh⟩, all⟩
      · intro ⟨⟨apart, nodup⟩, ⟨free, fresh⟩, all⟩
        exact ⟨_, ⟨free, rfl⟩, nodup, fresh_iff.mpr ⟨apart, fresh⟩, all⟩

theorem collect_eq_ok_iff :
    collect make idOf entries = .ok records ↔
      ∃ made, List.Forall₂ (fun entry record => make entry = .ok record) entries made ∧
        (made.map idOf).Nodup ∧
        Std.ExtTreeMap.ofList (made.map fun record => (idOf record, record)) = records := by
  unfold collect
  rw [foldlM_read_eq_ok_iff]
  simp [foldlM_insertNew_eq_ok_iff, Std.ExtTreeMap.ofList_eq_insertMany_empty]

/-- Entries are collected if each makes a record and no two name the same. -/
theorem exists_collect_iff
    (named : ∀ {entry record}, make entry = .ok record → Names urn (textOf entry) (idOf record)) :
    (∃ records, collect make idOf entries = .ok records) ↔
      (∀ entry ∈ entries, ∃ record, make entry = .ok record) ∧
        Distinct urn (entries.map textOf) := by
  have distinct_iff {made : List β}
      (makes : List.Forall₂ (fun entry record => make entry = .ok record) entries made) :
      Distinct urn (entries.map textOf) ↔ (made.map idOf).Nodup := by
    apply distinct_iff_nodup
    rw [List.forall₂_map_left_iff, List.forall₂_map_right_iff]
    exact makes.imp fun _ _ => named
  simp only [collect_eq_ok_iff, ← exists_forall₂_iff]
  constructor
  · intro ⟨records, made, makes, nodup, _⟩
    exact ⟨⟨made, makes⟩, (distinct_iff makes).mpr nodup⟩
  · intro ⟨⟨made, makes⟩, distinct⟩
    exact ⟨_, made, makes, (distinct_iff makes).mp distinct, rfl⟩

theorem oneEach_of_collect (makes : ∀ {entry record}, make entry = .ok record → Makes entry record)
    (collected : collect make idOf entries = .ok records) :
    OneEach Makes idOf entries records := by
  obtain ⟨made, each, nodup, rfl⟩ := collect_eq_ok_iff.mp collected
  have distinct : ((made.map fun record => (idOf record, record)).map Prod.fst).Nodup := by
    rwa [List.map_map]
  refine ⟨?_, made, each.imp fun _ _ => makes, ?_⟩
  · intro id record found
    rw [getElem?_ofList_eq_some_iff distinct] at found
    obtain ⟨_, _, same⟩ := List.mem_map.mp found
    cases same
    rfl
  · refine (values_ofList_perm distinct).trans ?_
    rw [List.map_map]
    simp [Function.comp_def]

end Collecting

/-! ### Rules -/

namespace FilterEntry

variable [PatternEngine] {entries : UrnMap FilterEntry} {rules : UrnMap FilterRule}

theorem toRules_eq_ok_iff :
    toRules entries = .ok rules ↔
      ∃ items : List (String × FilterRule),
        List.Forall₂ (fun entry item => item.1 = entry.1 ∧ entry.2.toRule entry.1 = .ok item.2)
          entries.toList items ∧
        Std.ExtTreeMap.ofList items = rules := by
  have steps : toRules entries = entries.toList.foldlM (fun rules entry =>
      (entry.2.toRule entry.1 >>= fun rule => pure (entry.1, rule)) >>=
        fun item => pure (rules.insert item.1 item.2)) ∅ := by
    simp only [toRules, bind_assoc, pure_bind]
  have reads {entry : String × FilterEntry} {item : String × FilterRule} :
      (entry.2.toRule entry.1 >>= fun rule => pure (entry.1, rule)) = .ok item ↔
        item.1 = entry.1 ∧ entry.2.toRule entry.1 = .ok item.2 := by
    obtain ⟨target, rule⟩ := item
    simp only [bind_eq_ok_iff, pure, Except.pure, Except.ok.injEq, Prod.mk.injEq]
    grind
  rw [steps, foldlM_read_pure_eq_ok_iff]
  simp only [reads, Std.ExtTreeMap.ofList_eq_insertMany_empty,
    Std.ExtTreeMap.insertMany_list_eq_foldl]

/-- All entries are valid for their targets. -/
def AllValid (entries : UrnMap FilterEntry) : Prop :=
  ∀ (target : String) (entry : FilterEntry), entries[target]? = some entry → entry.Valid target

/-- Each target with an entry has the rule that the entry makes, and no other
target has one. -/
def MakesRules (entries : UrnMap FilterEntry) (rules : UrnMap FilterRule) : Prop :=
  ∀ target : String, Option.Rel (fun entry rule => entry.Makes target rule)
    entries[target]? rules[target]?

theorem exists_toRules_iff : (∃ rules, toRules entries = .ok rules) ↔ AllValid entries := by
  simp only [toRules_eq_ok_iff]
  rw [exists_comm]
  simp only [exists_and_left, exists_eq', and_true, exists_forall₂_iff, Prod.exists,
    exists_eq_left, exists_toRule_iff, Prod.forall, AllValid,
    Std.ExtTreeMap.mem_toList_iff_getElem?_eq_some]

theorem makesRules_of_toRules (made : toRules entries = .ok rules) : MakesRules entries rules := by
  obtain ⟨items, each, rfl⟩ := toRules_eq_ok_iff.mp made
  -- An item carries its target, so that the keys are distinct as those of a map are.
  have sameKeys : items.map Prod.fst = entries.toList.map Prod.fst := by
    rw [← List.forall₂_eq_eq_eq, List.forall₂_map_left_iff, List.forall₂_map_right_iff]
    exact each.flip.imp fun _ _ relates => relates.1
  have distinct : (items.map Prod.fst).Nodup := by
    rw [sameKeys, Std.ExtTreeMap.map_fst_toList_eq_keys]
    exact Std.ExtTreeMap.nodup_keys
  intro target
  cases found : entries[target]? with
  | some entry =>
      have member := Std.ExtTreeMap.mem_toList_iff_getElem?_eq_some.mpr found
      obtain ⟨⟨_, rule⟩, itemMember, rfl, ofEntry⟩ := exists_related_of_mem each member
      rw [(getElem?_ofList_eq_some_iff distinct).mpr itemMember]
      exact .some (makes_of_toRule ofEntry)
  | none =>
      have absent : target ∉ items.map Prod.fst := by
        rw [sameKeys, Std.ExtTreeMap.map_fst_toList_eq_keys, Std.ExtTreeMap.mem_keys,
          Std.ExtTreeMap.mem_iff_isSome_getElem?, found]
        simp
      have noRule : (Std.ExtTreeMap.ofList items)[target]? = none := by
        rw [Option.eq_none_iff_forall_ne_some]
        intro rule ruleFound
        rw [getElem?_ofList_eq_some_iff distinct] at ruleFound
        exact absent (List.mem_map_of_mem ruleFound)
      rw [noRule]
      exact .none

end FilterEntry

/-! ### Annotations -/

namespace AnnotationEntries

variable {entries : AnnotationEntries} {lists : IdentifierMap (List Annotation)}
  {groups : List (Identifier × List Annotation)} {id : Identifier}

/-- All texts name something. -/
def Valid (entries : AnnotationEntries) (urn : String) : Prop :=
  ∀ text ∈ entries, Resolves urn text

/-- The annotations under the texts that name `id`, in the order of the texts. -/
def under (entries : AnnotationEntries) (urn : String) (id : Identifier) : List Annotation :=
  (entries.toList.filter fun entry => Names urn entry.1 id).flatMap Prod.snd

/-- There is a list under every identifier that is named, with what stands under
its texts. All lists together hold what stands in the document. -/
structure Makes (entries : AnnotationEntries) (urn : String)
    (lists : IdentifierMap (List Annotation)) : Prop where
  mem_iff : ∀ id, id ∈ lists ↔ ∃ text ∈ entries, Names urn text id
  listed : ∀ id elements, lists[id]? = some elements → elements = entries.under urn id
  all : (lists.toList.flatMap Prod.snd).Perm (entries.toList.flatMap Prod.snd)

/-- The group under a text belongs to what the text names. -/
def Groups (urn : String) (entry : String × List Annotation)
    (group : Identifier × List Annotation) : Prop :=
  Names urn entry.1 group.1 ∧ group.2 = entry.2

theorem resolve_eq_ok_iff :
    entries.resolve urn = .ok lists ↔
      ∃ groups, List.Forall₂ (Groups urn) entries.toList groups ∧ gather ∅ groups = lists := by
  have steps : entries.resolve urn = entries.toList.foldlM (fun lists entry =>
      (Document.resolve urn entry.1 >>= fun id => pure (id, entry.2)) >>=
        fun group => pure (appendUnder lists group.1 group.2)) ∅ := by
    simp only [resolve, bind_assoc, pure_bind, appendUnder_eq_insert]
  have reads {entry : String × List Annotation} {group : Identifier × List Annotation} :
      (Document.resolve urn entry.1 >>= fun id => pure (id, entry.2)) = .ok group ↔
        Groups urn entry group := by
    simp only [bind_eq_ok_iff, Document.resolve_eq_ok_iff, pure, Except.pure, Except.ok.injEq,
      Groups]
    grind
  rw [steps, foldlM_read_pure_eq_ok_iff]
  simp only [reads]
  rfl

theorem map_fst_toList : entries.toList.map Prod.fst = entries.keys :=
  Std.ExtTreeMap.map_fst_toList_eq_keys

theorem exists_resolve_iff : (∃ lists, entries.resolve urn = .ok lists) ↔ entries.Valid urn := by
  have resolves (entry : String × List Annotation) :
      (∃ group, Groups urn entry group) ↔ Resolves urn entry.1 := by
    constructor
    · intro ⟨group, belongs⟩
      exact ⟨group.1, belongs.1⟩
    · intro ⟨id, named⟩
      exact ⟨(id, entry.2), named, rfl⟩
  have valid_iff : entries.Valid urn ↔ ∀ entry ∈ entries.toList, Resolves urn entry.1 := by
    simp only [Valid, ← Std.ExtTreeMap.mem_keys, ← map_fst_toList, List.forall_mem_map]
  simp only [resolve_eq_ok_iff, valid_iff]
  rw [exists_comm]
  simp only [exists_and_left, exists_eq', and_true, exists_forall₂_iff, resolves]

section Groups

variable {listed : List (String × List Annotation)}

theorem mem_groups_iff (belong : List.Forall₂ (Groups urn) listed groups) :
    id ∈ groups.map Prod.fst ↔ ∃ text ∈ listed.map Prod.fst, Names urn text id := by
  apply mem_iff_of_names
  rw [List.forall₂_map_left_iff, List.forall₂_map_right_iff]
  exact belong.imp fun _ _ relates => relates.1

theorem gathered_groups (belong : List.Forall₂ (Groups urn) listed groups) :
    gathered groups id = (listed.filter fun entry => Names urn entry.1 id).flatMap Prod.snd := by
  induction belong with
  | nil => rfl
  | @cons entry group listed groups first others inductionHypothesis =>
      rw [gathered_cons, inductionHypothesis, List.filter_cons, first.2]
      have named : Names urn entry.1 id ↔ group.1 = id := by
        rw [first.1.iff_eq, eq_comm]
      by_cases same : group.1 = id
      · simp [named, same]
      · simp [named, same]

theorem flatMap_groups (belong : List.Forall₂ (Groups urn) listed groups) :
    groups.flatMap Prod.snd = listed.flatMap Prod.snd := by
  induction belong with
  | nil => rfl
  | cons first others inductionHypothesis =>
      rw [List.flatMap_cons, List.flatMap_cons, inductionHypothesis, first.2]

end Groups

theorem makes_of_resolve (resolved : entries.resolve urn = .ok lists) :
    entries.Makes urn lists := by
  obtain ⟨groups, belong, rfl⟩ := resolve_eq_ok_iff.mp resolved
  refine ⟨?_, ?_, ?_⟩
  · intro id
    rw [mem_gather_empty, mem_groups_iff belong, map_fst_toList]
    simp only [Std.ExtTreeMap.mem_keys]
  · intro id elements found
    rw [getElem?_gather_empty, gathered_groups belong] at found
    split at found
    next => exact (Option.some.inj found).symm
    next => contradiction
  · rw [← flatMap_groups belong]
    exact flatMap_gather_empty_perm

end AnnotationEntries

end Traceability.Document

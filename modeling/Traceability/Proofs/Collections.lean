import Mathlib.Data.List.Forall2
import Mathlib.Data.List.Nodup
import Std.Data.ExtTreeMap

/-!
Contract: the values of an ordered map, runs through a list that may fail, lists
that are related entry by entry, and lists in order.

Owns: membership and the list of values in terms of lookups, maps that list their
entries once, results, invariants, failures and regrouping of steps that run
through a list, what is read from a list, and pairs of a list in order.
Does not own: any operation on maps.
-/

namespace Traceability

variable {α β : Type} {cmp : α → α → Ordering} [Std.TransCmp cmp]

theorem mem_iff_exists_getElem? {map : Std.ExtTreeMap α β cmp} {key : α} :
    key ∈ map ↔ ∃ value, map[key]? = some value := by
  rw [Std.ExtTreeMap.mem_iff_isSome_getElem?, Option.isSome_iff_exists]

theorem values_eq_map_snd_toList (map : Std.ExtTreeMap α β cmp) :
    map.values = map.toList.map Prod.snd := by
  obtain ⟨⟨trees⟩⟩ := map
  induction trees using Quotient.inductionOn with
  | _ tree =>
      change Std.DTreeMap.Internal.Impl.values tree.inner =
        (Std.DTreeMap.Internal.Impl.Const.toList tree.inner).map Prod.snd
      rw [Std.DTreeMap.Internal.Impl.values_eq_map_snd,
        Std.DTreeMap.Internal.Impl.Const.toList_eq_toListModel_map, List.map_map]
      rfl

theorem mem_values_iff [Std.LawfulEqCmp cmp] {map : Std.ExtTreeMap α β cmp} {value : β} :
    value ∈ map.values ↔ ∃ key : α, map[key]? = some value := by
  rw [values_eq_map_snd_toList, List.mem_map]
  constructor
  · rintro ⟨⟨key, _⟩, member, rfl⟩
    exact ⟨key, Std.ExtTreeMap.mem_toList_iff_getElem?_eq_some.mp member⟩
  · rintro ⟨key, found⟩
    exact ⟨(key, value), Std.ExtTreeMap.mem_toList_iff_getElem?_eq_some.mpr found, rfl⟩

theorem getElem?_filter_key [Std.LawfulEqCmp cmp] {map : Std.ExtTreeMap α β cmp}
    {keep : α → Bool} {key : α} :
    (map.filter fun key _ => keep key)[key]? = if keep key then map[key]? else none := by
  rw [Std.ExtTreeMap.getElem?_filter']
  cases map[key]? with
  | none => simp
  | some value => cases keep key <;> rfl

/-- Under a key that is free, an insertion takes nothing away. -/
theorem getElem?_insert_eq_some_iff [Std.LawfulEqCmp cmp] {map : Std.ExtTreeMap α β cmp}
    {key other : α} {value result : β} (free : map[key]? = none) :
    (map.insert key value)[other]? = some result ↔
      key = other ∧ value = result ∨ map[other]? = some result := by
  simp only [Std.ExtTreeMap.getElem?_insert, Std.LawfulEqCmp.compare_eq_iff_eq]
  by_cases same : key = other
  · subst same
    simp [free]
  · simp [same]

theorem nodup_toList {map : Std.ExtTreeMap α β cmp} : map.toList.Nodup := by
  apply List.Nodup.of_map Prod.fst
  rw [Std.ExtTreeMap.map_fst_toList_eq_keys]
  exact Std.ExtTreeMap.nodup_keys

/-- Under keys that are free and apart, insertions take nothing away. -/
theorem getElem?_insertMany_eq_some_iff [Std.LawfulEqCmp cmp] {map : Std.ExtTreeMap α β cmp}
    {entries : List (α × β)} {key : α} {value : β} (distinct : (entries.map Prod.fst).Nodup)
    (fresh : ∀ entry ∈ entries, map[entry.1]? = none) :
    (map.insertMany entries)[key]? = some value ↔
      (key, value) ∈ entries ∨ map[key]? = some value := by
  induction entries generalizing map with
  | nil => simp
  | cons entry entries inductionHypothesis =>
      obtain ⟨head, stored⟩ := entry
      obtain ⟨apart, distinct⟩ := List.nodup_cons.mp distinct
      have free : map[head]? = none := fresh _ List.mem_cons_self
      have stillFresh : ∀ entry ∈ entries, (map.insert head stored)[entry.1]? = none := by
        intro entry member
        have differs : head ≠ entry.1 := by
          intro same
          exact apart (List.mem_map.mpr ⟨entry, member, same.symm⟩)
        rw [Std.ExtTreeMap.getElem?_insert]
        simp [differs, fresh entry (List.mem_cons_of_mem _ member)]
      rw [Std.ExtTreeMap.insertMany_cons, inductionHypothesis distinct stillFresh,
        getElem?_insert_eq_some_iff free, List.mem_cons, Prod.mk.injEq]
      grind

/-- A list without a repeated key is a map with these entries. -/
theorem getElem?_ofList_eq_some_iff [Std.LawfulEqCmp cmp] {entries : List (α × β)} {key : α}
    {value : β} (distinct : (entries.map Prod.fst).Nodup) :
    (Std.ExtTreeMap.ofList entries cmp)[key]? = some value ↔ (key, value) ∈ entries := by
  rw [Std.ExtTreeMap.ofList_eq_insertMany_empty,
    getElem?_insertMany_eq_some_iff distinct (by simp)]
  simp

theorem values_ofList_perm [Std.LawfulEqCmp cmp] {entries : List (α × β)}
    (distinct : (entries.map Prod.fst).Nodup) :
    (Std.ExtTreeMap.ofList entries cmp).values.Perm (entries.map Prod.snd) := by
  rw [values_eq_map_snd_toList]
  apply List.Perm.map
  rw [List.perm_ext_iff_of_nodup nodup_toList (List.Nodup.of_map _ distinct)]
  intro (key, value)
  rw [Std.ExtTreeMap.mem_toList_iff_getElem?_eq_some, getElem?_ofList_eq_some_iff distinct]

theorem bind_eq_ok_iff {ε : Type} {first : Except ε α} {next : α → Except ε β} {result : β} :
    (first >>= next) = .ok result ↔ ∃ value, first = .ok value ∧ next value = .ok result := by
  cases first with
  | error failure => simp [bind, Except.bind]
  | ok value => simp [bind, Except.bind]

theorem bind_eq_error_iff {ε : Type} {first : Except ε α} {next : α → Except ε β} {failure : ε} :
    (first >>= next) = .error failure ↔
      first = .error failure ∨ ∃ value, first = .ok value ∧ next value = .error failure := by
  cases first with
  | error failure => simp [bind, Except.bind]
  | ok value => simp [bind, Except.bind]

theorem both_eq_ok_iff {ε γ : Type} {first : Except ε α} {second : Except ε β}
    {combine : α → β → γ} {result : γ} :
    (first >>= fun left => second >>= fun right => pure (combine left right)) = .ok result ↔
      ∃ left right, first = .ok left ∧ second = .ok right ∧ combine left right = result := by
  simp only [bind_eq_ok_iff, pure, Except.pure, Except.ok.injEq, exists_and_left]

theorem exists_both_iff {ε γ : Type} {first : Except ε α} {second : Except ε β}
    {combine : α → β → γ} :
    (∃ result, (first >>= fun left => second >>= fun right => pure (combine left right)) =
      .ok result) ↔ (∃ left, first = .ok left) ∧ ∃ right, second = .ok right := by
  simp only [both_eq_ok_iff]
  constructor
  · intro ⟨_, left, right, isLeft, isRight, _⟩
    exact ⟨⟨left, isLeft⟩, right, isRight⟩
  · intro ⟨⟨left, isLeft⟩, right, isRight⟩
    exact ⟨_, left, right, isLeft, isRight, rfl⟩

theorem mapError_eq_ok_iff {ε φ : Type} {outcome : Except ε α} {change : ε → φ} {result : α} :
    outcome.mapError change = .ok result ↔ outcome = .ok result := by
  cases outcome with
  | error failure =>
      constructor
      · rintro ⟨⟩
      · rintro ⟨⟩
  | ok value =>
      constructor
      · rintro ⟨⟩
        rfl
      · rintro ⟨⟩
        rfl

theorem any_toOption_iff {ε : Type} {outcome : Except ε α} {check : α → Bool} :
    outcome.toOption.any check ↔ ∃ value, outcome = .ok value ∧ check value := by
  cases outcome with
  | error failure => simp [Except.toOption]
  | ok value => simp [Except.toOption]

theorem toOption_eq_some_iff {ε : Type} {outcome : Except ε α} {value : α} :
    outcome.toOption = some value ↔ outcome = .ok value := by
  cases outcome with
  | error failure => simp [Except.toOption]
  | ok other => simp [Except.toOption]

/-- A list is read from its head on. -/
theorem mapM_cons_eq_ok_iff {ε : Type} {read : α → Except ε β} {head : α} {tail : List α}
    {results : List β} :
    (head :: tail).mapM read = .ok results ↔
      ∃ first others, read head = .ok first ∧ tail.mapM read = .ok others ∧
        first :: others = results := by
  rw [List.mapM_cons, bind_eq_ok_iff]
  simp only [bind_eq_ok_iff, pure, Except.pure, Except.ok.injEq, exists_and_left]

/-- A reading of a list reads every member. -/
theorem mapM_eq_ok_iff {ε : Type} {read : α → Except ε β} {entries : List α} {results : List β} :
    entries.mapM read = .ok results ↔
      List.Forall₂ (fun entry result => read entry = .ok result) entries results := by
  induction entries generalizing results with
  | nil => simp [pure, Except.pure, eq_comm]
  | cons head tail inductionHypothesis =>
      rw [mapM_cons_eq_ok_iff, List.forall₂_cons_left_iff]
      simp only [inductionHypothesis, eq_comm, exists_and_left]

theorem mapM_option_eq_ok_iff {ε : Type} {read : α → Except ε β} {entry : Option α}
    {result : Option β} :
    entry.mapM read = .ok result ↔
      Option.Rel (fun entry result => read entry = .ok result) entry result := by
  cases entry with
  | none => cases result <;> simp [pure, Except.pure]
  | some entry =>
      rw [Option.mapM_some]
      cases isRead : read entry <;> cases result <;> simp [isRead, Functor.map, Except.map]

/-- Of two lists that are related entry by entry, each entry of the one has its
entry of the other. -/
theorem exists_related_of_mem {related : α → β → Prop} {left : List α} {right : List β}
    (pairs : List.Forall₂ related left right) {entry : α} (member : entry ∈ left) :
    ∃ other ∈ right, related entry other := by
  induction pairs with
  | nil => contradiction
  | cons first _ inductionHypothesis =>
      rcases List.mem_cons.mp member with rfl | later
      · exact ⟨_, List.mem_cons_self, first⟩
      · obtain ⟨other, otherMember, relates⟩ := inductionHypothesis later
        exact ⟨other, List.mem_cons_of_mem _ otherMember, relates⟩

theorem exists_forall₂_iff {related : α → β → Prop} {left : List α} :
    (∃ right, List.Forall₂ related left right) ↔ ∀ entry ∈ left, ∃ other, related entry other := by
  constructor
  · rintro ⟨right, pairs⟩ entry member
    obtain ⟨other, _, relates⟩ := exists_related_of_mem pairs member
    exact ⟨other, relates⟩
  · intro each
    induction left with
    | nil => exact ⟨[], .nil⟩
    | cons head tail inductionHypothesis =>
        rw [List.forall_mem_cons] at each
        obtain ⟨other, relates⟩ := each.1
        obtain ⟨right, pairs⟩ := inductionHypothesis each.2
        exact ⟨other :: right, .cons relates pairs⟩

/-- Steps that read first are steps through what is read. -/
theorem foldlM_read_eq_ok_iff {ε γ : Type} {read : α → Except ε γ} {step : β → γ → Except ε β}
    {entries : List α} {start finish : β} :
    (entries.foldlM (fun before entry => read entry >>= step before) start) = .ok finish ↔
      ∃ items, List.Forall₂ (fun entry item => read entry = .ok item) entries items ∧
        items.foldlM step start = .ok finish := by
  induction entries generalizing start with
  | nil => simp
  | cons head tail inductionHypothesis =>
      rw [List.foldlM_cons]
      simp only [bind_eq_ok_iff, inductionHypothesis, List.forall₂_cons_left_iff]
      constructor
      · rintro ⟨next, ⟨item, isRead, stepped⟩, items, areRead, ran⟩
        refine ⟨item :: items, ⟨item, items, isRead, areRead, rfl⟩, ?_⟩
        rw [List.foldlM_cons, bind_eq_ok_iff]
        exact ⟨next, stepped, ran⟩
      · rintro ⟨_, ⟨item, items, isRead, areRead, rfl⟩, ran⟩
        rw [List.foldlM_cons, bind_eq_ok_iff] at ran
        obtain ⟨next, stepped, ran⟩ := ran
        exact ⟨next, ⟨item, isRead, stepped⟩, items, areRead, ran⟩

theorem foldlM_read_pure_eq_ok_iff {ε γ : Type} {read : α → Except ε γ} {step : β → γ → β}
    {entries : List α} {start finish : β} :
    (entries.foldlM (fun before entry => read entry >>= fun item => pure (step before item))
        start) = .ok finish ↔
      ∃ items, List.Forall₂ (fun entry item => read entry = .ok item) entries items ∧
        items.foldl step start = finish := by
  rw [foldlM_read_eq_ok_iff]
  simp only [List.foldlM_pure]
  simp only [pure, Except.pure, Except.ok.injEq]

/-- What every successful step preserves holds after all of them. -/
theorem foldlM_preserves {ε : Type} {step : β → α → Except ε β} {Invariant : β → Prop}
    (preserved : ∀ {before after entry}, Invariant before → step before entry = .ok after →
      Invariant after)
    {entries : List α} {start finish : β} (initially : Invariant start)
    (ran : entries.foldlM step start = .ok finish) : Invariant finish := by
  induction entries generalizing start with
  | nil =>
      cases ran
      exact initially
  | cons head tail inductionHypothesis =>
      rw [List.foldlM_cons, bind_eq_ok_iff] at ran
      obtain ⟨next, stepped, ran⟩ := ran
      exact inductionHypothesis (preserved initially stepped) ran

/-- A run fails as one of its steps does. -/
theorem exists_step_of_foldlM_error {ε : Type} {step : β → α → Except ε β} {entries : List α}
    {start : β} {failure : ε} (failed : entries.foldlM step start = .error failure) :
    ∃ before, ∃ entry ∈ entries, step before entry = .error failure := by
  induction entries generalizing start with
  | nil => cases failed
  | cons head tail inductionHypothesis =>
      rw [List.foldlM_cons, bind_eq_error_iff] at failed
      rcases failed with first | ⟨next, _, later⟩
      · exact ⟨start, head, List.mem_cons_self, first⟩
      · obtain ⟨before, entry, member, stepped⟩ := inductionHypothesis later
        exact ⟨before, entry, List.mem_cons_of_mem head member, stepped⟩

/-- Steps through lists within a list are steps through one list. -/
theorem foldlM_flatMap {ε γ : Type} {step : β → γ → Except ε β} {expand : α → List γ}
    {entries : List α} {start : β} :
    (entries.flatMap expand).foldlM step start =
      entries.foldlM (fun before entry => (expand entry).foldlM step before) start := by
  induction entries generalizing start with
  | nil => rfl
  | cons head tail inductionHypothesis =>
      rw [List.flatMap_cons, List.foldlM_append, List.foldlM_cons]
      simp only [inductionHypothesis]

/-- In a list in order, a relation holds of all pairs exactly if it holds of all
members that come in this order. -/
theorem pairwise_iff_of_pairwise {before related : α → α → Prop} {entries : List α}
    (ordered : entries.Pairwise before)
    (oriented : ∀ first second, before first second → ¬before second first) :
    entries.Pairwise related ↔
      ∀ earlier ∈ entries, ∀ later ∈ entries, before earlier later → related earlier later := by
  constructor
  · intro pairwise earlier earlierMember later laterMember comesBefore
    obtain ⟨i, iBound, rfl⟩ := List.mem_iff_getElem.mp earlierMember
    obtain ⟨j, jBound, rfl⟩ := List.mem_iff_getElem.mp laterMember
    rcases Nat.lt_trichotomy i j with less | rfl | more
    · exact List.pairwise_iff_getElem.mp pairwise i j iBound jBound less
    · exact absurd comesBefore (oriented _ _ comesBefore)
    · have otherWay := List.pairwise_iff_getElem.mp ordered j i jBound iBound more
      exact absurd comesBefore (oriented _ _ otherWay)
  · intro related
    exact ordered.imp_of_mem fun earlierMember laterMember =>
      related _ earlierMember _ laterMember

end Traceability

import Traceability.Filter
import Traceability.Pattern.Basic

/-!
Contract: the side of a rule that takes effect, and the side whose names are
checked.

Any criterion to exclude makes a rule filter out what it excludes, and then its
list to include counts for nothing. The check for names that do not resolve
looks at this list first, though, and at the one to exclude only if there is
nothing to include. So what it tells are the names that count, unless a rule
lists names to include next to a criterion to exclude.

Owns: which names are told, in which order, and when they are those that count.
Does not own: who is told.
-/

namespace Traceability

/-- There are two sides. -/
theorem FilterAction.eq_or_eq_of_ne {one other : FilterAction} (different : one ≠ other)
    (action : FilterAction) : action = one ∨ action = other := by
  cases one <;> cases other <;> cases action <;> simp at different ⊢

theorem isEmpty_eq_false_of_mem {ids : IdentifierSet} {id : Identifier} (member : id ∈ ids) :
    ids.isEmpty = false := by
  rw [Bool.eq_false_iff, ne_eq, Std.ExtTreeSet.isEmpty_iff]
  intro nothing
  rw [nothing] at member
  exact Std.ExtTreeSet.not_mem_empty member

namespace FilterRule

variable [PatternEngine] {rule : FilterRule} {accessible : IdentifierSet} {target : String}
  {id : Identifier} {action : FilterAction}

/-- The identifiers that a rule lists on one of its sides. -/
def listed (rule : FilterRule) : FilterAction → IdentifierSet
  | .import => rule.includes
  | .exclude => rule.excludes

/-- The side that decides what a rule filters out. -/
def sideInEffect (rule : FilterRule) : FilterAction :=
  if rule.hasExcludes then .exclude else .import

/-- The rule that is left if the criteria of the other side are taken away. -/
def onlySide (rule : FilterRule) : FilterAction → FilterRule
  | .import => { rule with excludes := ∅, customExcludes := none }
  | .exclude => { rule with includes := ∅, customIncludes := none }

/-- The side whose names are checked. -/
def sideChecked (rule : FilterRule) : FilterAction :=
  if rule.includes.isEmpty then .exclude else .import

theorem sideInEffect_eq_exclude (excludes : rule.hasExcludes = true) :
    rule.sideInEffect = .exclude := if_pos excludes

theorem sideInEffect_eq_import (noExcludes : rule.hasExcludes = false) :
    rule.sideInEffect = .import := if_neg (Bool.eq_false_iff.mp noExcludes)

theorem sideChecked_eq_exclude (nothing : rule.includes = ∅) : rule.sideChecked = .exclude :=
  if_pos (Std.ExtTreeSet.isEmpty_iff.mpr nothing)

theorem sideChecked_eq_import (something : rule.includes ≠ ∅) : rule.sideChecked = .import :=
  if_neg fun nothing => something (Std.ExtTreeSet.isEmpty_iff.mp nothing)

/-! ### The side in effect -/

theorem excludes_eq_empty (noExcludes : rule.hasExcludes = false) : rule.excludes = ∅ := by
  rw [hasExcludes, Bool.or_eq_false_iff, Bool.not_eq_false'] at noExcludes
  exact Std.ExtTreeSet.isEmpty_iff.mp noExcludes.1

theorem filtersOut_of_excludes (member : id ∈ rule.excludes) :
    rule.filtersOut target id = true := by
  have excludes : rule.hasExcludes = true := by
    rw [hasExcludes, isEmpty_eq_false_of_mem member]
    rfl
  have contained : rule.excludes.contains id = true := Std.ExtTreeSet.contains_iff_mem.mpr member
  rw [filtersOut, if_pos excludes, excludesId, contained, Bool.true_or]

theorem filtersOut_of_includes (noExcludes : rule.hasExcludes = false)
    (member : id ∈ rule.includes) : rule.filtersOut target id = false := by
  have includes : rule.hasIncludes = true := by
    rw [hasIncludes, isEmpty_eq_false_of_mem member]
    rfl
  have contained : rule.includes.contains id = true := Std.ExtTreeSet.contains_iff_mem.mpr member
  rw [filtersOut, noExcludes, if_neg Bool.false_ne_true, if_pos includes, includesId, contained,
    Bool.true_or, Bool.not_true]

/-- A rule drops what it lists on the side in effect, if that excludes, and
keeps it, if that includes. -/
theorem filtersOut_of_listed (member : id ∈ rule.listed rule.sideInEffect) :
    rule.filtersOut target id = decide (rule.sideInEffect = .exclude) := by
  cases excludes : rule.hasExcludes with
  | true =>
      rw [sideInEffect_eq_exclude excludes] at member ⊢
      exact filtersOut_of_excludes member
  | false =>
      rw [sideInEffect_eq_import excludes] at member ⊢
      exact filtersOut_of_includes excludes member

theorem filtersOut_onlySide_exclude (excludes : rule.hasExcludes = true) :
    (rule.onlySide .exclude).filtersOut target id = rule.filtersOut target id := by
  have stillExcludes : (rule.onlySide .exclude).hasExcludes = true := excludes
  rw [filtersOut, filtersOut, if_pos stillExcludes, if_pos excludes]
  rfl

/-- A rule without criteria to exclude has none to lose. -/
theorem onlySide_import (noExcludes : rule.hasExcludes = false) : rule.onlySide .import = rule := by
  have noList : rule.excludes = ∅ := excludes_eq_empty noExcludes
  have noExpression : rule.customExcludes = none := by
    rw [hasExcludes, Bool.or_eq_false_iff] at noExcludes
    exact Option.not_isSome_iff_eq_none.mp (Bool.eq_false_iff.mp noExcludes.2)
  rw [onlySide, ← noList, ← noExpression]

/-- What a rule filters out is up to the side in effect alone. -/
theorem filtersOut_onlySide :
    (rule.onlySide rule.sideInEffect).filtersOut target id = rule.filtersOut target id := by
  cases excludes : rule.hasExcludes with
  | true =>
      rw [sideInEffect_eq_exclude excludes]
      exact filtersOut_onlySide_exclude excludes
  | false => rw [sideInEffect_eq_import excludes, onlySide_import excludes]

/-! ### The side checked -/

theorem unresolved_eq :
    rule.unresolved accessible =
      ((rule.listed rule.sideChecked).toList.filter fun id => !accessible.contains id).map
        fun id => (rule.sideChecked, id) := by
  unfold unresolved sideChecked
  cases rule.includes.isEmpty <;> rfl

theorem mem_unresolved_iff :
    (action, id) ∈ rule.unresolved accessible ↔
      action = rule.sideChecked ∧ id ∈ rule.listed action ∧ id ∉ accessible := by
  simp only [unresolved_eq, List.mem_map, List.mem_filter, Std.ExtTreeSet.mem_toList,
    Prod.mk.injEq, Bool.not_eq_true', Bool.eq_false_iff, ne_eq, Std.ExtTreeSet.contains_iff_mem]
  constructor
  · rintro ⟨name, ⟨member, hidden⟩, rfl, rfl⟩
    exact ⟨rfl, member, hidden⟩
  · rintro ⟨rfl, member, hidden⟩
    exact ⟨id, ⟨member, hidden⟩, rfl, rfl⟩

/-- The names are told in order, and each of them once. -/
theorem pairwise_unresolved :
    (rule.unresolved accessible).Pairwise fun earlier later =>
      compare earlier.2 later.2 = .lt := by
  have ordered : (rule.listed rule.sideChecked).toList.Pairwise fun earlier later =>
      compare earlier later = .lt := Std.ExtTreeSet.ordered_toList
  rw [unresolved_eq, List.pairwise_map]
  exact ordered.filter _

/-! ### Where the sides differ -/

/-- Whether exactly the names in effect that do not resolve are told. -/
def TellsNamesInEffect (rule : FilterRule) (accessible : IdentifierSet) : Prop :=
  ∀ action id, (action, id) ∈ rule.unresolved accessible ↔
    action = rule.sideInEffect ∧ id ∈ rule.listed action ∧ id ∉ accessible

theorem tellsNamesInEffect_iff_sides :
    rule.TellsNamesInEffect accessible ↔
      rule.sideChecked = rule.sideInEffect ∨ ∀ action, ∀ id ∈ rule.listed action,
        id ∈ accessible := by
  by_cases same : rule.sideChecked = rule.sideInEffect
  · refine iff_of_true ?_ (Or.inl same)
    intro action id
    rw [mem_unresolved_iff, same]
  · constructor
    · intro tells
      right
      intro action id member
      have told := tells action id
      rw [mem_unresolved_iff] at told
      refine Decidable.byContradiction fun hidden => ?_
      rcases FilterAction.eq_or_eq_of_ne same action with checked | inEffect
      · exact same (checked.symm.trans (told.mp ⟨checked, member, hidden⟩).1)
      · exact same ((told.mpr ⟨inEffect, member, hidden⟩).1.symm.trans inEffect)
    · rintro (isSame | resolved)
      · exact absurd isSame same
      · intro action id
        rw [mem_unresolved_iff]
        have nothing : ¬(id ∈ rule.listed action ∧ id ∉ accessible) :=
          fun pending => pending.2 (resolved action id pending.1)
        exact iff_of_false (fun told => nothing told.2) (fun told => nothing told.2)

theorem listed_eq_empty (noExcludes : rule.hasExcludes = false) (nothing : rule.includes = ∅)
    (action : FilterAction) : rule.listed action = ∅ := by
  cases action with
  | «import» => exact nothing
  | exclude => exact excludes_eq_empty noExcludes

/-- Without criteria to exclude, or without names to include, the same side is
checked that takes effect, or there are no names on either. -/
theorem sideChecked_eq_sideInEffect_or_resolved_iff :
    (rule.sideChecked = rule.sideInEffect ∨ ∀ action, ∀ id ∈ rule.listed action,
        id ∈ accessible) ↔
      rule.hasExcludes = false ∨ rule.includes = ∅ ∨ ∀ action, ∀ id ∈ rule.listed action,
        id ∈ accessible := by
  by_cases nothing : rule.includes = ∅
  · refine iff_of_true ?_ (Or.inr (Or.inl nothing))
    cases excludes : rule.hasExcludes with
    | true => exact Or.inl (by rw [sideChecked_eq_exclude nothing, sideInEffect_eq_exclude excludes])
    | false =>
        -- The sides differ, but there are no names on either.
        right
        intro action id member
        rw [listed_eq_empty excludes nothing] at member
        exact absurd member Std.ExtTreeSet.not_mem_empty
  · cases excludes : rule.hasExcludes with
    | true =>
        simp [sideChecked_eq_import nothing, sideInEffect_eq_exclude excludes, nothing]
    | false =>
        refine iff_of_true (Or.inl ?_) (Or.inl rfl)
        rw [sideChecked_eq_import nothing, sideInEffect_eq_import excludes]

/-- One side alone decides what a rule filters out: all of its names or none of
them. The names told are those of the side checked that do not resolve, each of
them once and in order. These are the names of the side in effect unless a rule
with a criterion to exclude lists names to include as well, and some name of it
does not resolve. -/
theorem unresolved_in_effect_iff (rule : FilterRule) (accessible : IdentifierSet) :
    (∀ target id,
      (rule.onlySide rule.sideInEffect).filtersOut target id = rule.filtersOut target id) ∧
    (∀ target, ∀ id ∈ rule.listed rule.sideInEffect,
      rule.filtersOut target id = decide (rule.sideInEffect = .exclude)) ∧
    (∀ action id, (action, id) ∈ rule.unresolved accessible ↔
      action = rule.sideChecked ∧ id ∈ rule.listed action ∧ id ∉ accessible) ∧
    ((rule.unresolved accessible).Pairwise fun earlier later =>
      compare earlier.2 later.2 = .lt) ∧
    (rule.TellsNamesInEffect accessible ↔
      rule.hasExcludes = false ∨ rule.includes = ∅ ∨ ∀ action, ∀ id ∈ rule.listed action,
        id ∈ accessible) := by
  refine ⟨fun _ _ => filtersOut_onlySide, fun _ _ => filtersOut_of_listed,
    fun _ _ => mem_unresolved_iff, pairwise_unresolved, ?_⟩
  rw [tellsNamesInEffect_iff_sides, sideChecked_eq_sideInEffect_or_resolved_iff]

end FilterRule

namespace Sample

/-- A name of the module `base` that is listed to include. -/
def toInclude : Identifier := ⟨"base", "first"⟩

/-- A name of the module `base` that is listed to exclude. -/
def toExclude : Identifier := ⟨"base", "second"⟩

/-- A rule with a name on either side. -/
def bothSides : FilterRule := ⟨.ofList [toInclude], .ofList [toExclude], none, none⟩

/-- The name to exclude counts, and the one to include is told. -/
theorem ineffective_name_told :
    bothSides.filtersOut "base" toExclude = true ∧ bothSides.sideInEffect = .exclude ∧
      bothSides.unresolved ∅ = [(.import, toInclude)] ∧ ¬bothSides.TellsNamesInEffect ∅ := by
  have told : bothSides.unresolved ∅ = [(.import, toInclude)] := by decide +kernel
  have inEffect : bothSides.sideInEffect = .exclude := by decide +kernel
  refine ⟨by decide +kernel, inEffect, told, ?_⟩
  intro tells
  have member : (FilterAction.import, toInclude) ∈ bothSides.unresolved ∅ := by
    rw [told]
    exact List.mem_singleton_self _
  have sameSide : FilterAction.import = bothSides.sideInEffect := ((tells _ _).mp member).1
  rw [inEffect] at sameSide
  contradiction

end Sample

end Traceability

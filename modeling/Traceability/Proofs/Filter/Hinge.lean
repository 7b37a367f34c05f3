import Traceability.Proofs.Filter.Unresolved

/-!
Contract: rules that lose a name.

A name that no candidate bears neither keeps nor drops a candidate, but it
counts as a criterion as long as it is listed. A rule with nothing to exclude
keeps everything once its last criterion to include is gone, and a rule whose
last criterion to exclude is gone falls back on what it has to include. Other
than that nothing hinges on such a name.

Owns: rules without one of their names, and when a candidate is treated
otherwise by them.
Does not own: where rules stand, and what their candidates are.
-/

namespace Traceability

namespace FilterRule

variable [PatternEngine] {rule : FilterRule} {accessible : IdentifierSet} {target : String}
  {name candidate : Identifier} {action : FilterAction}

/-- The rule with a name removed from one of its lists. -/
def withoutName (rule : FilterRule) (name : Identifier) : FilterAction → FilterRule
  | .import => { rule with includes := rule.includes.erase name }
  | .exclude => { rule with excludes := rule.excludes.erase name }

/-- Whether a rule hinges on a name that no candidate bears. To include, the name
has to be the only criterion, with none to exclude: all candidates are kept
without it. To exclude, it has to be the only criterion, with some to include:
without it every candidate that is not included is dropped. -/
def HingesOn (rule : FilterRule) (target : String) (accessible : IdentifierSet)
    (name : Identifier) : FilterAction → Prop
  | .import => rule.hasExcludes = false ∧ rule.hasIncludes = true ∧
      (rule.withoutName name .import).hasIncludes = false ∧ ∃ candidate, candidate ∈ accessible
  | .exclude => rule.hasExcludes = true ∧ (rule.withoutName name .exclude).hasExcludes = false ∧
      rule.hasIncludes = true ∧ ∃ candidate ∈ accessible, rule.includesId target candidate = false

/-! ### One side -/

/-- The expression on one side of a rule. -/
def custom (rule : FilterRule) : FilterAction → Option Expression
  | .import => rule.customIncludes
  | .exclude => rule.customExcludes

/-- Whether a rule has a criterion on one side. -/
def hasCriteria (rule : FilterRule) (side : FilterAction) : Bool :=
  !(rule.listed side).isEmpty || (rule.custom side).isSome

/-- Whether a candidate meets a criterion on one side, in the list or by the
expression. -/
def meets (rule : FilterRule) (side : FilterAction) (target : String) (candidate : Identifier) :
    Bool :=
  (rule.listed side).contains candidate ||
    (rule.custom side).any fun expression => expression.holds target candidate

theorem listed_withoutName : (rule.withoutName name action).listed action =
    (rule.listed action).erase name := by
  cases action <;> rfl

theorem custom_withoutName : (rule.withoutName name action).custom action = rule.custom action := by
  cases action <;> rfl

/-- Without criteria there is none to meet. -/
theorem meets_eq_false (nothing : rule.hasCriteria action = false) :
    rule.meets action target candidate = false := by
  rw [hasCriteria, Bool.or_eq_false_iff, Bool.not_eq_false', Std.ExtTreeSet.isEmpty_iff,
    Option.isSome_eq_false_iff, Option.isNone_iff_eq_none] at nothing
  rw [meets, nothing.1, nothing.2, Std.ExtTreeSet.contains_empty]
  rfl

theorem hasCriteria_of_withoutName
    (left : (rule.withoutName name action).hasCriteria action = true) :
    rule.hasCriteria action = true := by
  rw [hasCriteria, Bool.or_eq_true, Bool.not_eq_true', Std.ExtTreeSet.isEmpty_eq_false_iff,
    listed_withoutName, custom_withoutName] at left
  rw [hasCriteria, Bool.or_eq_true, Bool.not_eq_true', Std.ExtTreeSet.isEmpty_eq_false_iff]
  exact left.imp_left Std.ExtTreeSet.ne_empty_of_erase_ne_empty

/-- A name decides about no candidate but the one that bears it. -/
theorem meets_withoutName (other : candidate ≠ name) :
    (rule.withoutName name action).meets action target candidate =
      rule.meets action target candidate := by
  have apart : (compare name candidate != .eq) = true := by
    rw [bne_iff_ne, ne_eq, Std.LawfulEqOrd.compare_eq_iff_eq]
    exact other.symm
  rw [meets, listed_withoutName, custom_withoutName, Std.ExtTreeSet.contains_erase, apart,
    Bool.true_and, meets]

/-! ### What hinges on a name -/

/-- Criteria to exclude come first. -/
theorem filtersOut_eq : rule.filtersOut target candidate =
    if rule.hasCriteria .exclude then rule.meets .exclude target candidate
    else if rule.hasCriteria .import then !rule.meets .import target candidate
    else false := rfl

theorem filtersOut_withoutName_import_ne_iff (other : candidate ≠ name) :
    (rule.withoutName name .import).filtersOut target candidate ≠
        rule.filtersOut target candidate ↔
      rule.hasCriteria .exclude = false ∧ rule.hasCriteria .import = true ∧
        (rule.withoutName name .import).hasCriteria .import = false := by
  have sameCriteria : (rule.withoutName name .import).hasCriteria .exclude =
      rule.hasCriteria .exclude := rfl
  have sameExcluded : (rule.withoutName name .import).meets .exclude target candidate =
      rule.meets .exclude target candidate := rfl
  rw [filtersOut_eq, filtersOut_eq, sameCriteria, sameExcluded, meets_withoutName other]
  cases excludes : rule.hasCriteria .exclude with
  | true => simp
  | false =>
      cases left : (rule.withoutName name .import).hasCriteria .import with
      | false =>
          have notIncluded : rule.meets .import target candidate = false :=
            (meets_withoutName other).symm.trans (meets_eq_false left)
          simp [notIncluded]
      | true => simp [hasCriteria_of_withoutName left]

theorem filtersOut_withoutName_exclude_ne_iff (other : candidate ≠ name) :
    (rule.withoutName name .exclude).filtersOut target candidate ≠
        rule.filtersOut target candidate ↔
      rule.hasCriteria .exclude = true ∧
        (rule.withoutName name .exclude).hasCriteria .exclude = false ∧
          rule.hasCriteria .import = true ∧ rule.meets .import target candidate = false := by
  have sameCriteria : (rule.withoutName name .exclude).hasCriteria .import =
      rule.hasCriteria .import := rfl
  have sameIncluded : (rule.withoutName name .exclude).meets .import target candidate =
      rule.meets .import target candidate := rfl
  rw [filtersOut_eq, filtersOut_eq, sameCriteria, sameIncluded, meets_withoutName other]
  cases left : (rule.withoutName name .exclude).hasCriteria .exclude with
  | true => simp [hasCriteria_of_withoutName left]
  | false =>
      have notExcluded : rule.meets .exclude target candidate = false :=
        (meets_withoutName other).symm.trans (meets_eq_false left)
      cases excludes : rule.hasCriteria .exclude with
      | false => simp
      | true => simp [notExcluded]

/-- A rule that loses a name which no candidate bears treats some candidate
otherwise exactly if it hinges on this name. -/
theorem hingesOn_iff (hidden : name ∉ accessible) :
    rule.HingesOn target accessible name action ↔
      ∃ candidate ∈ accessible, (rule.withoutName name action).filtersOut target candidate ≠
        rule.filtersOut target candidate := by
  have isOther {candidate : Identifier} (member : candidate ∈ accessible) : candidate ≠ name :=
    fun same => hidden (same ▸ member)
  cases action with
  | «import» =>
      constructor
      · rintro ⟨noExcludes, includes, gone, candidate, member⟩
        exact ⟨candidate, member, (filtersOut_withoutName_import_ne_iff (isOther member)).mpr
          ⟨noExcludes, includes, gone⟩⟩
      · rintro ⟨candidate, member, differs⟩
        have ⟨noExcludes, includes, gone⟩ :=
          (filtersOut_withoutName_import_ne_iff (isOther member)).mp differs
        exact ⟨noExcludes, includes, gone, candidate, member⟩
  | exclude =>
      constructor
      · rintro ⟨excludes, gone, includes, candidate, member, notIncluded⟩
        exact ⟨candidate, member, (filtersOut_withoutName_exclude_ne_iff (isOther member)).mpr
          ⟨excludes, gone, includes, notIncluded⟩⟩
      · rintro ⟨candidate, member, differs⟩
        have ⟨excludes, gone, includes, notIncluded⟩ :=
          (filtersOut_withoutName_exclude_ne_iff (isOther member)).mp differs
        exact ⟨excludes, gone, includes, candidate, member, notIncluded⟩

end FilterRule

end Traceability

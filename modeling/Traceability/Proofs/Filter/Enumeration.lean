import Traceability.Filter
import Traceability.Pattern.Basic
import Traceability.Proofs.Expression.Writing
import Traceability.Proofs.Identifier.Qualification

/-!
Contract: lists of names and the expressions that enumerate them.

The names on a list are resolved when a rule is read. An expression keeps its
literals as they are, and compares their parts with each identifier when it is
asked. Both ways lead to one rule, to include and to exclude, and the comparison
to exclude may be turned around to include.

Owns: what rules with one criterion filter out, and that the two ways agree.
Does not own: how literals are written.
-/

namespace Traceability

variable {target : String} {candidate : Identifier} {ids : List Identifier}
  {texts : NonEmptyList String} {negated : Bool}

/-! ### What an enumeration holds of -/

theorem any_matchesLiteral_iff {texts : List String} {ids : List Identifier}
    (named : texts.mapM (Identifier.qualify target) = .ok ids) :
    texts.any (candidate.matchesLiteral target) = true ↔ candidate ∈ ids := by
  induction texts generalizing ids with
  | nil =>
      rw [List.mapM_nil] at named
      cases named
      simp
  | cons text texts inductionHypothesis =>
      obtain ⟨id, others, first, rest, rfl⟩ := mapM_cons_eq_ok_iff.mp named
      rw [List.any_cons, Bool.or_eq_true, List.mem_cons, inductionHypothesis rest,
        Identifier.matchesLiteral_iff_of_qualify first]

theorem ne_nil_of_mapM_qualify
    (named : texts.toList.mapM (Identifier.qualify target) = .ok ids) : ids ≠ [] := by
  obtain ⟨id, others, _, _, same⟩ := mapM_cons_eq_ok_iff.mp named
  rw [← same]
  exact List.cons_ne_nil id others

namespace Expression

variable [PatternEngine]

/-- An enumeration holds of what its literals name, and a negated one of
everything else. -/
theorem holds_enumerates (named : texts.toList.mapM (Identifier.qualify target) = .ok ids) :
    (enumerates negated texts).holds target candidate = (decide (candidate ∈ ids) != negated) := by
  have accepted : (enumerates negated texts).holds target candidate =
      (texts.toList.any (candidate.matchesLiteral target) != negated) := by
    rw [enumerates, Condition.holds, NonEmptyList.toList, NonEmptyList.toList, List.any_cons,
      List.any_cons, List.any_map]
    rfl
  have listed : texts.toList.any (candidate.matchesLiteral target) = decide (candidate ∈ ids) :=
    Bool.eq_iff_iff.mpr ((any_matchesLiteral_iff named).trans decide_eq_true_iff.symm)
  rw [accepted, listed]

theorem exists_expression_of_qualify (negated : Bool)
    (named : texts.toList.mapM (Identifier.qualify target) = .ok ids) :
    ∃ expression : Expression, parse (enumeration negated texts) = .ok expression ∧
      ∀ candidate, expression.holds target candidate = (decide (candidate ∈ ids) != negated) :=
  ⟨_, parse_enumeration negated texts, fun _ => holds_enumerates named⟩

end Expression

/-! ### Rules with one criterion -/

namespace FilterRule

variable [PatternEngine]

/-- The rule that keeps only what an expression holds of. -/
def includingWhere (expression : Expression) : FilterRule := ⟨∅, ∅, some expression, none⟩

/-- The rule that drops what an expression holds of. -/
def excludingWhere (expression : Expression) : FilterRule := ⟨∅, ∅, none, some expression⟩

variable {expression : Expression}

theorem compile_includes (ids : List Identifier) :
    compile ids [] none none = .ok (including ids) := by
  rw [including, ← Std.ExtTreeSet.ofList_nil]
  rfl

theorem compile_excludes (ids : List Identifier) :
    compile [] ids none none = .ok (excluding ids) := by
  rw [excluding, ← Std.ExtTreeSet.ofList_nil]
  rfl

theorem compile_customIncludes {source : String}
    (read : Expression.parse source = .ok expression) :
    compile [] [] (some source) none = .ok (includingWhere expression) := by
  rw [includingWhere, ← Std.ExtTreeSet.ofList_nil, compile, Option.mapM_some, read]
  rfl

theorem compile_customExcludes {source : String}
    (read : Expression.parse source = .ok expression) :
    compile [] [] none (some source) = .ok (excludingWhere expression) := by
  rw [excludingWhere, ← Std.ExtTreeSet.ofList_nil, compile, Option.mapM_some, read]
  rfl

theorem filtersOut_including (nonempty : ids ≠ []) :
    (including ids).filtersOut target candidate = !decide (candidate ∈ ids) := by
  simp [including, filtersOut, hasExcludes, hasIncludes, includesId, nonempty]

theorem filtersOut_excluding (nonempty : ids ≠ []) :
    (excluding ids).filtersOut target candidate = decide (candidate ∈ ids) := by
  simp [excluding, filtersOut, hasExcludes, excludesId, nonempty]

theorem filtersOut_includingWhere :
    (includingWhere expression).filtersOut target candidate =
      !expression.holds target candidate := by
  simp [includingWhere, filtersOut, hasExcludes, hasIncludes, includesId]

theorem filtersOut_excludingWhere :
    (excludingWhere expression).filtersOut target candidate =
      expression.holds target candidate := by
  simp [excludingWhere, filtersOut, hasExcludes, excludesId]

/-! ### The two ways -/

/-- Names that resolve may be listed or enumerated, to include and to exclude.
To exclude all but those enumerated is to include them. -/
theorem enumeration_interchangeable
    (named : texts.toList.mapM (Identifier.qualify target) = .ok ids) :
    ∃ among amongOthers : Expression,
      compile ids [] none none = .ok (including ids) ∧
      compile [] [] (some (Expression.enumeration false texts)) none =
        .ok (includingWhere among) ∧
      compile [] ids none none = .ok (excluding ids) ∧
      compile [] [] none (some (Expression.enumeration false texts)) =
        .ok (excludingWhere among) ∧
      compile [] [] none (some (Expression.enumeration true texts)) =
        .ok (excludingWhere amongOthers) ∧
      ∀ candidate : Identifier,
        ((including ids).filtersOut target candidate = true ↔ candidate ∉ ids) ∧
        ((excluding ids).filtersOut target candidate = true ↔ candidate ∈ ids) ∧
        (includingWhere among).filtersOut target candidate =
          (including ids).filtersOut target candidate ∧
        (excludingWhere among).filtersOut target candidate =
          (excluding ids).filtersOut target candidate ∧
        (excludingWhere amongOthers).filtersOut target candidate =
          (including ids).filtersOut target candidate := by
  have nonempty : ids ≠ [] := ne_nil_of_mapM_qualify named
  obtain ⟨among, readAmong, holdsAmong⟩ := Expression.exists_expression_of_qualify false named
  obtain ⟨amongOthers, readOthers, holdsOthers⟩ :=
    Expression.exists_expression_of_qualify true named
  refine ⟨among, amongOthers, compile_includes ids, compile_customIncludes readAmong,
    compile_excludes ids, compile_customExcludes readAmong, compile_customExcludes readOthers, ?_⟩
  intro candidate
  refine ⟨?_, ?_, ?_, ?_, ?_⟩
  · rw [filtersOut_including nonempty, Bool.not_eq_true', decide_eq_false_iff_not]
  · rw [filtersOut_excluding nonempty, decide_eq_true_iff]
  · rw [filtersOut_includingWhere, filtersOut_including nonempty, holdsAmong, Bool.bne_false]
  · rw [filtersOut_excludingWhere, filtersOut_excluding nonempty, holdsAmong, Bool.bne_false]
  · rw [filtersOut_excludingWhere, filtersOut_including nonempty, holdsOthers, Bool.bne_true]

end FilterRule

namespace Sample

/-- A bare name with a quote in it, and a name of another module with a
separator and a backslash in it. -/
def awkwardNames : NonEmptyList String := ⟨"a\"b", ["library:x:y\\"]⟩

def awkwardIds : List Identifier := [⟨"root", "a\"b"⟩, ⟨"library", "x:y\\"⟩]

theorem awkward_names_enumerated :
    awkwardNames.toList.mapM (Identifier.qualify "root") = .ok awkwardIds ∧
      Expression.enumeration false awkwardNames =
        "ids == \"a\\\"b\", \"library:x:y\\\\\"" ∧
      ∃ among, FilterRule.compile [] [] (some (Expression.enumeration false awkwardNames)) none =
          .ok (.includingWhere among) ∧
        ∀ candidate, (FilterRule.includingWhere among).filtersOut "root" candidate = true ↔
          candidate ∉ awkwardIds := by
  have named : awkwardNames.toList.mapM (Identifier.qualify "root") = .ok awkwardIds :=
    toOption_eq_some_iff.mp (by decide +kernel)
  obtain ⟨among, _, _, compiled, _, _, _, agree⟩ := FilterRule.enumeration_interchangeable named
  refine ⟨named, by decide +kernel, among, compiled, ?_⟩
  intro candidate
  obtain ⟨listed, _, same, _⟩ := agree candidate
  rw [same]
  exact listed

end Sample

end Traceability

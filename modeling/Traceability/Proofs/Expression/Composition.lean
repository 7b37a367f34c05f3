import Mathlib.Data.List.Forall2
import Traceability.Proofs.Filter.Enumeration

/-!
Contract: expressions that are put together from expressions, as texts.

What an expression is written of stays the same inside a longer text, as long as
no word runs on over the seam. A parenthesis is no part of a word and ends every
phrase, so that any expression may stand in parentheses as one condition: under a
negation, or between connectives, where it stays a member of its own however it
is built inside.

Owns: written texts one after the other, expressions made of others in
parentheses, and that to exclude a negation is to include.
Does not own: what one expression on its own states.
-/

namespace Traceability

namespace Expression

open Traceability.Text

/-- The text is an expression, and states the condition. -/
def States [PatternEngine] (source : String) (condition : Condition) : Prop :=
  parse source = .ok ⟨source, condition⟩

/-- An expression in parentheses. -/
def grouped (source : String) : String := "(" ++ source ++ ")"

/-- The negation of an expression in parentheses. -/
def negationOf (source : String) : String := "not " ++ grouped source

/-- Expressions in parentheses with a connective between them. -/
def chainOf (connective : Connective) (sources : List String) : String :=
  (" " ++ connective.keyword ++ " ").intercalate (sources.map grouped)

example : chainOf .or ["a", "b", "c"] = "(a) or (b) or (c)" := by decide +kernel

variable {before text rest : List Char} {contents others : List Lexeme} {source : String}
  {sources : List String} {joint : Connective}

/-! ### Written texts one after the other -/

theorem not_beginsInWord_append (first : ¬BeginsInWord before) (second : ¬BeginsInWord text) :
    ¬BeginsInWord (before ++ text) := by
  cases before with
  | nil => exact second
  | cons c before => exact first

theorem not_beginsInWord_cons {c : Char} (notWord : isWordCharacter c = false) :
    ¬BeginsInWord (c :: text) := by
  simp [BeginsInWord, notWord]

/-- What is written of lexemes is so in front of any text that its last word
does not run on into. -/
theorem Written.append (first : Written before contents) (second : Written text others)
    (apart : ¬BeginsInWord text) : Written (before ++ text) (contents ++ others) := by
  induction first with
  | nil => exact second
  | blank blank _ inductionHypothesis => exact .blank blank inductionHypothesis
  | @lexeme lexeme spelling before contents spells ends _ inductionHypothesis =>
      have endsBefore : lexeme.IsWord → ¬BeginsInWord (before ++ text) :=
        fun isWord => not_beginsInWord_append (ends isWord) apart
      rw [List.append_assoc]
      exact .lexeme spells endsBefore inductionHypothesis

/-- A text in parentheses, before anything. -/
theorem Written.grouped (within : Written source.toList contents) (after : Written rest others) :
    Written ((grouped source).toList ++ rest)
      (.openParen :: (contents ++ [.closeParen]) ++ others) := by
  have closed : Written (')' :: rest) (.closeParen :: others) := .lexeme .closeParen nofun after
  have opened : Written ('(' :: (source.toList ++ ')' :: rest))
      (.openParen :: (contents ++ .closeParen :: others)) :=
    .lexeme .openParen nofun (within.append closed (not_beginsInWord_cons (by decide)))
  simpa [Expression.grouped] using opened

/-- A word and a blank, before anything. -/
theorem Written.word {first : Char} {letters : List Char} (begins : isWordStart first = true)
    (goesOn : letters.all isWordCharacter = true) (after : Written rest others) :
    Written (first :: letters ++ ' ' :: rest)
      (.word (String.ofList (first :: letters)) :: others) := by
  have spells : Spells (.word (String.ofList (first :: letters))) (first :: letters) :=
    .word begins (List.all_eq_true.mp goesOn)
  have blank : Written (' ' :: rest) others := .blank (by decide) after
  exact .lexeme spells (fun _ => not_beginsInWord_cons (by decide)) blank

theorem Written.connective (joint : Connective) (after : Written rest others) :
    Written ((" " ++ joint.keyword ++ " ").toList ++ rest) (joint.lexeme :: others) := by
  cases joint with
  | and =>
      have word : Written ('a' :: ['n', 'd'] ++ ' ' :: rest) (.word "and" :: others) :=
        .word (by decide) (by decide) after
      exact .blank (by decide) word
  | or =>
      have word : Written ('o' :: ['r'] ++ ' ' :: rest) (.word "or" :: others) :=
        .word (by decide) (by decide) after
      exact .blank (by decide) word

/-! ### Expressions in parentheses -/

variable [PatternEngine] {condition : Condition} {conditions : List Condition}

theorem states_iff : States source condition ↔ ∃ derivation : Derivation .expression,
    Written source.toList derivation.lexemes ∧ derivation.value = condition := by
  rw [← parseCondition_eq_ok_iff, States, parse]
  cases parseCondition source with
  | ok value => simp
  | error failure => simp

/-- An expression in parentheses, as a member. -/
def Derivation.asMember (inner : Derivation .expression) : Derivation .unary :=
  .plain (.grouped inner)

/-- Expressions in parentheses, as the members that a connective adds. -/
def Derivation.asChain (joint : Connective) :
    List (Derivation .expression) → Derivation (.chain joint)
  | [] => .done
  | inner :: inners => .more inner.asMember (asChain joint inners)

theorem Derivation.value_asChain (inners : List (Derivation .expression)) :
    (Derivation.asChain joint inners).value = inners.map Derivation.value := by
  induction inners with
  | nil => rfl
  | cons inner inners inductionHypothesis =>
      rw [asChain, value, inductionHypothesis]
      rfl

/-- Parentheses around an expression leave no trace. -/
theorem States.grouped (states : States source condition) :
    States (grouped source) condition := by
  obtain ⟨inner, written, value⟩ := states_iff.mp states
  have alone := written.grouped .nil
  rw [List.append_nil, List.append_nil] at alone
  exact states_iff.mpr ⟨.alone inner.asMember, alone, value⟩

theorem States.negationOf (states : States source condition) :
    States (negationOf source) (.not condition) := by
  obtain ⟨inner, written, value⟩ := states_iff.mp states
  have negated : Written ('n' :: ['o', 't'] ++ ' ' :: ((Expression.grouped source).toList ++ []))
      (.word "not" :: (.openParen :: (inner.lexemes ++ [.closeParen]) ++ [])) :=
    .word (by decide) (by decide) (written.grouped .nil)
  rw [List.append_nil, List.append_nil] at negated
  have same : (Expression.negationOf source).toList =
      'n' :: ['o', 't'] ++ ' ' :: (Expression.grouped source).toList := by
    simp [Expression.negationOf]
  rw [← same] at negated
  exact states_iff.mpr ⟨.alone (.negation inner.asMember), negated, congrArg Condition.not value⟩

/-- The members of a chain, one after the other. The induction adds a member at
the front, so that what is written begins with a member and not with a
connective. -/
theorem written_chainOf {inner : Derivation .expression} {inners : List (Derivation .expression)}
    (head : Written source.toList inner.lexemes)
    (tail : List.Forall₂ (fun (source : String) (inner : Derivation .expression) =>
      Written source.toList inner.lexemes) sources inners) :
    Written (chainOf joint (source :: sources)).toList
      (inner.asMember.lexemes ++ (Derivation.asChain joint inners).lexemes) := by
  induction tail generalizing source inner with
  | nil =>
      have alone := head.grouped .nil
      simpa [chainOf, Derivation.asChain, Derivation.asMember] using alone
  | @cons next nextInner sources inners nextWritten _ inductionHypothesis =>
      have others := head.grouped (.connective joint (inductionHypothesis nextWritten))
      have split : (chainOf joint (source :: next :: sources)).toList =
          (Expression.grouped source).toList ++ ((" " ++ joint.keyword ++ " ").toList ++
            (chainOf joint (next :: sources)).toList) := by
        simp only [chainOf, List.map_cons, String.intercalate_cons_cons, String.toList_append,
          List.append_assoc]
      rw [split]
      exact others

theorem exists_derivations (states : List.Forall₂ States sources conditions) :
    ∃ inners : List (Derivation .expression), inners.map Derivation.value = conditions ∧
      List.Forall₂ (fun (source : String) (inner : Derivation .expression) =>
        Written source.toList inner.lexemes) sources inners := by
  induction states with
  | nil => exact ⟨[], rfl, .nil⟩
  | cons first _ inductionHypothesis =>
      obtain ⟨inner, written, rfl⟩ := states_iff.mp first
      obtain ⟨inners, rfl, allWritten⟩ := inductionHypothesis
      exact ⟨inner :: inners, rfl, .cons written allWritten⟩

/-- Two or more expressions in parentheses are the members of one condition. -/
theorem states_chainOf (several : 2 ≤ sources.length)
    (states : List.Forall₂ States sources conditions) :
    States (chainOf joint sources) (joint.combine conditions) := by
  obtain ⟨inners, rfl, written⟩ := exists_derivations states
  match sources, inners, written with
  | [], [], .nil => simp at several
  | [_], [_], .cons _ .nil => simp at several
  | source :: next :: sources, first :: second :: inners, .cons head tail =>
      refine states_iff.mpr ⟨.chained joint first.asMember second.asMember
        (Derivation.asChain joint inners), written_chainOf head tail, ?_⟩
      rw [Derivation.value, Derivation.value_asChain]
      rfl

end Expression

/-! ### Include and exclude -/

namespace FilterRule

open Expression

/-- To include what an expression holds of is to exclude what its negation holds
of. -/
theorem exists_dual_rules [PatternEngine] {source : String} {condition : Condition}
    (states : States source condition) :
    ∃ only except : FilterRule, compile [] [] (some source) none = .ok only ∧
      compile [] [] none (some (negationOf source)) = .ok except ∧
      ∀ (target : String) (candidate : Identifier),
        only.filtersOut target candidate = !condition.holds target candidate ∧
        except.filtersOut target candidate = only.filtersOut target candidate := by
  refine ⟨_, _, compile_customIncludes states, compile_customExcludes states.negationOf, ?_⟩
  intro target candidate
  have included : (includingWhere ⟨source, condition⟩).filtersOut target candidate =
      !condition.holds target candidate := filtersOut_includingWhere
  have excluded : (excludingWhere ⟨negationOf source, .not condition⟩).filtersOut target candidate =
      !condition.holds target candidate := by
    rw [filtersOut_excludingWhere, Expression.holds, Condition.holds]
  exact ⟨included, excluded.trans included.symm⟩

end FilterRule

/-- Expressions compose as texts. In parentheses an expression states what it
does without, after a negation it states the opposite, and between connectives
several state one condition that has them as its members. So a rule that
includes by an expression is the rule that excludes by its negation. -/
theorem Expression.states_composed [PatternEngine] :
    (∀ source condition, States source condition →
      States (grouped source) condition ∧ States (negationOf source) (.not condition) ∧
      ∃ only except : FilterRule, FilterRule.compile [] [] (some source) none = .ok only ∧
        FilterRule.compile [] [] none (some (negationOf source)) = .ok except ∧
        ∀ (target : String) (candidate : Identifier),
          only.filtersOut target candidate = !condition.holds target candidate ∧
          except.filtersOut target candidate = only.filtersOut target candidate) ∧
    ∀ (joint : Connective) (sources : List String) (conditions : List Condition),
      2 ≤ sources.length → List.Forall₂ States sources conditions →
      States (chainOf joint sources) (joint.combine conditions) := by
  constructor
  · intro source condition states
    exact ⟨states.grouped, states.negationOf, FilterRule.exists_dual_rules states⟩
  · intro joint sources conditions several states
    exact states_chainOf several states

namespace Expression.Sample

/-- A comparison with a literal that looks like the seam of a chain. -/
def seam : String := enumeration false ⟨"a) or (b", []⟩

def other : String := enumeration true ⟨"c", ["d"]⟩

/-- A chain stays one member of another chain. -/
theorem chain_within_chain :
    States seam (enumerates false ⟨"a) or (b", []⟩) ∧
    States other (enumerates true ⟨"c", ["d"]⟩) ∧
    chainOf .or [seam, other] = "(ids == \"a) or (b\") or (ids != \"c\", \"d\")" ∧
    States (chainOf .and [chainOf .or [seam, other], negationOf seam])
      (.all [.any [enumerates false ⟨"a) or (b", []⟩, enumerates true ⟨"c", ["d"]⟩],
        .not (enumerates false ⟨"a) or (b", []⟩)]) ∧
    ∃ only except, FilterRule.compile [] [] (some seam) none = .ok only ∧
      FilterRule.compile [] [] none (some (negationOf seam)) = .ok except ∧
      except.filtersOut "root" ⟨"library", "c"⟩ = only.filtersOut "root" ⟨"library", "c"⟩ := by
  obtain ⟨alone, chained⟩ := states_composed
  have ofSeam : States seam (enumerates false ⟨"a) or (b", []⟩) := parse_enumeration _ _
  have ofOther : States other (enumerates true ⟨"c", ["d"]⟩) := parse_enumeration _ _
  obtain ⟨_, ofNegation, only, except, included, excluded, agree⟩ := alone _ _ ofSeam
  have either := chained .or [seam, other] _ (by decide) (.cons ofSeam (.cons ofOther .nil))
  have both := chained .and [chainOf .or [seam, other], negationOf seam] _ (by decide)
    (.cons either (.cons ofNegation .nil))
  exact ⟨ofSeam, ofOther, by decide +kernel, both, only, except, included, excluded,
    (agree "root" ⟨"library", "c"⟩).2⟩

end Expression.Sample

end Traceability

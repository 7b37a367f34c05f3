import Traceability.Expression.Basic
import Traceability.Proofs.Expression.Layout
import Traceability.Proofs.Expression.Reading

/-!
Contract: which lexemes a text is written of, wherever it stands.

A layout places its tokens. The lexemes of them stay the same if the text is
moved, so a text may be put together from the front, lexeme by lexeme, without
any count of bytes. The condition that an expression states depends on these
lexemes only.

Owns: the lexemes of a text, the condition of an expression in terms of them,
and the expressions that enumerate literals.
Does not own: where the tokens stand, and what the grammar derives.
-/

namespace Traceability.Expression

open Traceability.Text

/-- A text that is made of blanks and of the spellings of lexemes. A word ends
where it could not be longer. -/
inductive Written : List Char → List Lexeme → Prop where
  | nil : Written [] []
  | blank {c : Char} {text : List Char} {contents : List Lexeme} (blank : isBlank c = true)
      (others : Written text contents) : Written (c :: text) contents
  | lexeme {lexeme : Lexeme} {spelling text : List Char} {contents : List Lexeme}
      (spells : Spells lexeme spelling) (ends : lexeme.IsWord → ¬BeginsInWord text)
      (others : Written text contents) : Written (spelling ++ text) (lexeme :: contents)

variable {text : List Char} {contents : List Lexeme} {tokens : List Token} {offset : Nat}

/-- Whatever is written can be laid out at any place. -/
theorem Written.layout (written : Written text contents) (offset : Nat) :
    ∃ tokens, Layout offset text tokens ∧ lexemes tokens = contents := by
  induction written generalizing offset with
  | nil => exact ⟨[], .nil, rfl⟩
  | @blank c _ _ blank _ inductionHypothesis =>
      obtain ⟨tokens, layout, same⟩ := inductionHypothesis (offset + c.utf8Size)
      exact ⟨tokens, .blank blank layout, same⟩
  | @lexeme lexeme spelling _ _ spells ends _ inductionHypothesis =>
      obtain ⟨tokens, layout, same⟩ := inductionHypothesis (offset + byteSize spelling)
      refine ⟨⟨lexeme, offset⟩ :: tokens, ?_, by rw [lexemes_cons, same]⟩
      exact .token_of_ends spells [] (by rwa [List.append_nil]) layout

/-- Whatever is laid out is written of its lexemes. -/
theorem Layout.written (layout : Layout offset text tokens) : Written text (lexemes tokens) := by
  induction layout with
  | nil => exact .nil
  | blank blank _ inductionHypothesis => exact .blank blank inductionHypothesis
  | token spells apart others inductionHypothesis =>
      refine .lexeme spells ?_ inductionHypothesis
      intro isWord begins
      obtain ⟨next, isNext, nextIsWord, adjacent⟩ := others.beginsInWord_iff.mp begins
      have isApart := apart isWord next isNext nextIsWord
      rw [adjacent] at isApart
      exact Nat.lt_irrefl _ isApart

theorem Written.literal {text : String} {after : List Char} (others : Written after contents) :
    Written ((quoted text).toList ++ after) (.literal text :: contents) :=
  .lexeme (spells_quoted text) nofun others

theorem spells_sign (negated : Bool) :
    Spells (sign negated) (if negated then "!=" else "==").toList := by
  cases negated with
  | false => exact .equal
  | true => exact .unequal

theorem sign_not_word (negated : Bool) : ¬(sign negated).IsWord := by
  cases negated <;> exact nofun

variable [PatternEngine] {source : String} {condition : Condition} {negated : Bool}
  {texts : NonEmptyList String}

/-- An expression states a condition exactly if it is written of the lexemes of
a derivation of it. -/
theorem parseCondition_eq_ok_iff :
    parseCondition source = .ok condition ↔
      ∃ derivation : Derivation .expression,
        Written source.toList derivation.lexemes ∧ derivation.value = condition := by
  constructor
  · intro parsed
    unfold parseCondition at parsed
    split at parsed
    next => cases parsed
    next tokens found =>
      split at parsed
      next read =>
        cases parsed
        obtain ⟨derivation, same, value, _⟩ := parseTokens_ok read
        obtain ⟨body, rfl, layout⟩ := tokenize_eq_ok_iff.mp found
        rw [List.dropLast_concat] at same
        refine ⟨derivation, ?_, value⟩
        rw [same]
        exact layout.written
      next => cases parsed
  · rintro ⟨derivation, written, rfl⟩
    obtain ⟨tokens, layout, same⟩ := written.layout 0
    have found := tokenize_of_layout layout
    have read : parseTokens tokens = .ok derivation.value :=
      (parseTokens_of_lexemes same.symm).1
    unfold parseCondition
    rw [found]
    dsimp only
    rw [List.dropLast_concat, read]

/-! ### Enumerations of literals -/

/-- The comparison with the given literals. -/
def enumeration (negated : Bool) (texts : NonEmptyList String) : String :=
  "ids " ++ (if negated then "!=" else "==") ++ " " ++
    ", ".intercalate (texts.toList.map quoted)

/-- What the comparison with literals states. -/
def enumerates (negated : Bool) (texts : NonEmptyList String) : Condition :=
  .comparison negated ⟨.literal texts.head, texts.tail.map .literal⟩

/-- The literals as operands. -/
def literals (head : String) : (tail : List String) → Derivation .operands
  | [] => .one (.literal head)
  | next :: tail => .another (.literal head) (literals next tail)

theorem value_literals (head : String) (tail : List String) :
    (literals head tail).value = ⟨.literal head, tail.map .literal⟩ := by
  induction tail generalizing head with
  | nil => rfl
  | cons next tail inductionHypothesis =>
      rw [literals, Derivation.value, inductionHypothesis]
      rfl

theorem written_literals (head : String) (tail : List String) :
    Written (", ".intercalate ((head :: tail).map quoted)).toList
      (literals head tail).lexemes := by
  induction tail generalizing head with
  | nil =>
      rw [List.map_singleton, String.intercalate_singleton, ← List.append_nil (quoted head).toList]
      exact .literal .nil
  | cons next tail inductionHypothesis =>
      have blank : Written (' ' :: (", ".intercalate ((next :: tail).map quoted)).toList)
          (literals next tail).lexemes := .blank (by decide) (inductionHypothesis next)
      have others : Written (',' :: ' ' :: (", ".intercalate ((next :: tail).map quoted)).toList)
          (.comma :: (literals next tail).lexemes) := .lexeme .comma nofun blank
      rw [List.map_cons, List.map_cons, String.intercalate_cons_cons, String.toList_append,
        String.toList_append, List.append_assoc]
      exact .literal others

theorem written_enumeration :
    Written (enumeration negated texts).toList
      (Derivation.comparison negated (literals texts.head texts.tail)).lexemes := by
  have goesOn : ∀ c ∈ ['d', 's'], isWordCharacter c = true := List.all_eq_true.mp rfl
  have field : Spells (.word "ids") ['i', 'd', 's'] := .word rfl goesOn
  have operands : Written (' ' :: (", ".intercalate (texts.toList.map quoted)).toList)
      (literals texts.head texts.tail).lexemes :=
    .blank (by decide) (written_literals texts.head texts.tail)
  have comparison := Written.lexeme (spells_sign negated)
    (fun isWord => absurd isWord (sign_not_word negated)) operands
  have whole : (enumeration negated texts).toList =
      ['i', 'd', 's'] ++ ' ' :: ((if negated then "!=" else "==").toList ++
        ' ' :: (", ".intercalate (texts.toList.map quoted)).toList) := by
    unfold enumeration
    simp
  rw [whole]
  -- The field is a word, so that it matters what follows it: a blank.
  refine .lexeme field ?_ (.blank (by decide) comparison)
  rintro _ ⟨_, ⟨⟩, isWord⟩
  exact absurd isWord (by decide)

/-- A comparison with literals is read as one, whatever they are. -/
theorem parse_enumeration (negated : Bool) (texts : NonEmptyList String) :
    parse (enumeration negated texts) =
      .ok ⟨enumeration negated texts, enumerates negated texts⟩ := by
  have read : parseCondition (enumeration negated texts) = .ok (enumerates negated texts) := by
    refine parseCondition_eq_ok_iff.mpr ⟨.alone (.plain (.compared (.comparison negated
      (literals texts.head texts.tail)))), written_enumeration, ?_⟩
    simp only [Derivation.value, value_literals, enumerates]
  rw [parse, read]

end Traceability.Expression

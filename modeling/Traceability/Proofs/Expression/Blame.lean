import Traceability.Pattern.Basic
import Traceability.Proofs.Collections
import Traceability.Proofs.Expression.Layout
import Traceability.Proofs.Expression.Reading

/-!
Contract: what the offset of a syntax error says.

Tokens stand at increasing places, so an offset names one token of an
expression, which may be its end.

Owns: that the tokens before this one can be completed to an expression, and
that no expression goes on with it.
Does not own: errors of expressions that do not divide into tokens.
-/

namespace Traceability.Expression

variable {tokens consumed rest : List Token} {token : Token}

/-! ### Places -/

/-- Where offsets increase, one of them stands for one place. -/
theorem eq_of_offset_eq (increasing : (tokens.map Token.offset).Pairwise (· < ·))
    (split : tokens = consumed ++ token :: rest) {before after : List Token} {other : Token}
    (splitAlso : tokens = before ++ other :: after) (same : token.offset = other.offset) :
    consumed = before ∧ token = other := by
  induction consumed generalizing tokens before with
  | nil =>
      cases before with
      | nil =>
          rw [split] at splitAlso
          exact ⟨rfl, (List.cons.inj splitAlso).1⟩
      | cons head before =>
          obtain ⟨rfl, beyond⟩ := List.cons.inj (split.symm.trans splitAlso)
          rw [split, List.nil_append, List.map_cons, List.pairwise_cons] at increasing
          have later : token.offset < other.offset :=
            increasing.1 _ (List.mem_map_of_mem (by rw [beyond]; simp))
          exact absurd same (Nat.ne_of_lt later)
  | cons first consumed inductionHypothesis =>
      rw [split, List.cons_append, List.map_cons, List.pairwise_cons] at increasing
      cases before with
      | nil =>
          obtain ⟨rfl, -⟩ := List.cons.inj (split.symm.trans splitAlso)
          have later : first.offset < token.offset :=
            increasing.1 _ (List.mem_map_of_mem (by simp))
          exact absurd same (Nat.ne_of_gt later)
      | cons head before =>
          obtain ⟨rfl, beyond⟩ := List.cons.inj (split.symm.trans splitAlso)
          obtain ⟨rfl, sameToken⟩ := inductionHypothesis increasing.2 rfl beyond
          exact ⟨rfl, sameToken⟩

/-! ### Blamed tokens -/

theorem endOfText_ne_sign (negated : Bool) : Lexeme.endOfText ≠ sign negated := by
  cases negated <;> exact nofun

/-- The end is no part of what is laid out. -/
theorem Layout.endOfText_not_mem {offset : Nat} {text : List Char}
    (layout : Layout offset text tokens) : .endOfText ∉ lexemes tokens := by
  intro member
  obtain ⟨token, isToken, isEnd⟩ := List.mem_map.mp member
  obtain ⟨_, _, _, _, spells, _⟩ := layout.stands isToken
  rw [isEnd] at spells
  cases spells

section Blaming

variable [PatternEngine]

theorem endOfText_ne_operand (operand : Operand) : Lexeme.endOfText ≠ operand.lexeme := by
  cases operand <;> exact nofun

/-- The end is no part of what is derived. -/
theorem Derivation.endOfText_not_mem {nonterminal : Nonterminal}
    (derivation : Derivation nonterminal) : .endOfText ∉ derivation.lexemes := by
  induction derivation <;> simp_all [Connective.lexeme, endOfText_ne_operand, endOfText_ne_sign]

/-- The lexemes before the blamed one can be completed to an expression. No
expression goes on with this one, and none ends there if it is the end. -/
structure BlamesToken (consumed : List Lexeme) (blamed : Lexeme) : Prop where
  completable : ∃ completion, Accepted (consumed ++ completion)
  hopeless : ∀ tail, ¬Accepted (consumed ++ blamed :: tail)
  unfinished : blamed = .endOfText → ¬Accepted consumed

/-- Where no lexemes are left, it is the end that is to blame. -/
theorem Blames.atEnd {before : List Lexeme} (blames : Blames before []) :
    BlamesToken before .endOfText where
  completable := blames.completable
  hopeless := by
    rintro tail ⟨derivation, same⟩
    exact derivation.endOfText_not_mem (by simp [same])
  unfinished := by
    intro _ accepted
    exact blames.hopeless [] rfl (by rwa [List.append_nil])

theorem Blames.atLexeme {before after : List Lexeme} {blamed : Lexeme}
    (blames : Blames before (blamed :: after)) (notEnd : blamed ≠ .endOfText) :
    BlamesToken before blamed where
  completable := blames.completable
  hopeless := fun tail => blames.hopeless (blamed :: tail) rfl
  unfinished := fun isEnd => absurd isEnd notEnd

/-- A failure is at one of the tokens, of which the end is the last one. -/
theorem exists_blamed_of_parseTokens {failure : Failure} {offset total : Nat} {text : List Char}
    (layout : Layout offset text tokens) (failed : parseTokens tokens = .error failure) :
    ∃ consumed token rest, tokens ++ [⟨.endOfText, total⟩] = consumed ++ token :: rest ∧
      failure.offset total = token.offset ∧ BlamesToken (lexemes consumed) token.lexeme := by
  obtain ⟨consumed, split, blames⟩ := parseTokens_error failed
  unfold Failure.offset
  cases left : failure.rest with
  | nil =>
      rw [left] at split blames
      rw [List.append_nil] at split
      exact ⟨consumed, ⟨.endOfText, total⟩, [], by rw [split], rfl, blames.atEnd⟩
  | cons token rest =>
      rw [left] at split blames
      have notEnd : token.lexeme ≠ .endOfText := by
        intro isEnd
        apply layout.endOfText_not_mem
        rw [← isEnd, split]
        exact List.mem_map_of_mem (by simp)
      exact ⟨consumed, token, rest ++ [⟨.endOfText, total⟩], by rw [split]; simp, rfl,
        blames.atLexeme notEnd⟩

/-- If an expression divides into tokens but states no condition, then the
offset of the error is that of a token, which may be the end. The tokens before
it can be completed to an expression; no expression goes on with it, and none
ends there if it is the end. -/
theorem blames_of_parseCondition {source : String} {error : SyntaxError}
    (found : tokenize source = .ok tokens) (failed : parseCondition source = .error error) :
    (∃ consumed token rest, tokens = consumed ++ token :: rest ∧ error.offset = token.offset) ∧
    ∀ consumed token rest, tokens = consumed ++ token :: rest → error.offset = token.offset →
      BlamesToken (lexemes consumed) token.lexeme := by
  have increasing := tokenize_increasing found
  obtain ⟨body, whole, layout⟩ := tokenize_eq_ok_iff.mp found
  unfold parseCondition at failed
  rw [found] at failed
  dsimp only at failed
  rw [whole, List.dropLast_concat] at failed
  split at failed
  next => cases failed
  next failure stopped =>
    cases failed
    rw [byteSize_toList]
    obtain ⟨consumed, token, rest, split, place, blames⟩ :=
      exists_blamed_of_parseTokens layout stopped
    rw [← whole] at split
    refine ⟨⟨consumed, token, rest, split, place⟩, ?_⟩
    intro before other after splitAlso placeAlso
    obtain ⟨rfl, rfl⟩ := eq_of_offset_eq increasing split splitAlso (place.symm.trans placeAlso)
    exact blames

end Blaming

namespace Sample

def mixed : String := "ids == \"A\" and ids == \"B\" or ids == \"C\""

/-- The tokens before the end. -/
def mixedTokens : List Token :=
  [⟨.word "ids", 0⟩, ⟨.equal, 4⟩, ⟨.literal "A", 7⟩, ⟨.word "and", 11⟩, ⟨.word "ids", 15⟩,
    ⟨.equal, 19⟩, ⟨.literal "B", 22⟩, ⟨.word "or", 26⟩, ⟨.word "ids", 29⟩, ⟨.equal, 33⟩,
    ⟨.literal "C", 36⟩]

/-- After a second condition and its connective, the other one is too late. -/
theorem second_connective_blamed :
    tokenize mixed = .ok (mixedTokens ++ [⟨.endOfText, 39⟩]) ∧
      parseCondition mixed = .error ⟨mixed, 26, .mixedConnectives⟩ ∧
      BlamesToken (lexemes (mixedTokens.take 7)) (.word "or") := by
  have tokenized : (tokenize mixed).toOption = some (mixedTokens ++ [⟨.endOfText, 39⟩]) := by
    decide +kernel
  have found : tokenize mixed = .ok (mixedTokens ++ [⟨.endOfText, 39⟩]) :=
    toOption_eq_some_iff.mp tokenized
  have stopped : parseTokens mixedTokens = .error ⟨mixedTokens.drop 7, .mixedConnectives⟩ := by
    simp [mixedTokens, parseTokens, parseExpression, parseChain, parseUnary, parsePrimary,
      parseComparison, parseOperands, operandOf, isNegation, connective?, Connective.keyword,
      Connective.other]
  have failed : parseCondition mixed = .error ⟨mixed, 26, .mixedConnectives⟩ := by
    unfold parseCondition
    rw [found]
    dsimp only
    rw [List.dropLast_concat, stopped]
    rfl
  exact ⟨found, failed, (blames_of_parseCondition found failed).2 (mixedTokens.take 7)
    ⟨.word "or", 26⟩ (mixedTokens.drop 8 ++ [⟨.endOfText, 39⟩]) rfl rfl⟩

end Sample

end Traceability.Expression

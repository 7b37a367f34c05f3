import Traceability.Expression.Condition
import Traceability.Expression.Lexer

/-!
Contract: reading tokens as a condition.

    expression := unary (('and' unary)+ | ('or' unary)+)?
    unary      := 'not' unary | primary
    primary    := '(' expression ')' | comparison
    comparison := 'ids' ('==' | '!=') operand (',' operand)*
    operand    := LITERAL | PATTERN

Connectives of both kinds never meet on one level, parentheses leave no trace,
and the keywords are ordinary words in every other respect. Each reader takes
tokens from the front and shows that it takes at least one. The token for the
end is never taken, so that readers are given only those before it. Whether a
text is a pattern is up to the engine.

Owns: the grammar, and which token a failure is blamed on.
Does not own: the spelling of tokens.
-/

namespace Traceability.Expression

/-- A failure, with the tokens from the offending one on; none are left when
the end of the expression is to blame. -/
structure Failure where
  rest : List Token
  reason : Reason
deriving DecidableEq, Repr

/-- What comes first among the tokens before the end, or the end itself. -/
def peek : List Token → Lexeme
  | [] => .endOfText
  | token :: _ => token.lexeme

/-- The first token was not what the grammar allows. -/
def Failure.unexpected (rest : List Token) (expected : Expectation) : Failure :=
  ⟨rest, .unexpectedToken expected (peek rest)⟩

/-- What was read, and the tokens after it, which are fewer than `limit`. -/
structure Parsed (α : Type) (limit : Nat) where
  value : α
  rest : List Token
  shorter : rest.length < limit

/-- The two ways to chain conditions on one level. -/
inductive Connective where
  | and
  | or
deriving DecidableEq, Repr

def Connective.keyword : Connective → String
  | .and => "and"
  | .or => "or"

def Connective.other : Connective → Connective
  | .and => .or
  | .or => .and

variable [PatternEngine]

def Connective.combine : Connective → List Condition → Condition
  | .and => .all
  | .or => .any

/-- The connective that the first token is, if it is one. -/
def connective? : List Token → Option Connective
  | ⟨.word text, _⟩ :: _ =>
      if text = Connective.and.keyword then some .and
      else if text = Connective.or.keyword then some .or
      else none
  | _ => none

def isNegation : List Token → Bool
  | ⟨.word text, _⟩ :: _ => text = "not"
  | _ => false

/-- The operand that a token is. -/
def operandOf (token : Token) (rest : List Token) : Except Failure Operand :=
  match token.lexeme with
  | .literal text => .ok (.literal text)
  | .pattern text =>
      match PatternEngine.compile? text with
      | some regex => .ok (.pattern regex)
      | none => .error ⟨token :: rest, .invalidPattern text⟩
  | _ => .error (.unexpected (token :: rest) .operand)

/-- Operands with commas between them, at least one. -/
def parseOperands : (tokens : List Token) →
    Except Failure (Parsed (NonEmptyList Operand) tokens.length)
  | [] => .error (.unexpected [] .operand)
  | token :: rest =>
      match operandOf token rest with
      | .error failure => .error failure
      | .ok operand =>
          match rest with
          | ⟨.comma, _⟩ :: more =>
              match parseOperands more with
              | .error failure => .error failure
              | .ok ⟨others, after, shorter⟩ =>
                  .ok ⟨⟨operand, others.toList⟩, after, by
                    simp only [List.length_cons]; omega⟩
          | after => .ok ⟨⟨operand, []⟩, after, by simp⟩

/-- The rest of a comparison, after its field. -/
def parseComparison : (tokens : List Token) →
    Except Failure (Parsed Condition tokens.length)
  | ⟨.equal, _⟩ :: rest =>
      match parseOperands rest with
      | .error failure => .error failure
      | .ok ⟨operands, after, shorter⟩ =>
          .ok ⟨.comparison false operands, after, by simp only [List.length_cons]; omega⟩
  | ⟨.unequal, _⟩ :: rest =>
      match parseOperands rest with
      | .error failure => .error failure
      | .ok ⟨operands, after, shorter⟩ =>
          .ok ⟨.comparison true operands, after, by simp only [List.length_cons]; omega⟩
  | tokens => .error (.unexpected tokens .comparisonSign)

mutual

def parseExpression (tokens : List Token) :
    Except Failure (Parsed Condition tokens.length) :=
  match parseUnary tokens with
  | .error failure => .error failure
  | .ok ⟨first, rest, shorter⟩ =>
      match connective? rest with
      | none => .ok ⟨first, rest, shorter⟩
      | some connective =>
          match parseChain connective rest with
          | .error failure => .error failure
          | .ok ⟨others, after, chainShorter⟩ =>
              .ok ⟨connective.combine (first :: others), after, by omega⟩
termination_by (tokens.length, 2)

/-- The members that a connective adds. The other connective cannot follow. -/
def parseChain (connective : Connective) (tokens : List Token) :
    Except Failure (Parsed (List Condition) (tokens.length + 1)) :=
  match tokens with
  | [] => .ok ⟨[], [], by simp⟩
  | token :: rest =>
      if connective? (token :: rest) = some connective then
        match parseUnary rest with
        | .error failure => .error failure
        | .ok ⟨member, after, shorter⟩ =>
            match parseChain connective after with
            | .error failure => .error failure
            | .ok ⟨others, last, chainShorter⟩ =>
                .ok ⟨member :: others, last, by simp only [List.length_cons]; omega⟩
      else if connective? (token :: rest) = some connective.other then
        .error ⟨token :: rest, .mixedConnectives⟩
      else .ok ⟨[], token :: rest, by simp⟩
termination_by (tokens.length, 0)

def parseUnary (tokens : List Token) : Except Failure (Parsed Condition tokens.length) :=
  match tokens with
  | [] => .error (.unexpected [] .comparisonOrGroup)
  | token :: rest =>
      if isNegation (token :: rest) then
        match parseUnary rest with
        | .error failure => .error failure
        | .ok ⟨member, after, shorter⟩ =>
            .ok ⟨.not member, after, by simp only [List.length_cons]; omega⟩
      else parsePrimary token rest
termination_by (tokens.length, 1)

def parsePrimary (token : Token) (rest : List Token) :
    Except Failure (Parsed Condition (token :: rest).length) :=
  match token.lexeme with
  | .openParen =>
      match parseExpression rest with
      | .error failure => .error failure
      | .ok ⟨inner, after, shorter⟩ =>
          match after with
          | ⟨.closeParen, _⟩ :: last =>
              .ok ⟨inner, last, by simp only [List.length_cons] at shorter ⊢; omega⟩
          | _ => .error (.unexpected after .closeParen)
  | .word text =>
      if text = "ids" then
        match parseComparison rest with
        | .error failure => .error failure
        | .ok ⟨comparison, after, shorter⟩ =>
            .ok ⟨comparison, after, by simp only [List.length_cons]; omega⟩
      else if ["and", "or", "not"].contains text then
        .error (.unexpected (token :: rest) .comparisonOrGroup)
      else .error ⟨token :: rest, .unknownField text⟩
  | _ => .error (.unexpected (token :: rest) .comparisonOrGroup)
termination_by (rest.length + 1, 0)

end

/-- Reads all the tokens before the end as one expression. -/
def parseTokens (tokens : List Token) : Except Failure Condition :=
  match tokens with
  | [] => .error ⟨[], .empty⟩
  | _ =>
      match parseExpression tokens with
      | .error failure => .error failure
      | .ok ⟨condition, [], _⟩ => .ok condition
      | .ok ⟨_, rest, _⟩ => .error (.unexpected rest .endOfExpression)

/-- Where a failure shows in a text of `total` bytes. -/
def Failure.offset (total : Nat) (failure : Failure) : Nat :=
  match failure.rest with
  | [] => total
  | token :: _ => token.offset

/-- The condition that an expression states. -/
def parseCondition (source : String) : Except SyntaxError Condition :=
  match tokenize source with
  | .error failure => .error failure
  | .ok tokens =>
      match parseTokens tokens.dropLast with
      | .ok condition => .ok condition
      | .error failure =>
          .error ⟨source, failure.offset (byteSize source.toList), failure.reason⟩

end Traceability.Expression

import Traceability.Expression.Lexeme

/-!
Contract: why a text is no filter expression.

Owns: the causes, and the message for each.
Does not own: when a cause arises.
-/

namespace Traceability.Expression

/-- What the grammar allows where something else was found. -/
inductive Expectation where
  | comparisonOrGroup
  | comparisonSign
  | operand
  | closeParen
  | endOfExpression
deriving DecidableEq, Repr

def Expectation.display : Expectation → String
  | .comparisonOrGroup => "comparison or '('"
  | .comparisonSign => "'==' or '!='"
  | .operand => "quoted id or /regex/"
  | .closeParen => "')'"
  | .endOfExpression => "end of expression"

inductive Reason where
  | empty
  | unexpectedCharacter (c : Char)
  | unterminatedLiteral
  | unterminatedPattern
  | unexpectedToken (expected : Expectation) (found : Lexeme)
  | unknownField (field : String)
  | mixedConnectives
  | invalidPattern (text : String)
deriving DecidableEq, Repr

def Reason.message : Reason → String
  | .empty => "empty expression"
  | .unexpectedCharacter c => s!"unexpected character '{c}'"
  | .unterminatedLiteral => "unterminated string literal"
  | .unterminatedPattern => "unterminated regex"
  | .unexpectedToken expected found =>
      s!"expected {expected.display}, found {found.display}"
  | .unknownField field => s!"unknown field '{field}', expected 'ids'"
  | .mixedConnectives => "'and' and 'or' cannot be mixed without parentheses"
  | .invalidPattern text => s!"invalid regex /{text}/"

/-- A cause, with the expression and the byte offset in it where it shows. -/
structure SyntaxError where
  source : String
  offset : Nat
  reason : Reason
deriving DecidableEq, Repr

def SyntaxError.message (error : SyntaxError) : String :=
  s!"invalid filter expression '{error.source}' at offset {error.offset}: " ++
    error.reason.message

end Traceability.Expression

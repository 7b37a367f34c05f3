/-!
Contract: the words of filter expressions.

A lexeme is a bare word, a quoted literal, a pattern between slashes, a
comparison sign, or punctuation; literals and patterns are kept as they read
once their escapes are resolved. Where the expression is over there is one more
lexeme, which says so. A token is a lexeme with the place where it was written,
counted in bytes from the beginning of the expression.

Owns: lexemes, tokens, and how a lexeme is quoted in messages.
Does not own: how lexemes are spelled in an expression.
-/

namespace Traceability.Expression

inductive Lexeme where
  | word (text : String)
  | literal (text : String)
  | pattern (text : String)
  | equal
  | unequal
  | comma
  | openParen
  | closeParen
  | endOfText
deriving DecidableEq, Repr

/-- The lexeme as messages quote it. -/
def Lexeme.display : Lexeme → String
  | .word text => s!"'{text}'"
  | .literal text => "\"" ++ text ++ "\""
  | .pattern text => s!"/{text}/"
  | .equal => "'=='"
  | .unequal => "'!='"
  | .comma => "','"
  | .openParen => "'('"
  | .closeParen => "')'"
  | .endOfText => "end of expression"

structure Token where
  lexeme : Lexeme
  offset : Nat
deriving DecidableEq, Repr

end Traceability.Expression

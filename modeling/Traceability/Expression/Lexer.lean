import Traceability.Expression.Error
import Traceability.Text.Blank

/-!
Contract: dividing an expression into tokens.

Blanks separate tokens and are dropped. In a quoted literal a backslash makes
the next character stand for itself; in a pattern it does so for a slash
alone, and is kept with any other character. Both end at their closing sign.
After all tokens comes one for the end, at the number of bytes.

Owns: the spelling of lexemes, and offsets.
Does not own: which sequences of tokens are expressions.
-/

namespace Traceability.Expression

open Traceability.Text

/-- Bytes of a text in UTF-8. -/
def byteSize : List Char → Nat
  | [] => 0
  | c :: rest => c.utf8Size + byteSize rest

def isWordStart (c : Char) : Bool := c.isAlpha || c = '_'

def isWordCharacter (c : Char) : Bool := c.isAlphanum || c = '_'

/-- The characters of a literal up to its closing quote, and what follows it. -/
def scanLiteral : List Char → Option (List Char × List Char)
  | [] => none
  | '"' :: rest => some ([], rest)
  | '\\' :: c :: rest => (scanLiteral rest).map fun scanned => (c :: scanned.1, scanned.2)
  | '\\' :: [] => none
  | c :: rest => (scanLiteral rest).map fun scanned => (c :: scanned.1, scanned.2)

/-- The characters of a pattern up to its closing slash, and what follows it. -/
def scanPattern : List Char → Option (List Char × List Char)
  | [] => none
  | '/' :: rest => some ([], rest)
  | '\\' :: '/' :: rest => (scanPattern rest).map fun scanned => ('/' :: scanned.1, scanned.2)
  | '\\' :: c :: rest =>
      (scanPattern rest).map fun scanned => ('\\' :: c :: scanned.1, scanned.2)
  | '\\' :: [] => none
  | c :: rest => (scanPattern rest).map fun scanned => (c :: scanned.1, scanned.2)

/-- The lexeme that begins with `c`, and what follows it. -/
def scanLexeme (c : Char) (rest : List Char) : Except Reason (Lexeme × List Char) :=
  match c, rest with
  | '(', _ => .ok (.openParen, rest)
  | ')', _ => .ok (.closeParen, rest)
  | ',', _ => .ok (.comma, rest)
  | '=', '=' :: after => .ok (.equal, after)
  | '!', '=' :: after => .ok (.unequal, after)
  | '"', _ =>
      match scanLiteral rest with
      | some (text, after) => .ok (.literal (String.ofList text), after)
      | none => .error .unterminatedLiteral
  | '/', _ =>
      match scanPattern rest with
      | some (text, after) => .ok (.pattern (String.ofList text), after)
      | none => .error .unterminatedPattern
  | _, _ =>
      if isWordStart c then
        .ok (.word (String.ofList (c :: rest.takeWhile isWordCharacter)),
          rest.dropWhile isWordCharacter)
      else .error (.unexpectedCharacter c)

theorem length_scanLiteral {text scanned after : List Char}
    (found : scanLiteral text = some (scanned, after)) : after.length < text.length := by
  fun_induction scanLiteral text generalizing scanned with
  | case1 => cases found
  | case2 rest => cases found; simp
  | case3 c rest inductionHypothesis =>
      obtain ⟨inner, innerFound, equal⟩ := Option.map_eq_some_iff.1 found
      cases equal
      have := inductionHypothesis innerFound
      simp only [List.length_cons]
      omega
  | case4 => cases found
  | case5 c rest _ _ _ inductionHypothesis =>
      obtain ⟨inner, innerFound, equal⟩ := Option.map_eq_some_iff.1 found
      cases equal
      have := inductionHypothesis innerFound
      simp only [List.length_cons]
      omega

theorem length_scanPattern {text scanned after : List Char}
    (found : scanPattern text = some (scanned, after)) : after.length < text.length := by
  fun_induction scanPattern text generalizing scanned with
  | case1 => cases found
  | case2 rest => cases found; simp
  | case3 rest inductionHypothesis =>
      obtain ⟨inner, innerFound, equal⟩ := Option.map_eq_some_iff.1 found
      cases equal
      have := inductionHypothesis innerFound
      simp only [List.length_cons]
      omega
  | case4 c rest _ inductionHypothesis =>
      obtain ⟨inner, innerFound, equal⟩ := Option.map_eq_some_iff.1 found
      cases equal
      have := inductionHypothesis innerFound
      simp only [List.length_cons]
      omega
  | case5 => cases found
  | case6 c rest _ _ _ _ inductionHypothesis =>
      obtain ⟨inner, innerFound, equal⟩ := Option.map_eq_some_iff.1 found
      cases equal
      have := inductionHypothesis innerFound
      simp only [List.length_cons]
      omega

theorem length_dropWhile_le (p : Char → Bool) (text : List Char) :
    (text.dropWhile p).length ≤ text.length :=
  (List.dropWhile_suffix p).length_le

/-- A lexeme takes at least its first character. -/
theorem length_scanLexeme {c : Char} {rest after : List Char} {lexeme : Lexeme}
    (scanned : scanLexeme c rest = .ok (lexeme, after)) : after.length ≤ rest.length := by
  unfold scanLexeme at scanned
  split at scanned
  · cases scanned; exact Nat.le_refl _
  · cases scanned; exact Nat.le_refl _
  · cases scanned; exact Nat.le_refl _
  · cases scanned; simp
  · cases scanned; simp
  · split at scanned
    · rename_i found
      cases scanned
      exact Nat.le_of_lt (length_scanLiteral found)
    · cases scanned
  · split at scanned
    · rename_i found
      cases scanned
      exact Nat.le_of_lt (length_scanPattern found)
    · cases scanned
  · split at scanned
    · cases scanned
      exact length_dropWhile_le _ _
    · cases scanned

/-- The tokens of the rest of a text of `total` bytes, with the end as the last
one, or the offset and the reason of the first failure. -/
def tokensOf (total : Nat) (text : List Char) : Except (Nat × Reason) (List Token) :=
  match text with
  | [] => .ok [⟨.endOfText, total⟩]
  | c :: rest =>
      if isBlank c then tokensOf total rest
      else
        let offset := total - byteSize (c :: rest)
        match _scanned : scanLexeme c rest with
        | .error reason => .error (offset, reason)
        | .ok (lexeme, after) =>
            match tokensOf total after with
            | .error failure => .error failure
            | .ok tokens => .ok (⟨lexeme, offset⟩ :: tokens)
termination_by text.length
decreasing_by
  · simp
  · have := length_scanLexeme ‹_›
    simp only [List.length_cons]
    omega

/-- The tokens of an expression. The last one is its end. -/
def tokenize (source : String) : Except SyntaxError (List Token) :=
  match tokensOf (byteSize source.toList) source.toList with
  | .ok tokens => .ok tokens
  | .error (offset, reason) => .error ⟨source, offset, reason⟩

end Traceability.Expression

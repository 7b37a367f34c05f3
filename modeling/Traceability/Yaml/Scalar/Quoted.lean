import Traceability.Text.Hexadecimal
import Traceability.Yaml.Scalar.Gap

/-!
Contract: scalars in quotes.

Between single quotes a quote is written twice and nothing else is special.
Between double quotes a backslash begins an escape; before a line end it joins
the lines. Both may span lines, but hold no marker at the start of one.

Owns: where a quoted scalar ends, its escapes, and its text.
Does not own: where one may begin.
-/

namespace Traceability.Yaml

open Traceability.Text

/-- Characters that a single letter after a backslash stands for. -/
def namedEscape? : Char → Option Char
  | '0' => some '\x00'
  | 'a' => some '\x07'
  | 'b' => some '\x08'
  | 't' => some '\t'
  | '\t' => some '\t'
  | 'n' => some '\n'
  | 'v' => some '\x0B'
  | 'f' => some '\x0C'
  | 'r' => some '\r'
  | 'e' => some '\x1B'
  | ' ' => some ' '
  | '"' => some '"'
  | '/' => some '/'
  | '\\' => some '\\'
  | 'N' => some '\u0085'
  | '_' => some '\u00A0'
  | 'L' => some '\u2028'
  | 'P' => some '\u2029'
  | _ => none

/-- How many hexadecimal digits follow a letter after a backslash. -/
def codeEscapeLength? : Char → Option Nat
  | 'x' => some 2
  | 'u' => some 4
  | 'U' => some 8
  | _ => none

/-- Reads up to the closing single quote. `word` is the text so far, backwards,
and `gap` what stands behind its last word. -/
def singleQuotedFrom? (word : List Char) (gap : Gap) :
    List Glyph → Option (String × List Glyph)
  | [] => none
  | glyph :: rest =>
      if isBlank glyph.char then singleQuotedFrom? word (gap.addBlank glyph.char) rest
      else if isBreak glyph.char then singleQuotedFrom? word (gap.addBreak glyph.char) rest
      else if isDocumentMarker (glyph :: rest) then none
      else
        let word := gap.reversedText ++ word
        if glyph.char = '\'' then
          match rest with
          | next :: after =>
              if next.char = '\'' then singleQuotedFrom? ('\'' :: word) .none after
              else some (String.ofList word.reverse, rest)
          | [] => some (String.ofList word.reverse, rest)
        else singleQuotedFrom? (glyph.char :: word) .none rest

/-- Reads up to the closing double quote. -/
def doubleQuotedFrom? (word : List Char) (gap : Gap) (glyphs : List Glyph) :
    Option (String × List Glyph) :=
  match glyphs with
  | [] => none
  | glyph :: rest =>
      if isBlank glyph.char then doubleQuotedFrom? word (gap.addBlank glyph.char) rest
      else if isBreak glyph.char then doubleQuotedFrom? word (gap.addBreak glyph.char) rest
      else if isDocumentMarker (glyph :: rest) then none
      else
        let word := gap.reversedText ++ word
        if glyph.char = '"' then some (String.ofList word.reverse, rest)
        else if glyph.char = '\\' then
          match rest with
          | [] => none
          | letter :: after =>
              if isBreak letter.char then doubleQuotedFrom? word .escaped after
              else
                match codeEscapeLength? letter.char with
                | some length =>
                    match charOfHex? length ((after.take length).map Glyph.char) with
                    | some c => doubleQuotedFrom? (c :: word) .none (after.drop length)
                    | none => none
                | none =>
                    match namedEscape? letter.char with
                    | some c => doubleQuotedFrom? (c :: word) .none after
                    | none => none
        else doubleQuotedFrom? (glyph.char :: word) .none rest
termination_by glyphs.length

end Traceability.Yaml

import Traceability.Yaml.Scalar.Gap

/-!
Contract: scalars without quotes.

A plain scalar ends before a comment, before a colon that a gap follows, at a
marker, and where a line is not indented deeply enough; inside brackets it also
ends before a comma or a bracket. It may span lines.

Owns: where a plain scalar ends, and its text.
Does not own: where one may begin.
-/

namespace Traceability.Yaml

/-- A plain scalar that has been passed. -/
structure PlainScalar where
  text : String
  /-- Whether a line end was passed behind the last word. -/
  endsLine : Bool
  rest : List Glyph

/-- The signs that end a plain scalar inside brackets. -/
def isFlowSign (c : Char) : Bool :=
  c = ',' || c = '[' || c = ']' || c = '\x7b' || c = '\x7d'

/-- Whether a plain scalar cannot go on with the word that begins here. -/
def endsBefore (inFlow : Bool) (indent : Nat) (glyph : Glyph) (glyphs : List Glyph) : Bool :=
  (!inFlow && glyph.column < indent) || glyph.char = '#' || isDocumentMarker glyphs

/-- Passes a plain scalar. Lines must be indented by `indent` at least; `word`
is the text so far, backwards, and `gap` what stands behind its last word. -/
def plainScalarFrom? (inFlow : Bool) (indent : Nat) (word : List Char) (gap : Gap) :
    List Glyph → Option PlainScalar
  | [] => some ⟨String.ofList word.reverse, gap.broken, []⟩
  | glyph :: rest =>
      if isBlank glyph.char then
        if gap.broken && glyph.column < indent && glyph.char = '\t' then none
        else plainScalarFrom? inFlow indent word (gap.addBlank glyph.char) rest
      else if isBreak glyph.char then
        plainScalarFrom? inFlow indent word (gap.addBreak glyph.char) rest
      else if !gap.isEmpty && endsBefore inFlow indent glyph (glyph :: rest) then
        some ⟨String.ofList word.reverse, gap.broken, glyph :: rest⟩
      else if inFlow && glyph.char = ':' &&
          (rest.head?.any fun next => isFlowSign next.char || next.char = '?') then none
      else if (glyph.char = ':' && atGap rest) || (inFlow && isFlowSign glyph.char) then
        some ⟨String.ofList word.reverse, gap.broken, glyph :: rest⟩
      else plainScalarFrom? inFlow indent (glyph.char :: (gap.reversedText ++ word)) .none rest

def plainScalar? (inFlow : Bool) (indent : Nat) (glyphs : List Glyph) : Option PlainScalar :=
  plainScalarFrom? inFlow indent [] .none glyphs

end Traceability.Yaml

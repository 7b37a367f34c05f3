/-!
Contract: the characters of a YAML text, each with the place it stands at.

Placing the characters first lets every later step work on a plain list. A line
ends with a line feed, a carriage return, both, or a next-line character, all of
which become line feeds; the line and paragraph separators end a line and stay
themselves. Control characters other than the tab and the line ends are not
permitted anywhere.

Owns: places, classes of characters, the markers that delimit documents.
Does not own: tokens.
-/

namespace Traceability.Yaml

/-- A character with its line and its column, counted from zero, and the bytes
of UTF-8 that come before it in the text. -/
structure Glyph where
  char : Char
  bytesBefore : Nat
  line : Nat
  column : Nat
deriving DecidableEq, Repr

/-- The characters that a text may hold. -/
def isPermitted (c : Char) : Bool :=
  let code := c.toNat
  c = '\t' || c = '\n' || c = '\r' || (0x20 ≤ code && code ≤ 0x7E) || code = 0x85 ||
    (0xA0 ≤ code && code ≤ 0xFFFD) || 0x10000 ≤ code

/-- The characters that end a line once the text is placed. -/
def isBreak (c : Char) : Bool := c = '\n' || c = '\u2028' || c = '\u2029'

def isBlank (c : Char) : Bool := c = ' ' || c = '\t'

def isBlankOrBreak (c : Char) : Bool := isBlank c || isBreak c

/-- The characters of anchors and of the names of directives. -/
def isNameCharacter (c : Char) : Bool := c.isAlphanum || c = '_' || c = '-'

/-- The mark that may stand in front of a text. -/
def byteOrderMark : Char := '\uFEFF'

/-- Gives each character its place. -/
def placeFrom (bytes line column : Nat) : List Char → List Glyph
  | [] => []
  | '\r' :: '\n' :: rest => ⟨'\n', bytes, line, column⟩ :: placeFrom (bytes + 2) (line + 1) 0 rest
  | c :: rest =>
      let bytesAfter := bytes + c.utf8Size
      if c = '\r' || c = '\u0085' then
        ⟨'\n', bytes, line, column⟩ :: placeFrom bytesAfter (line + 1) 0 rest
      else if isBreak c then ⟨c, bytes, line, column⟩ :: placeFrom bytesAfter (line + 1) 0 rest
      else ⟨c, bytes, line, column⟩ :: placeFrom bytesAfter line (column + 1) rest

/-- The placed characters of a text, if all are permitted. -/
def Glyph.ofText? (text : String) : Option (List Glyph) :=
  if text.toList.all isPermitted then some (placeFrom 0 0 0 text.toList) else none

/-- Whether a blank, a line end or the end of the text comes next. -/
def atGap : List Glyph → Bool
  | [] => true
  | glyph :: _ => isBlankOrBreak glyph.char

/-- Whether the next character is `c`. -/
def startsWith (c : Char) : List Glyph → Bool
  | [] => false
  | glyph :: _ => glyph.char = c

/-- Whether three times `c`, and a gap, stand at the start of a line. -/
def isMarker (c : Char) (glyphs : List Glyph) : Bool :=
  match glyphs with
  | first :: second :: third :: rest =>
      first.column = 0 && first.char = c && second.char = c && third.char = c && atGap rest
  | _ => false

/-- Whether a line begins that marks the start or the end of a document. -/
def isDocumentMarker (glyphs : List Glyph) : Bool :=
  isMarker '-' glyphs || isMarker '.' glyphs

/-- The rest of the line after blanks and a comment, if nothing else is on it.
The line end is passed. -/
def endLine? (glyphs : List Glyph) : Option (List Glyph) :=
  let afterBlanks := glyphs.dropWhile (isBlank ·.char)
  let afterComment :=
    if startsWith '#' afterBlanks then afterBlanks.dropWhile (!isBreak ·.char) else afterBlanks
  match afterComment with
  | [] => some []
  | glyph :: rest => if isBreak glyph.char then some rest else none

end Traceability.Yaml

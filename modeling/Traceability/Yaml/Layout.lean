import Traceability.Yaml.Scalar.Block
import Traceability.Yaml.Scalar.Plain
import Traceability.Yaml.Scalar.Quoted
import Traceability.Yaml.Token.Property

/-!
Contract: dividing a text into tokens, indentation included.

Outside of brackets, a block begins where an entry, a key or a value stands
deeper than the block around it, and ends where a line stands less deep. That a
scalar is a key shows only when the colon follows; until then its place is
remembered, for as long as the colon is on the same line and not too far away.

Owns: where tokens begin, blocks, and keys without a question mark.
Does not own: which sequences of tokens are documents.
-/

namespace Traceability.Yaml

/-- A place where a key may have begun. -/
structure KeyPlace where
  /-- Whether nothing but a key can stand there. -/
  required : Bool
  /-- How many tokens come before it. -/
  position : Nat
  start : Glyph

/-- The tokens found so far, and what the next one depends on. -/
structure Layout where
  tokens : Array Token
  /-- The columns of the blocks that are open, the innermost first. -/
  indents : List Nat
  /-- Whether a key without a question mark may begin here. -/
  keyAllowed : Bool
  /-- Where a key may have begun within the innermost brackets. -/
  place : Option KeyPlace
  /-- The same for the brackets around them, and outside of all. -/
  outerPlaces : List (Option KeyPlace)

namespace Layout

def empty : Layout := ⟨#[], [], true, none, []⟩

/-- Whether brackets are open. -/
def inFlow (layout : Layout) : Bool := !layout.outerPlaces.isEmpty

def emit (layout : Layout) (token : Token) : Layout :=
  { layout with tokens := layout.tokens.push token }

def allowKey (layout : Layout) (allowed : Bool) : Layout := { layout with keyAllowed := allowed }

/-- Ends the blocks that are indented deeper than `column`. -/
def closeBlocks (layout : Layout) (column : Nat) : Layout :=
  if layout.inFlow then layout
  else
    let closed := layout.indents.takeWhile (column < ·)
    { layout with
      tokens := layout.tokens ++ closed.map fun _ => Token.blockEnd
      indents := layout.indents.drop closed.length }

/-- Ends all blocks. -/
def closeAllBlocks (layout : Layout) : Layout :=
  if layout.inFlow then layout
  else
    { layout with
      tokens := layout.tokens ++ layout.indents.map fun _ => Token.blockEnd
      indents := [] }

/-- Begins a block at `column`, unless the innermost one is indented as deep.
Its first token comes after `position` others. -/
def openBlock (layout : Layout) (column : Nat) (first : Token) (position : Nat) : Layout :=
  if layout.inFlow || layout.indents.head?.any (column ≤ ·) then layout
  else
    { layout with
      tokens := layout.tokens.insertIdxIfInBounds position first
      indents := column :: layout.indents }

/-- Gives up the place of a key, which must not be required. -/
def forgetPlace? (layout : Layout) : Option Layout :=
  if layout.place.any (·.required) then none else some { layout with place := none }

/-- Remembers that a key may begin here. -/
def rememberPlace? (layout : Layout) (start : Glyph) : Option Layout :=
  if layout.keyAllowed then do
    let required := !layout.inFlow && layout.indents.head? = some start.column
    let layout ← layout.forgetPlace?
    return { layout with place := some ⟨required, layout.tokens.size, start⟩ }
  else some layout

/-- How many bytes a colon may come after the start of its key. -/
def longestKey : Nat := 1024

/-- The place of a key as seen from `here`: it is given up once the line has
ended or the distance is too great, and then must not be required. -/
def agePlace? (here : Glyph) : Option KeyPlace → Option (Option KeyPlace)
  | none => some none
  | some place =>
      if place.start.line < here.line || place.start.bytesBefore + longestKey < here.bytesBefore then
        if place.required then none else some none
      else some (some place)

def agePlaces? (layout : Layout) (here : Glyph) : Option Layout := do
  let place ← agePlace? here layout.place
  let outerPlaces ← layout.outerPlaces.mapM (agePlace? here)
  return { layout with place := place, outerPlaces := outerPlaces }

/-- Passes blanks, comments and line ends. A tab counts as a blank inside of
brackets, and outside where no key may begin. After a line end a key may. -/
def skipGap (inFlow keyAllowed inComment : Bool) : List Glyph → Bool × List Glyph
  | [] => (keyAllowed, [])
  | glyph :: rest =>
      if isBreak glyph.char then skipGap inFlow (keyAllowed || !inFlow) false rest
      else if inComment then skipGap inFlow keyAllowed true rest
      else if glyph.char = ' ' || (glyph.char = '\t' && (inFlow || !keyAllowed)) ||
          (glyph.char = byteOrderMark && glyph.column = 0) then
        skipGap inFlow keyAllowed false rest
      else if glyph.char = '#' then skipGap inFlow keyAllowed true rest
      else (keyAllowed, glyph :: rest)

/-- A directive or a marker, which ends all blocks. -/
def documentSign? (layout : Layout) (read : Option (Token × List Glyph)) :
    Option (Layout × List Glyph) := do
  let layout ← layout.closeAllBlocks.forgetPlace?
  let (token, rest) ← read
  return ((layout.allowKey false).emit token, rest)

def openBracket? (layout : Layout) (here : Glyph) (token : Token) : Option Layout := do
  let layout ← layout.rememberPlace? here
  return { (layout.allowKey true).emit token with
    place := none
    outerPlaces := layout.place :: layout.outerPlaces }

def closeBracket? (layout : Layout) (token : Token) : Option Layout := do
  let layout ← layout.forgetPlace?
  let layout := (layout.allowKey false).emit token
  return match layout.outerPlaces with
    | [] => layout
    | place :: outer => { layout with place := place, outerPlaces := outer }

/-- A dash that begins an entry. -/
def blockEntry? (layout : Layout) (here : Glyph) : Option Layout := do
  if !layout.inFlow && !layout.keyAllowed then none else
  let layout ←
    (layout.openBlock here.column .blockSequenceStart layout.tokens.size).forgetPlace?
  return (layout.allowKey true).emit .blockEntry

/-- A question mark that begins a key. -/
def keySign? (layout : Layout) (here : Glyph) : Option Layout := do
  if !layout.inFlow && !layout.keyAllowed then none else
  let layout ←
    (layout.openBlock here.column .blockMappingStart layout.tokens.size).forgetPlace?
  return (layout.allowKey (!layout.inFlow)).emit .key

/-- A colon that begins a value. If a key may have begun before, one has. -/
def valueSign? (layout : Layout) (here : Glyph) : Option Layout :=
  match layout.place with
  | some place =>
      let layout := { layout with
        tokens := layout.tokens.insertIdxIfInBounds place.position .key
        place := none }
      let layout := layout.openBlock place.start.column .blockMappingStart place.position
      some ((layout.allowKey false).emit .value)
  | none =>
      if !layout.inFlow && !layout.keyAllowed then none
      else
        let layout := layout.openBlock here.column .blockMappingStart layout.tokens.size
        some ((layout.allowKey (!layout.inFlow)).emit .value)

/-- A scalar in quotes, an anchor, an alias or a tag, each of which may begin a
key. -/
def keyPart? (layout : Layout) (here : Glyph) (read : Option (Token × List Glyph)) :
    Option (Layout × List Glyph) := do
  let layout ← layout.rememberPlace? here
  let (token, rest) ← read
  return ((layout.allowKey false).emit token, rest)

def blockText? (layout : Layout) (folded : Bool) (rest : List Glyph) :
    Option (Layout × List Glyph) := do
  let layout ← layout.forgetPlace?
  let (text, rest) ← blockScalar? folded layout.indents.head? rest
  return ((layout.allowKey true).emit (.scalar (if folded then .folded else .literal) text), rest)

def plainText? (layout : Layout) (here : Glyph) (rest : List Glyph) :
    Option (Layout × List Glyph) := do
  let layout ← layout.rememberPlace? here
  let indent := (layout.indents.head?.map (· + 1)).getD 0
  let scalar ← plainScalar? layout.inFlow indent (here :: rest)
  return ((layout.allowKey scalar.endsLine).emit (.scalar .plain scalar.text), scalar.rest)

/-- The signs that no plain scalar begins with, unless text follows at once. -/
def isIndicator (c : Char) : Bool :=
  ['-', '?', ':', ',', '[', ']', '\x7b', '\x7d', '#', '&', '*', '!', '|', '>', '\'', '"', '%',
    '@', '\x60'].contains c

/-- Whether a plain scalar begins here. -/
def beginsPlain (layout : Layout) (here : Glyph) (rest : List Glyph) : Bool :=
  !(isBlank here.char || isIndicator here.char) ||
    (here.char = '-' && !rest.head?.any (isBlank ·.char)) ||
    (!layout.inFlow && (here.char = '?' || here.char = ':') && !atGap rest)

/-- Reads the token that begins at `here`. -/
def next? (layout : Layout) (here : Glyph) (rest : List Glyph) : Option (Layout × List Glyph) :=
  if here.column = 0 && here.char = '%' then layout.documentSign? (directive? rest)
  else if isMarker '-' (here :: rest) then
    layout.documentSign? (some (.documentStart, rest.drop 2))
  else if isMarker '.' (here :: rest) then
    layout.documentSign? (some (.documentEnd, rest.drop 2))
  else if here.char = '[' then (layout.openBracket? here .flowSequenceStart).map (·, rest)
  else if here.char = '\x7b' then (layout.openBracket? here .flowMappingStart).map (·, rest)
  else if here.char = ']' then (layout.closeBracket? .flowSequenceEnd).map (·, rest)
  else if here.char = '\x7d' then (layout.closeBracket? .flowMappingEnd).map (·, rest)
  else if here.char = ',' then
    layout.forgetPlace?.map fun layout => ((layout.allowKey true).emit .flowEntry, rest)
  else if here.char = '-' && atGap rest then (layout.blockEntry? here).map (·, rest)
  else if here.char = '?' && (layout.inFlow || atGap rest) then
    (layout.keySign? here).map (·, rest)
  else if here.char = ':' && (layout.inFlow || atGap rest) then
    (layout.valueSign? here).map (·, rest)
  else if here.char = '*' then
    layout.keyPart? here ((anchorName? rest).map fun (name, rest) => (.alias name, rest))
  else if here.char = '&' then
    layout.keyPart? here ((anchorName? rest).map fun (name, rest) => (.anchor name, rest))
  else if here.char = '!' then layout.keyPart? here (tag? layout.inFlow rest)
  else if here.char = '|' && !layout.inFlow then layout.blockText? false rest
  else if here.char = '>' && !layout.inFlow then layout.blockText? true rest
  else if here.char = '\'' then
    layout.keyPart? here ((singleQuotedFrom? [] .none rest).map fun (text, rest) =>
      (.scalar .quoted text, rest))
  else if here.char = '"' then
    layout.keyPart? here ((doubleQuotedFrom? [] .none rest).map fun (text, rest) =>
      (.scalar .quoted text, rest))
  else if layout.beginsPlain here rest then layout.plainText? here rest
  else none

/-- Reads tokens to the end of the text. Each takes at least one character, so
as many steps as there are characters suffice. -/
def readAll? (steps : Nat) (layout : Layout) (glyphs : List Glyph) : Option Layout :=
  let (keyAllowed, glyphs) := skipGap layout.inFlow layout.keyAllowed false glyphs
  let layout := layout.allowKey keyAllowed
  match glyphs, steps with
  | [], _ => layout.closeAllBlocks.forgetPlace?
  | _ :: _, 0 => none
  | here :: rest, steps + 1 => do
      let layout ← layout.agePlaces? here
      let (layout, rest) ← (layout.closeBlocks here.column).next? here rest
      layout.readAll? steps rest

end Layout

/-- The tokens of a text. -/
def Token.ofText? (text : String) : Option (List Token) := do
  let glyphs ← Glyph.ofText? text
  let layout ← Layout.empty.readAll? glyphs.length glyphs
  return layout.tokens.toList

end Traceability.Yaml

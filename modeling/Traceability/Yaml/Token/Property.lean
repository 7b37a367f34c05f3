import Traceability.Text.Hexadecimal
import Traceability.Yaml.Glyph
import Traceability.Yaml.Token

/-!
Contract: anchors, aliases, tags and directives.

Owns: how each is written.
Does not own: which node an anchor names, and what a handle stands for.
-/

namespace Traceability.Yaml

open Traceability.Text

/-- A name of an anchor, and what follows it. -/
def anchorName? (glyphs : List Glyph) : Option (String × List Glyph) :=
  let name := (glyphs.takeWhile (isNameCharacter ·.char)).map Glyph.char
  let rest := glyphs.dropWhile (isNameCharacter ·.char)
  let ends := atGap rest || rest.head?.any fun next =>
    ['?', ':', ',', ']', '\x7d', '%', '@', '\x60'].contains next.char
  if !name.isEmpty && ends then some (String.ofList name, rest) else none

/-- The signs that a tag may hold besides letters and digits. -/
def isTagSign (verbatim : Bool) (c : Char) : Bool :=
  [';', '/', '?', ':', '@', '&', '=', '+', '$', '.', '!', '~', '*', '\'', '(', ')'].contains c ||
    (verbatim && [',', '[', ']'].contains c)

/-- How many bytes follow the first byte of a character in UTF-8. -/
def trailingBytes? (first : Nat) : Option Nat :=
  if first < 0x80 then some 0
  else if first < 0xC0 then none
  else if first < 0xE0 then some 1
  else if first < 0xF0 then some 2
  else if first < 0xF8 then some 3
  else none

/-- How many bytes of a character are to come after one more, of which
`expected` were. -/
def bytesExpected? (expected byte : Nat) : Option Nat :=
  match expected with
  | 0 => trailingBytes? byte
  | expected + 1 => if 0x80 ≤ byte && byte < 0xC0 then some expected else none

/-- The bytes of the longest text that may be part of a tag, and what follows
it. A percent sign takes two hexadecimal digits with it, which write a byte;
`expected` more of these must come for the character that has begun. -/
def tagBytes? (verbatim : Bool) (expected : Nat) :
    List Glyph → Option (List UInt8 × List Glyph)
  | [] => if expected = 0 then some ([], []) else none
  | glyph :: rest =>
      if glyph.char = '%' then
        match rest with
        | high :: low :: after => do
            let byte ← hexNumber? [high.char, low.char]
            let (bytes, after) ← tagBytes? verbatim (← bytesExpected? expected byte) after
            return (byte.toUInt8 :: bytes, after)
        | _ => none
      else if expected ≠ 0 then none
      else if isNameCharacter glyph.char || isTagSign verbatim glyph.char then do
        let (bytes, after) ← tagBytes? verbatim 0 rest
        return (glyph.char.toNat.toUInt8 :: bytes, after)
      else some ([], glyph :: rest)

/-- A text of at least one character, as part of a tag. -/
def tagText? (verbatim : Bool) (glyphs : List Glyph) : Option (Tag × List Glyph) := do
  let (bytes, rest) ← tagBytes? verbatim 0 glyphs
  if bytes.isEmpty then none else some (.ofBytes bytes, rest)

/-- The handle between exclamation marks, the first of which has been passed. -/
def tagHandle? (glyphs : List Glyph) : Option (String × List Glyph) :=
  let name := (glyphs.takeWhile (isNameCharacter ·.char)).map Glyph.char
  match glyphs.dropWhile (isNameCharacter ·.char) with
  | next :: rest =>
      if next.char = '!' then some ("!" ++ String.ofList name ++ "!", rest) else none
  | [] => none

/-- Reads a tag after its exclamation mark, up to where it must end. Where
nothing follows the mark it is a tag itself. -/
def tagBody? (glyphs : List Glyph) : Option (Token × List Glyph) :=
  if startsWith '<' glyphs then do
    let (tag, rest) ← tagText? true (glyphs.drop 1)
    if startsWith '>' rest then some (.tag "" tag, rest.drop 1) else none
  else
    match tagHandle? glyphs with
    | some (handle, rest) => do
        let (suffix, rest) ← tagText? false rest
        return (.tag handle suffix, rest)
    | none => do
        let (bytes, rest) ← tagBytes? false 0 glyphs
        let suffix := Tag.ofBytes bytes
        return (if suffix.bytes.isEmpty then .tag "" .mark else .tag "!" suffix, rest)

/-- Reads a tag after its exclamation mark. -/
def tag? (inFlow : Bool) (glyphs : List Glyph) : Option (Token × List Glyph) := do
  let (token, rest) ← tagBody? glyphs
  if atGap rest || (inFlow && startsWith ',' rest) then some (token, rest) else none

/-- A number of at most nine digits. -/
def shortNumber? (glyphs : List Glyph) : Option (Nat × List Glyph) :=
  let digits := glyphs.takeWhile (·.char.isDigit)
  if digits.isEmpty || 9 < digits.length then none
  else
    some (digits.foldl (fun number digit => 10 * number + (digit.char.toNat - '0'.toNat)) 0,
      glyphs.dropWhile (·.char.isDigit))

/-- What the directive `name` declares. -/
def directiveValue? (name : String) (glyphs : List Glyph) : Option (Token × List Glyph) :=
  if name = "YAML" then do
    let (major, afterMajor) ← shortNumber? glyphs
    if !startsWith '.' afterMajor then none else
    let (minor, rest) ← shortNumber? (afterMajor.drop 1)
    return (.version major minor, rest)
  else if name = "TAG" then do
    if !startsWith '!' glyphs then none else
    let (handle, afterHandle) :=
      (tagHandle? (glyphs.drop 1)).getD ("!", glyphs.drop 1)
    if !afterHandle.head?.any (isBlank ·.char) then none else
    let (meaning, rest) ← tagText? true (afterHandle.dropWhile (isBlank ·.char))
    if atGap rest then some (.handle handle meaning, rest) else none
  else none

/-- Reads a directive after its percent sign, to the end of its line. -/
def directive? (glyphs : List Glyph) : Option (Token × List Glyph) := do
  let name := (glyphs.takeWhile (isNameCharacter ·.char)).map Glyph.char
  let afterName := glyphs.dropWhile (isNameCharacter ·.char)
  if !atGap afterName then none else
  let (token, afterValue) ←
    directiveValue? (String.ofList name) (afterName.dropWhile (isBlank ·.char))
  let rest ← endLine? afterValue
  return (token, rest)

end Traceability.Yaml

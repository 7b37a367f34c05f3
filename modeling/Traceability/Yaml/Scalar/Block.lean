import Traceability.Yaml.Glyph

/-!
Contract: scalars that are told by their indentation.

A header says whether line ends are kept or folded, what becomes of those at
the end, and perhaps how deep the text is indented; otherwise its first lines
show this. The scalar ends with the first line that is indented less.

Owns: headers, where a block scalar ends, and its text.
Does not own: where one may begin.
-/

namespace Traceability.Yaml

/-- What becomes of the line ends at the end of a block scalar. -/
inductive Chomping where
  /-- None is kept. -/
  | strip
  /-- The first is kept. -/
  | clip
  /-- All are kept. -/
  | keep
deriving DecidableEq, Repr

structure BlockHeader where
  chomping : Chomping
  /-- How much deeper than its surroundings the text is indented. -/
  increment : Option Nat
deriving DecidableEq, Repr

def chompingOf? : Char → Option Chomping
  | '+' => some .keep
  | '-' => some .strip
  | _ => none

/-- A digit other than zero. -/
def incrementOf? (c : Char) : Option Nat :=
  if c.isDigit && c ≠ '0' then some (c.toNat - '0'.toNat) else none

/-- Whether the next character is a digit. -/
def startsWithDigit (glyphs : List Glyph) : Bool := glyphs.head?.any (·.char.isDigit)

/-- Reads the signs of a header, which may stand in either order. -/
def blockHeader? (glyphs : List Glyph) : Option (BlockHeader × List Glyph) :=
  match glyphs with
  | [] => some (⟨.clip, none⟩, [])
  | first :: rest =>
      match chompingOf? first.char with
      | some chomping =>
          match rest with
          | second :: after =>
              if second.char.isDigit then
                (incrementOf? second.char).map fun increment => (⟨chomping, some increment⟩, after)
              else some (⟨chomping, none⟩, rest)
          | [] => some (⟨chomping, none⟩, [])
      | none =>
          if first.char.isDigit then
            (incrementOf? first.char).map fun increment =>
              match rest with
              | second :: after =>
                  match chompingOf? second.char with
                  | some chomping => (⟨chomping, some increment⟩, after)
                  | none => (⟨.clip, some increment⟩, rest)
              | [] => (⟨.clip, some increment⟩, [])
          else some (⟨.clip, none⟩, glyphs)

/-- The start of a line of text, after empty lines. -/
structure LineStart where
  /-- Blanks that indent the line. -/
  column : Nat
  /-- The deepest indentation of the line and of the empty lines before it. -/
  widest : Nat
  /-- The ends of the empty lines, the last one first. -/
  breaks : List Char
  rest : List Glyph

/-- Passes empty lines and the indentation of the next, up to `limit` blanks if
there is a limit. A tab is no indentation. -/
def lineStart? (limit : Option Nat) (column widest : Nat) (breaks : List Char) :
    List Glyph → Option LineStart
  | [] => some ⟨column, max widest column, breaks, []⟩
  | glyph :: rest =>
      let indents := limit.all (column < ·)
      if indents && glyph.char = ' ' then lineStart? limit (column + 1) widest breaks rest
      else if indents && glyph.char = '\t' then none
      else if isBreak glyph.char then
        lineStart? limit 0 (max widest column) (glyph.char :: breaks) rest
      else some ⟨column, max widest column, breaks, glyph :: rest⟩

theorem length_lineStart? {limit : Option Nat} {column widest : Nat} {breaks : List Char}
    {glyphs : List Glyph} {start : LineStart}
    (found : lineStart? limit column widest breaks glyphs = some start) :
    start.rest.length ≤ glyphs.length := by
  fun_induction lineStart? limit column widest breaks glyphs with
  | case1 => cases found; simp
  | case2 _ _ _ glyph rest _ _ inductionHypothesis =>
      have := inductionHypothesis found
      simp only [List.length_cons]
      omega
  | case3 => cases found
  | case4 _ _ _ glyph rest _ _ _ _ inductionHypothesis =>
      have := inductionHypothesis found
      simp only [List.length_cons]
      omega
  | case5 => cases found; simp

/-- The text so far, and what it depends on how it goes on. All lists hold
their last character first. -/
structure BlockText where
  text : List Char
  /-- The end of the last line. -/
  lineEnd : List Char
  /-- The ends of the empty lines after it. -/
  emptyLines : List Char
  /-- Whether the last line began with a blank. -/
  indented : Bool

/-- Joins a line. Between two lines that do not begin with a blank, folding
turns a line end into a blank, or drops it where empty lines follow. -/
def BlockText.addLine (block : BlockText) (folded : Bool) (line : List Char) : BlockText :=
  let indented := line.head?.any isBlank
  let lineEnd :=
    if folded && block.lineEnd = ['\n'] && !block.indented && !indented then
      if block.emptyLines.isEmpty then [' '] else []
    else block.lineEnd
  ⟨line.reverse ++ block.emptyLines ++ lineEnd ++ block.text, [], [], indented⟩

def BlockText.finish (block : BlockText) : Chomping → String
  | .strip => String.ofList block.text.reverse
  | .clip => String.ofList (block.lineEnd ++ block.text).reverse
  | .keep => String.ofList (block.emptyLines ++ block.lineEnd ++ block.text).reverse

/-- Reads lines for as long as they are indented by `indent`. `column` is the
indentation of the line at hand. -/
def blockLines? (folded : Bool) (indent column : Nat) (block : BlockText)
    (glyphs : List Glyph) : Option (BlockText × List Glyph) :=
  match glyphs with
  | [] => some (block, [])
  | glyph :: rest =>
      if column ≠ indent then some (block, glyph :: rest)
      else
        let line := glyph.char :: (rest.takeWhile (!isBreak ·.char)).map Glyph.char
        let after := rest.dropWhile (!isBreak ·.char)
        match _ : lineStart? (some indent) 0 0 [] (after.drop 1) with
        | none => none
        | some start =>
            blockLines? folded indent start.column
              { block.addLine folded line with
                lineEnd := (after.take 1).map Glyph.char
                emptyLines := start.breaks }
              start.rest
termination_by glyphs.length
decreasing_by
  have shorter := length_lineStart? (by assumption)
  have : after.length ≤ rest.length := (List.dropWhile_suffix _).length_le
  simp only [List.length_drop] at shorter
  simp only [List.length_cons]
  omega

/-- Reads a block scalar after its sign. `surrounding` is the column that the
block around it is indented to, if there is one. -/
def blockScalar? (folded : Bool) (surrounding : Option Nat) (glyphs : List Glyph) :
    Option (String × List Glyph) := do
  let (header, afterHeader) ← blockHeader? glyphs
  let lines ← endLine? afterHeader
  let given := header.increment.map fun increment => surrounding.getD 0 + increment
  let start ← lineStart? given 0 0 [] lines
  let indent := given.getD (max start.widest ((surrounding.map (· + 1)).getD 1))
  let (block, rest) ←
    blockLines? folded indent start.column ⟨[], [], start.breaks, false⟩ start.rest
  return (block.finish header.chomping, rest)

end Traceability.Yaml

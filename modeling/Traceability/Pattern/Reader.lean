import Traceability.Pattern.Syntax
import Traceability.Text.Blank

/-!
Contract: reading the text of a pattern.

A pattern is a choice of sequences of parts; a part is a character, the dot, a
set, a place, a group or a change of flags, possibly repeated. Where the flag
`x` is on, blanks and comments between the parts do not count. There is no
looking around and no reference back to a group.

Owns: the notation, and which texts are patterns as far as notation goes.
Does not own: the limits on nesting and size, and sets that do not exist.
-/

namespace Traceability.Pattern

open Traceability.Text
open Traceability.Unicode (CharSet)

/-- What is left of the text, whether blanks in it are ignored, and the number
of capturing groups opened so far with the names of those that have one. -/
structure Cursor where
  rest : List Char
  ignoreBlanks : Bool
  captures : Nat
  groupNames : List String
deriving Repr

/-- Drops blanks and comments; a comment runs from `#` to the end of a line. -/
def skipIgnored (inComment : Bool) : List Char → List Char
  | [] => []
  | c :: rest =>
      if inComment then skipIgnored (c ≠ '\n') rest
      else if c = '#' then skipIgnored true rest
      else if isBlank c then skipIgnored false rest
      else c :: rest

namespace Cursor

/-- Drops what is ignored at this point. -/
def settle (cursor : Cursor) : Cursor :=
  if cursor.ignoreBlanks then { cursor with rest := skipIgnored false cursor.rest }
  else cursor

/-- Takes one character. -/
def advance (cursor : Cursor) : Cursor :=
  { cursor with rest := cursor.rest.drop 1 }

/-- Takes one character and what is ignored after it. -/
def step (cursor : Cursor) : Cursor :=
  cursor.advance.settle

/-- Takes characters while they satisfy `p`, with what is ignored between
them, at most `limit` of them. -/
def takeWhile (p : Char → Bool) : Nat → Cursor → List Char × Cursor
  | 0, cursor => ([], cursor)
  | limit + 1, cursor =>
      match cursor.rest with
      | [] => ([], cursor)
      | c :: _ =>
          if p c then
            let (taken, after) := takeWhile p limit cursor.step
            (c :: taken, after)
          else ([], cursor)

/-- All characters that satisfy `p` from here on. -/
def takeAllWhile (cursor : Cursor) (p : Char → Bool) : List Char × Cursor :=
  takeWhile p cursor.rest.length cursor

/-- The cursor after the character `c`, if it comes next. -/
def expect? (cursor : Cursor) (c : Char) : Option Cursor :=
  if cursor.rest.head? = some c then some cursor.advance else none

end Cursor

/-! ## Numbers and escapes -/

/-- A count: decimal digits, with blanks around them, below 2^32. -/
def readCount (cursor : Cursor) : Option (Nat × Cursor) :=
  let (digits, cursor) :=
    { cursor with rest := cursor.rest.dropWhile isBlank }.takeAllWhile Char.isDigit
  let (_, cursor) := cursor.takeAllWhile isBlank
  let value := digits.foldl (fun value c => 10 * value + (c.toNat - '0'.toNat)) 0
  if digits.isEmpty || Nat.pow 2 32 ≤ value then none else some (value, cursor)

def isHexDigit (c : Char) : Bool :=
  c.isDigit || ('a' ≤ c && c ≤ 'f') || ('A' ≤ c && c ≤ 'F')

/-- The character with the given code point, unless it is no character. -/
def characterOfCode? (code : Nat) : Option Char :=
  if h : code.isValidChar then some (Char.ofNatAux code h) else none

/-- Exactly `count` hexadecimal digits. -/
def readHexDigits : Nat → Cursor → Option (List Char × Cursor)
  | 0, cursor => some ([], cursor)
  | count + 1, cursor =>
      match cursor.rest with
      | [] => none
      | c :: _ =>
          if isHexDigit c then do
            let (digits, after) ← readHexDigits count cursor.step
            return (c :: digits, after)
          else none

/-- A code point after `\x`, `\u` or `\U`, the cursor being at that letter:
in braces, or of two, four or eight digits. -/
def readHexEscape (cursor : Cursor) : Option (Literal × Cursor) := do
  let letter ← cursor.rest.head?
  let cursor := cursor.step
  if cursor.rest.head? = some '{' then
    let (digits, cursor) := cursor.step.takeAllWhile (· ≠ '}')
    let _ ← cursor.expect? '}'
    if digits.isEmpty || !digits.all isHexDigit then none
    let char ← characterOfCode? (Unicode.RangeTable.hexValue digits)
    return (⟨char, false⟩, cursor.step)
  else
    let count := if letter = 'x' then 2 else if letter = 'u' then 4 else 8
    let (digits, cursor) ← readHexDigits count cursor
    let char ← characterOfCode? (Unicode.RangeTable.hexValue digits)
    return (⟨char, letter = 'x'⟩, cursor)

/-- Splits a text at its first `!=`; `before` is what was read, backwards. -/
def splitUnequal (before : List Char) : List Char → Option (List Char × List Char)
  | [] => none
  | '!' :: '=' :: value => some (before.reverse, value)
  | c :: rest => splitUnequal (c :: before) rest

/-- Splits the text of a property at its relation sign, if it has one. The
sign `!=` asks for the characters without the property. -/
def propertyQueryOf (name : List Char) : Bool × PropertyQuery :=
  match splitUnequal [] name with
  | some (property, value) => (true, .valued (String.ofList property) (String.ofList value))
  | none =>
      let sign := if name.contains ':' then ':' else '='
      match name.span (· ≠ sign) with
      | (property, _ :: value) =>
          (false, .valued (String.ofList property) (String.ofList value))
      | (_, []) => (false, .named (String.ofList name))

/-- A property after `\p` or `\P`, the cursor being at that letter: a single
letter, or a name in braces. Two negations cancel each other. -/
def readProperty (cursor : Cursor) : Option (SetTree × Cursor) := do
  let letter ← cursor.rest.head?
  let cursor := cursor.step
  match cursor.rest with
  | [] => none
  | '{' :: _ =>
      let (name, cursor) := cursor.step.takeAllWhile (· ≠ '}')
      let cursor ← cursor.expect? '}'
      let (unequal, query) := propertyQueryOf name
      return (.property ((letter == 'P') != unequal) query, cursor)
  | c :: _ =>
      if c = '\\' then none
      else return (.property (letter = 'P') (.named (String.singleton c)), cursor.step)

/-- The classes that a letter after the backslash stands for. -/
def letterClassOf? : Char → Option (Bool × LetterClass)
  | 'd' => some (false, .digit)
  | 'D' => some (true, .digit)
  | 's' => some (false, .blank)
  | 'S' => some (true, .blank)
  | 'w' => some (false, .word)
  | 'W' => some (true, .word)
  | _ => none

/-- The characters that a letter after the backslash stands for. -/
def controlOf? : Char → Option Char
  | 'a' => some '\x07'
  | 'f' => some '\x0C'
  | 't' => some '\t'
  | 'n' => some '\n'
  | 'r' => some '\r'
  | 'v' => some '\x0B'
  | _ => none

/-- The places that a character after the backslash stands for. -/
def placeOf? : Char → Option Place
  | 'A' => some .textStart
  | 'z' => some .textEnd
  | 'b' => some .wordBoundary
  | 'B' => some .notWordBoundary
  | '<' => some .wordStart
  | '>' => some .wordEnd
  | _ => none

/-- The sides of a word, as they are named in braces after `\b`. -/
def wordSideOf? : String → Option Place
  | "start" => some .wordStart
  | "end" => some .wordEnd
  | "start-half" => some .wordStartHalf
  | "end-half" => some .wordEndHalf
  | _ => none

/-- ASCII characters other than letters and digits stand for themselves after
a backslash; the angle brackets are places. -/
def isEscapable (c : Char) : Bool :=
  c.toNat < 0x80 && !c.isAlphanum && c != '<' && c != '>'

/-- A side of a word in braces after `\b`, or nothing where the braces hold a
count of repetitions. -/
def readWordSide (cursor : Cursor) : Option (Option (Place × Cursor)) :=
  let isNameCharacter (c : Char) : Bool := c.isAlpha || c = '-'
  let inner := cursor.step
  match inner.rest with
  | [] => none
  | c :: _ =>
      if isNameCharacter c then do
        let (name, after) := inner.takeAllWhile isNameCharacter
        let after ← after.expect? '}'
        let place ← wordSideOf? (String.ofList name)
        return some (place, after)
      else some none

/-- What an escape or a plain character of a pattern can be. -/
inductive Primitive where
  | literal (member : Literal)
  | set (members : SetTree)
  | place (kind : Place)

/-- An escape, the cursor being at the backslash. -/
def readEscape (cursor : Cursor) : Option (Primitive × Cursor) := do
  let cursor := cursor.advance
  let c ← cursor.rest.head?
  if c.isDigit then none
  else if c = 'x' || c = 'u' || c = 'U' then
    let (member, cursor) ← readHexEscape cursor
    return (.literal member, cursor)
  else if c = 'p' || c = 'P' then
    let (members, cursor) ← readProperty cursor
    return (.set members, cursor)
  else
    let cursor := cursor.advance
    if let some (negated, kind) := letterClassOf? c then
      return (.set (.letterClass negated kind), cursor)
    if isEscapable c then return (.literal ⟨c, false⟩, cursor)
    if let some control := controlOf? c then return (.literal ⟨control, false⟩, cursor)
    let place ← placeOf? c
    if place = .wordBoundary && cursor.rest.head? = some '{' then
      match ← readWordSide cursor with
      | some (side, cursor) => return (.place side, cursor)
      | none => return (.place place, cursor)
    else return (.place place, cursor)

/-! ## Sets in brackets -/

/-- The sets that go by a name between `[:` and `:]`. -/
def asciiClassOf? : String → Option CharSet
  | "alnum" => some (.unionAll [.range '0' '9', .range 'A' 'Z', .range 'a' 'z'])
  | "alpha" => some (.unionAll [.range 'A' 'Z', .range 'a' 'z'])
  | "ascii" => some (.range '\x00' '\x7F')
  | "blank" => some (.unionAll [.singleton '\t', .singleton ' '])
  | "cntrl" => some (.unionAll [.range '\x00' '\x1F', .singleton '\x7F'])
  | "digit" => some (.range '0' '9')
  | "graph" => some (.range '!' '~')
  | "lower" => some (.range 'a' 'z')
  | "print" => some (.range ' ' '~')
  | "punct" => some (.unionAll [.range '!' '/', .range ':' '@', .range '[' '\x60',
      .range '\x7B' '~'])
  | "space" => some (.unionAll [.range '\t' '\r', .singleton ' '])
  | "upper" => some (.range 'A' 'Z')
  | "word" => some asciiWordCharacters
  | "xdigit" => some (.unionAll [.range '0' '9', .range 'A' 'F', .range 'a' 'f'])
  | _ => none

/-- A named ASCII class within brackets, if there is one at the cursor. -/
def readAsciiClass? (cursor : Cursor) : Option (SetTree × Cursor) :=
  match cursor.rest with
  | '[' :: ':' :: rest =>
      let negated := rest.head? = some '^'
      match (if negated then rest.drop 1 else rest).span (· ≠ ':') with
      | (name, ':' :: ']' :: after) =>
          (asciiClassOf? (String.ofList name)).map fun members =>
            (.ascii negated members, { cursor with rest := after })
      | _ => none
  | _ => none

/-- An escape or a plain character within brackets. -/
def readMember (cursor : Cursor) : Option (Primitive × Cursor) :=
  match cursor.rest with
  | [] => none
  | c :: _ =>
      if c = '\\' then readEscape cursor
      else some (.literal ⟨c, false⟩, cursor.advance)

/-- The character after the next one as far as a hyphen is concerned. Where
blanks are ignored it is the first that is neither a blank nor the sign of a
comment; a comment does not hide what is in it. If there is none, it is
whatever stands there. -/
def characterAhead (cursor : Cursor) : Option Char :=
  let rest := cursor.rest.drop 1
  if !cursor.ignoreBlanks then rest.head?
  else
    let afterBlanks := rest.dropWhile isBlank
    let visible :=
      if afterBlanks.head? = some '#' then (afterBlanks.drop 1).dropWhile isBlank
      else afterBlanks
    visible.head?.or rest.head?

/-- A member of a set, or a range of them: the hyphen joins two characters
unless the bracket closes or another hyphen follows. -/
def readMemberOrRange (cursor : Cursor) : Option (SetTree × Cursor) := do
  let (first, cursor) ← readMember cursor
  let cursor := cursor.settle
  let next ← cursor.rest.head?
  let following := characterAhead cursor
  if next ≠ '-' || following = some ']' || following = some '-' then
    match first with
    | .literal member => return (.literal member, cursor)
    | .set members => return (members, cursor)
    | .place _ => none
  else
    let (last, cursor) ← readMember cursor.step
    match first, last with
    | .literal low, .literal high =>
        if low.char ≤ high.char then return (.range low high, cursor) else none
    | _, _ => none

/-- Members side by side; a lone one stays as it is. -/
def unionOf (members : List SetTree) : SetTree :=
  match members with
  | [member] => member
  | _ => .union members.reverse

/-- Applies the operation that waits for its right side. -/
def applyPending (pending : Option (SetOperation × SetTree)) (right : SetTree) : SetTree :=
  match pending with
  | none => right
  | some (kind, left) => .operation kind left right

/-- The operation whose doubled sign comes next. -/
def setOperationAt? : List Char → Option SetOperation
  | '&' :: '&' :: _ => some .intersection
  | '-' :: '-' :: _ => some .difference
  | '~' :: '~' :: _ => some .symmetricDifference
  | _ => none

/-- The beginning of a set, the cursor being at its bracket: whether it is
negated, and the hyphens or the closing bracket that stand for themselves
because they come first. -/
def readSetOpening (cursor : Cursor) : Option (Bool × List SetTree × Cursor) := do
  let cursor := cursor.step
  let negated := cursor.rest.head? = some '^'
  let cursor := if negated then cursor.step else cursor
  let (hyphens, cursor) := cursor.takeAllWhile (· = '-')
  let members := hyphens.map fun c => SetTree.literal ⟨c, false⟩
  match cursor.rest with
  | [] => none
  | c :: _ =>
      if c = ']' && members.isEmpty then
        if cursor.step.rest.isEmpty then none
        else return (negated, [.literal ⟨']', false⟩], cursor.step)
      else return (negated, members, cursor)

mutual

/-- A set in brackets, the cursor being at the opening one. -/
def readBracketed : Nat → Cursor → Option (SetTree × Cursor)
  | 0, _ => none
  | limit + 1, cursor => do
      let (negated, members, cursor) ← readSetOpening cursor
      let (inner, cursor) ← readMembers limit none members cursor
      return (.bracketed negated inner, cursor)

/-- The members up to the closing bracket. The operations have one rank and
group to the left. -/
def readMembers : Nat → Option (SetOperation × SetTree) → List SetTree → Cursor →
    Option (SetTree × Cursor)
  | 0, _, _, _ => none
  | limit + 1, pending, members, unsettled => do
      let cursor := unsettled.settle
      let c ← cursor.rest.head?
      if c = '[' then
        match readAsciiClass? cursor with
        | some (member, cursor) => readMembers limit pending (member :: members) cursor
        | none =>
            let (member, cursor) ← readBracketed limit cursor
            readMembers limit pending (member :: members) cursor
      else if c = ']' then
        return (applyPending pending (unionOf members), cursor.advance)
      else
        match setOperationAt? cursor.rest with
        | some kind =>
            readMembers limit (some (kind, applyPending pending (unionOf members))) []
              cursor.advance.advance
        | none =>
            let (member, cursor) ← readMemberOrRange cursor
            readMembers limit pending (member :: members) cursor

end

/-! ## Groups and repetitions -/

def flagOf? : Char → Option Flag
  | 'i' => some .caseInsensitive
  | 'm' => some .multiLine
  | 's' => some .dotAll
  | 'U' => some .swapGreed
  | 'u' => some .unicode
  | 'R' => some .carriageReturn
  | 'x' => some .ignoreBlanks
  | _ => none

/-- Flags up to the character that ends them. One hyphen may stand between
those to switch on and those to switch off, but not last; no flag comes twice. -/
def readFlags (change : FlagChange) (negated : Bool) (lastWasHyphen : Bool) :
    List Char → Option (FlagChange × List Char)
  | [] => none
  | c :: rest =>
      if c = ':' || c = ')' then
        if lastWasHyphen then none else some (change, c :: rest)
      else if c = '-' then
        if negated then none else readFlags change true true rest
      else do
        let flag ← flagOf? c
        if (change.map Prod.fst).contains flag then none
        else readFlags (change ++ [(flag, !negated)]) negated false rest

/-- The characters of a group's name; the first may not be a digit. -/
def isGroupNameCharacter (isFirst : Bool) (c : Char) : Bool :=
  let has (query : PropertyQuery) : Bool := (query.resolve?.map (·.contains c)).getD false
  c = '_' || has (.named "Alphabetic") ||
    (!isFirst && (c = '.' || c = '[' || c = ']' || has (.named "N")))

/-- A group's name and its closing angle bracket; no two groups share a name. -/
def readGroupName (cursor : Cursor) : Option Cursor :=
  match cursor.rest.span (· ≠ '>') with
  | (first :: others, _ :: after) =>
      let name := String.ofList (first :: others)
      if isGroupNameCharacter true first && others.all (isGroupNameCharacter false) &&
          !cursor.groupNames.contains name then
        some { cursor with rest := after, groupNames := name :: cursor.groupNames }
      else none
  | _ => none

/-- What an opening parenthesis begins: a change of flags for the rest of the
surrounding group, a group with a change of flags of its own, or a group that
captures. -/
inductive GroupOpening where
  | flags (change : FlagChange) (after : Cursor)
  | group (change : FlagChange) (after : Cursor)
  | capture (number : Nat) (after : Cursor)

/-- Opens the next of the groups that capture. -/
def GroupOpening.capturing (after : Cursor) : GroupOpening :=
  .capture (after.captures + 1) { after with captures := after.captures + 1 }

/-- The beginning of a group, the cursor being at its parenthesis. -/
def readGroupOpening (cursor : Cursor) : Option GroupOpening :=
  let cursor := cursor.step
  match cursor.rest with
  | '?' :: '=' :: _ | '?' :: '!' :: _ => none
  | '?' :: '<' :: '=' :: _ | '?' :: '<' :: '!' :: _ => none
  | '?' :: 'P' :: '<' :: rest =>
      (readGroupName { cursor with rest }).map .capturing
  | '?' :: '<' :: rest =>
      (readGroupName { cursor with rest }).map .capturing
  | '?' :: rest => do
      let (change, rest) ← readFlags [] false false rest
      let after := { cursor with rest := rest.drop 1 }
      if rest.head? = some ')' then
        if change.isEmpty then none else return .flags change after
      else return .group change after
  | _ => some (.capturing cursor)

/-- Whether blanks are ignored after a change of flags. -/
def ignoresBlanksAfter (change : FlagChange) (current : Bool) : Bool :=
  (change.lookup .ignoreBlanks).getD current

/-- Repeats the last part read; there must be one, and it must not be a change
of flags. -/
def repeatLast (parts : List Tree) (least : Nat) (most : Option Nat) (eager : Bool) :
    Option (List Tree) :=
  match parts with
  | [] => none
  | .flags _ :: _ => none
  | inner :: others => some (.repetition inner least most eager :: others)

/-- Takes a question mark, which makes a repetition prefer fewer turns. -/
def readEagerness (cursor : Cursor) : Bool × Cursor :=
  if cursor.rest.head? = some '?' then (false, cursor.advance) else (true, cursor)

/-- A count of repetitions in braces, the cursor being at the opening one. -/
def readCounts (cursor : Cursor) : Option (Nat × Option Nat × Cursor) := do
  let (least, cursor) ← readCount cursor.step
  match cursor.rest with
  | ',' :: _ =>
      let cursor := cursor.step
      if cursor.rest.head? = some '}' then
        return (least, none, cursor.step)
      else
        let (most, cursor) ← readCount cursor
        let _ ← cursor.expect? '}'
        if least ≤ most then return (least, some most, cursor.step) else none
  | '}' :: _ => return (least, some least, cursor.step)
  | _ => none

/-- Parts in sequence, the last one first; a lone one stays as it is. -/
def sequenceOf (parts : List Tree) : Tree :=
  match parts with
  | [part] => part
  | _ => .concatenation parts.reverse

/-- A choice between branches, the last one first; a lone one stays as it is. -/
def choiceOf (branches : List Tree) : Tree :=
  match branches with
  | [branch] => branch
  | _ => .alternation branches.reverse

/-- A part that is neither a group nor a set in brackets. -/
def readPrimitive (cursor : Cursor) : Option (Tree × Cursor) :=
  match cursor.rest with
  | [] => none
  | '\\' :: _ => do
      match ← readEscape cursor with
      | (.literal member, after) => return (.literal member, after)
      | (.set members, after) => return (.set members, after)
      | (.place kind, after) => return (.place kind, after)
  | '.' :: _ => some (.dot, cursor.advance)
  | '^' :: _ => some (.place .lineStart, cursor.advance)
  | '$' :: _ => some (.place .lineEnd, cursor.advance)
  | c :: _ => some (.literal ⟨c, false⟩, cursor.advance)

/-- Reads branches up to a closing parenthesis or the end of the text. `parts`
are those of the branch being read and `branches` those before it, both with
the last one first. -/
def readBranches : Nat → List Tree → List Tree → Cursor → Option (Tree × Cursor)
  | 0, _, _, _ => none
  | limit + 1, parts, branches, unsettled =>
      let cursor := unsettled.settle
      match cursor.rest with
      | [] | ')' :: _ => some (choiceOf (sequenceOf parts :: branches), cursor)
      | '|' :: _ => readBranches limit [] (sequenceOf parts :: branches) cursor.advance
      | '(' :: _ => do
          match ← readGroupOpening cursor with
          | .flags change after =>
              readBranches limit (.flags change :: parts) branches
                { after with ignoreBlanks := ignoresBlanksAfter change cursor.ignoreBlanks }
          | .group change after =>
              let (inner, closing) ← readBranches limit [] []
                { after with ignoreBlanks := ignoresBlanksAfter change cursor.ignoreBlanks }
              let closed ← closing.expect? ')'
              readBranches limit (.group change inner :: parts) branches
                { closed with ignoreBlanks := cursor.ignoreBlanks }
          | .capture number after =>
              let (inner, closing) ← readBranches limit [] [] after
              let closed ← closing.expect? ')'
              readBranches limit (.capture number inner :: parts) branches
                { closed with ignoreBlanks := cursor.ignoreBlanks }
      | '[' :: _ => do
          let (members, after) ← readBracketed limit cursor
          readBranches limit (.set members :: parts) branches after
      | '?' :: _ => do
          let (eager, after) := readEagerness cursor.advance
          let parts ← repeatLast parts 0 (some 1) eager
          readBranches limit parts branches after
      | '*' :: _ => do
          let (eager, after) := readEagerness cursor.advance
          let parts ← repeatLast parts 0 none eager
          readBranches limit parts branches after
      | '+' :: _ => do
          let (eager, after) := readEagerness cursor.advance
          let parts ← repeatLast parts 1 none eager
          readBranches limit parts branches after
      | '{' :: _ => do
          let (least, most, counted) ← readCounts cursor
          let (eager, after) := readEagerness counted
          let parts ← repeatLast parts least most eager
          readBranches limit parts branches after
      | _ => do
          let (part, after) ← readPrimitive cursor
          readBranches limit (part :: parts) branches after

/-- Reads a whole pattern. Every step takes a character, so that the length of
the text bounds the steps. -/
def Tree.ofText? (text : String) : Option Tree := do
  let (tree, cursor) ← readBranches (text.toList.length + 1) [] [] ⟨text.toList, false, 0, []⟩
  if cursor.rest.isEmpty then return tree else none

end Traceability.Pattern

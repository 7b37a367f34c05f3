import Traceability.Toml.Scalar
import Traceability.Toml.Text

/-!
Contract: reading a TOML document.

A document is a sequence of statements, one a line: headers, and keys with
values. Lists in brackets, tables in braces and long texts may go on over
several lines.

Owns: where keys, values and statements begin and end.
Does not own: texts and scalars, and how statements add up.
-/

namespace Traceability.Toml

/-- Reads part of a document, or fails. -/
abbrev Reader := StateT (List Char) Option

namespace Reader

def peek : Reader (Option Char) := do return (← get).head?

/-- Passes `text` if it comes next, and tells whether it did. -/
def accept (text : String) : Reader Bool := do
  let rest ← get
  if text.toList.isPrefixOf rest then
    set (rest.drop text.length)
    return true
  else return false

def expect (text : String) : Reader Unit := do
  if !(← accept text) then failure

def skipBlanks : Reader Unit := modify (·.dropWhile isBlank)

/-- The longest text of characters that satisfy the condition. -/
def takeRun (condition : Char → Bool) : Reader (List Char) := do
  let rest ← get
  set (rest.dropWhile condition)
  return rest.takeWhile condition

/-- Passes blanks, comments and line ends. -/
def afterLayout? (inComment : Bool) : List Char → Option (List Char)
  | [] => some []
  | '\n' :: rest => afterLayout? false rest
  | '\r' :: '\n' :: rest => afterLayout? false rest
  | c :: rest =>
      if inComment then
        if isPlain c then afterLayout? true rest else none
      else if isBlank c then afterLayout? false rest
      else if c = '#' then afterLayout? true rest
      else some (c :: rest)

def skipLayout : Reader Unit := do
  match afterLayout? false (← get) with
  | some rest => set rest
  | none => failure

/-- Passes blanks and a comment up to the end of the line. -/
def endLine : Reader Unit := do
  skipBlanks
  if ← accept "#" then
    let _ ← takeRun isPlain
  if (← peek).isSome && !(← accept "\n") then expect "\r\n"

def isKeyCharacter (c : Char) : Bool := c.isAlphanum || c = '_' || c = '-'

/-- A key without dots. -/
def key : Reader String := do
  match keyText? (← get) with
  | some (text, rest) =>
      set rest
      return text
  | none =>
      let text ← takeRun isKeyCharacter
      if text.isEmpty then failure
      return String.ofList text

/-- Keys may have so many parts, and values be nested so deep. -/
def depthLimit : Nat := 80

/-- Keys with dots between them, at most `limit` of them. -/
def keysUpTo (limit : Nat) : Reader (List String) :=
  match limit with
  | 0 => failure
  | limit + 1 => do
      skipBlanks
      let first ← key
      skipBlanks
      if ← accept "." then return first :: (← keysUpTo limit) else return [first]

/-- The parts of a key. -/
def keys : Reader (List String) := keysUpTo depthLimit

def isScalarCharacter (c : Char) : Bool :=
  c.isAlphanum || ['+', '-', '.', ':', '_'].contains c

/-- A value without quotes or brackets. A single blank may stand between a date
and a time. -/
def scalar : Reader Value := do
  let text ← takeRun isScalarCharacter
  let text ←
    if text.length = 10 && startsWithDate text then
      match ← get with
      | ' ' :: next :: _ =>
          if next.isDigit then do
            expect " "
            pure (text ++ ' ' :: (← takeRun isScalarCharacter))
          else pure text
      | _ => pure text
    else pure text
  match scalar? text with
  | some value => return value
  | none => failure

mutual

/-- A value, and whatever is nested in it, at most `depth` deep. `fuel` bounds
the calls. -/
def value (fuel depth : Nat) : Reader Value :=
  match fuel with
  | 0 => failure
  | fuel + 1 => do
      match ← peek with
      | some '"' | some '\'' =>
          match text? (← get) with
          | some (text, rest) =>
              set rest
              return .string text
          | none => failure
      | some '[' =>
          if depth = 0 then failure
          expect "["
          return .array (← items fuel (depth - 1))
      | some '\x7b' =>
          if depth = 0 then failure
          expect "\x7b"
          return .table .braces (← members fuel (depth - 1) [])
      | _ => scalar

/-- The items of a list, and its end. A comma may follow the last one. -/
def items (fuel depth : Nat) : Reader (List Value) :=
  match fuel with
  | 0 => failure
  | fuel + 1 => do
      skipLayout
      if ← accept "]" then return []
      let first ← value fuel depth
      skipLayout
      if ← accept "," then return first :: (← items fuel depth)
      expect "]"
      return [first]

/-- The members of a table in braces, and its end. A comma may follow the last
one. -/
def members (fuel depth : Nat) (entries : Entries) : Reader Entries :=
  match fuel with
  | 0 => failure
  | fuel + 1 => do
      skipLayout
      if ← accept "\x7d" then return entries
      let path ← keys
      skipLayout
      expect "="
      skipLayout
      let value ← value fuel depth
      skipLayout
      match Entries.assign? value path entries with
      | none => failure
      | some entries =>
          if ← accept "," then members fuel depth entries
          else
            expect "\x7d"
            return entries

end

/-- A statement, if there is one on the line, and the end of the line. -/
def line (fuel : Nat) : Reader (Option Statement) := do
  skipBlanks
  let statement ←
    match ← peek with
    | none | some '#' | some '\n' | some '\r' => pure none
    | some '[' => do
        expect "["
        if ← accept "[" then
          let path ← keys
          expect "]]"
          pure (some (.element path))
        else
          let path ← keys
          expect "]"
          pure (some (.header path))
    | some _ => do
        let path ← keys
        expect "="
        skipBlanks
        pure (some (.entry path (← value fuel depthLimit)))
  endLine
  return statement

/-- The statements of a document added to what has been said before. -/
def lines (fuel : Nat) (document : Document) : Reader Document :=
  match fuel with
  | 0 => failure
  | fuel + 1 => do
      if (← get).isEmpty then return document
      match ← line fuel with
      | none => lines fuel document
      | some statement =>
          match document.add? statement with
          | some document => lines fuel document
          | none => failure

end Reader

/-- The document of a text. Every step takes at least one character, and a mark
in front of the text does not count. -/
def read? (text : String) : Option Entries := do
  let chars := match text.toList with
    | '\uFEFF' :: rest => rest
    | chars => chars
  let (document, _) ← (Reader.lines (2 * chars.length + 2) .empty).run chars
  return document.root

end Traceability.Toml

import Traceability.Text.Hexadecimal

/-!
Contract: texts in quotes.

Single quotes keep what stands between them. Between double quotes a backslash
begins an escape. Three quotes of either kind hold several lines, whose ends
are kept as they are: a line end right after the quotes is dropped, and a
backslash at the end of a line drops all blanks and line ends that follow.

Owns: reading the four kinds of texts, and which of them a text is written in.
Does not own: where texts stand.
-/

namespace Traceability.Toml

open Traceability.Text

/-- The characters that stand for themselves in texts of one line, and in
comments. -/
def isPlain (c : Char) : Bool := c = '\t' || (0x20 ≤ c.toNat && c.toNat ≠ 0x7F)

def isBlank (c : Char) : Bool := c = ' ' || c = '\t'

/-- The character that the letters after a backslash stand for, and how many
letters they are. -/
def escape? : List Char → Option (Char × Nat)
  | [] => none
  | 'b' :: _ => some ('\x08', 1)
  | 't' :: _ => some ('\t', 1)
  | 'n' :: _ => some ('\n', 1)
  | 'f' :: _ => some ('\x0C', 1)
  | 'r' :: _ => some ('\r', 1)
  | 'e' :: _ => some ('\x1B', 1)
  | '"' :: _ => some ('"', 1)
  | '\\' :: _ => some ('\\', 1)
  | 'x' :: rest => (charOfHex? 2 rest).map (·, 3)
  | 'u' :: rest => (charOfHex? 4 rest).map (·, 5)
  | 'U' :: rest => (charOfHex? 8 rest).map (·, 9)
  | _ => none

/-- Reads up to the closing single quote. `text` is what has been read,
backwards, here and below. -/
def literal? (text : List Char) : List Char → Option (String × List Char)
  | [] => none
  | '\'' :: rest => some (String.ofList text.reverse, rest)
  | c :: rest => if isPlain c then literal? (c :: text) rest else none

/-- Reads up to the closing double quote. -/
def basic? (text : List Char) (chars : List Char) : Option (String × List Char) :=
  match chars with
  | [] => none
  | '"' :: rest => some (String.ofList text.reverse, rest)
  | '\\' :: rest =>
      match escape? rest with
      | some (c, length) => basic? (c :: text) (rest.drop length)
      | none => none
  | c :: rest => if isPlain c then basic? (c :: text) rest else none
termination_by chars.length

/-- What a run of quotes means within three of them: up to two may stand before
the closing three. `quotes` is the length of the run. -/
def closing? (quote : Char) (quotes : Nat) (text : List Char) : Option String :=
  if quotes ≤ 5 then some (String.ofList (List.replicate (quotes - 3) quote ++ text).reverse)
  else none

/-- How long a run of `quote` the text begins with. -/
def runLength (quote : Char) (chars : List Char) : Nat := (chars.takeWhile (· = quote)).length

/-- Reads up to the closing three single quotes. -/
def longLiteral? (text : List Char) (chars : List Char) : Option (String × List Char) :=
  match chars with
  | [] => none
  | '\'' :: rest =>
      let quotes := runLength '\'' chars
      if quotes < 3 then longLiteral? ('\'' :: text) rest
      else (closing? '\'' quotes text).map (·, chars.drop quotes)
  | '\r' :: '\n' :: rest => longLiteral? ('\n' :: '\r' :: text) rest
  | c :: rest => if isPlain c || c = '\n' then longLiteral? (c :: text) rest else none

/-- The text without the blanks and line ends at its beginning. -/
def dropBlankLines : List Char → List Char
  | [] => []
  | '\n' :: rest => dropBlankLines rest
  | '\r' :: '\n' :: rest => dropBlankLines rest
  | c :: rest => if isBlank c then dropBlankLines rest else c :: rest

theorem length_dropBlankLines (chars : List Char) :
    (dropBlankLines chars).length ≤ chars.length := by
  fun_induction dropBlankLines chars <;> simp_all <;> omega

/-- What follows a backslash at the end of a line, without the blanks and line
ends before it. -/
def afterLineEnd? (chars : List Char) : Option (List Char) :=
  match chars.dropWhile isBlank with
  | '\n' :: _ | '\r' :: '\n' :: _ => some (dropBlankLines chars)
  | _ => none

theorem length_afterLineEnd? {chars rest : List Char} (found : afterLineEnd? chars = some rest) :
    rest.length ≤ chars.length := by
  unfold afterLineEnd? at found
  split at found
  · cases found
    exact length_dropBlankLines chars
  · cases found
    exact length_dropBlankLines chars
  · cases found

/-- Reads up to the closing three double quotes. -/
def longBasic? (text : List Char) (chars : List Char) : Option (String × List Char) :=
  match chars with
  | [] => none
  | '"' :: rest =>
      let quotes := runLength '"' chars
      if quotes < 3 then longBasic? ('"' :: text) rest
      else (closing? '"' quotes text).map (·, chars.drop quotes)
  | '\\' :: rest =>
      match _ : afterLineEnd? rest with
      | some after => longBasic? text after
      | none =>
          match escape? rest with
          | some (c, length) => longBasic? (c :: text) (rest.drop length)
          | none => none
  | '\r' :: '\n' :: rest => longBasic? ('\n' :: '\r' :: text) rest
  | c :: rest => if isPlain c || c = '\n' then longBasic? (c :: text) rest else none
termination_by chars.length
decreasing_by
  all_goals simp only [List.length_cons, List.length_drop]
  all_goals try omega
  have := length_afterLineEnd? (by assumption)
  omega

/-- The text after opening quotes, without a line end right after them. -/
def dropLineEnd : List Char → List Char
  | '\n' :: rest => rest
  | '\r' :: '\n' :: rest => rest
  | chars => chars

/-- Reads a text of any kind. -/
def text? : List Char → Option (String × List Char)
  | '"' :: '"' :: '"' :: rest => longBasic? [] (dropLineEnd rest)
  | '\'' :: '\'' :: '\'' :: rest => longLiteral? [] (dropLineEnd rest)
  | '"' :: rest => basic? [] rest
  | '\'' :: rest => literal? [] rest
  | _ => none

/-- Reads a text that may serve as a key. -/
def keyText? : List Char → Option (String × List Char)
  | '"' :: rest => basic? [] rest
  | '\'' :: rest => literal? [] rest
  | _ => none

/-! ## Writing -/

/-- Whether a character can only be written by an escape. -/
def needsEscape (c : Char) : Bool := !isPlain c && c ≠ '\n'

/-- The longest run of a character. -/
def longestRun (quote : Char) : List Char → Nat
  | [] => 0
  | c :: rest => max (runLength quote (c :: rest)) (longestRun quote rest)

/-- The four upper-case hexadecimal digits of a code below 256. -/
def shortCode (code : Nat) : List Char :=
  ['0', '0', (Nat.digitChar (code / 16)).toUpper, (Nat.digitChar (code % 16)).toUpper]

/-- Writes the inside of double quotes. Of the quotes in a run, `allowed` stand
for themselves, the next is escaped, and the count begins anew. -/
def writeBasic (lines : Bool) (allowed quotes : Nat) : List Char → List Char
  | [] => []
  | '"' :: rest =>
      if quotes < allowed then '"' :: writeBasic lines allowed (quotes + 1) rest
      else '\\' :: '"' :: writeBasic lines allowed 0 rest
  | '\\' :: rest => '\\' :: '\\' :: writeBasic lines allowed 0 rest
  | '\x08' :: rest => '\\' :: 'b' :: writeBasic lines allowed 0 rest
  | '\t' :: rest => '\\' :: 't' :: writeBasic lines allowed 0 rest
  | '\x0C' :: rest => '\\' :: 'f' :: writeBasic lines allowed 0 rest
  | '\r' :: rest => '\\' :: 'r' :: writeBasic lines allowed 0 rest
  | '\n' :: rest =>
      if lines then '\n' :: writeBasic lines allowed 0 rest
      else '\\' :: 'n' :: writeBasic lines allowed 0 rest
  | c :: rest =>
      if needsEscape c then '\\' :: 'u' :: shortCode c.toNat ++ writeBasic lines allowed 0 rest
      else c :: writeBasic lines allowed 0 rest

/-- Writes a text between quotes, which are double unless the text holds
something that other quotes spare an escape. -/
def writeText (text : String) : String :=
  let chars := text.toList
  let controls := chars.any needsEscape
  let backslash := chars.contains '\\'
  let lines := chars.contains '\n'
  let opening := if lines then "\n" else ""
  if !controls && !backslash && !lines && !chars.contains '"' then
    "\"" ++ String.ofList (writeBasic false 0 0 chars) ++ "\""
  else if !controls && !lines && !chars.contains '\'' then "'" ++ text ++ "'"
  else if !controls && !backslash && longestRun '"' chars ≤ 2 then
    "\"\"\"" ++ opening ++ String.ofList (writeBasic true 2 0 chars) ++ "\"\"\""
  else if !controls && longestRun '\'' chars ≤ 2 then "'''" ++ opening ++ text ++ "'''"
  else if lines then "\"\"\"\n" ++ String.ofList (writeBasic true 2 0 chars) ++ "\"\"\""
  else "\"" ++ String.ofList (writeBasic false 0 0 chars) ++ "\""

end Traceability.Toml

/-!
Contract: JSON texts.

A value is written on one line without blanks, or over several lines with two
blanks for each level of nesting. Members of an object are written in the order
in which the value holds them. Only the quote, the backslash and the control
characters below the blank are escaped.

Owns: the values, and both ways to write them.
Does not own: which values are reported.
-/

namespace Traceability

inductive Json where
  | null
  | bool (value : Bool)
  | nat (value : Nat)
  | string (text : String)
  | array (items : List Json)
  | object (members : List (String × Json))
deriving Inhabited

namespace Json

def strings (texts : List String) : Json := .array (texts.map .string)

/-- The digit with the given value below sixteen. -/
def hexDigit (value : Nat) : Char :=
  if value < 10 then Char.ofNat ('0'.toNat + value) else Char.ofNat ('a'.toNat + (value - 10))

/-- How a character is written between quotes. -/
def escapeCharacter (c : Char) : List Char :=
  match c with
  | '"' => ['\\', '"']
  | '\\' => ['\\', '\\']
  | '\n' => ['\\', 'n']
  | '\r' => ['\\', 'r']
  | '\t' => ['\\', 't']
  | '\x08' => ['\\', 'b']
  | '\x0C' => ['\\', 'f']
  | c =>
      if c.toNat < 0x20 then
        ['\\', 'u', '0', '0', hexDigit (c.toNat / 16), hexDigit (c.toNat % 16)]
      else [c]

def quote (text : String) : String :=
  "\"" ++ String.ofList (text.toList.flatMap escapeCharacter) ++ "\""

mutual

/-- The value on one line. -/
def compact : Json → String
  | .null => "null"
  | .bool value => if value then "true" else "false"
  | .nat value => toString value
  | .string text => quote text
  | .array items => "[" ++ ",".intercalate (compactItems items) ++ "]"
  | .object members => "\x7b" ++ ",".intercalate (compactMembers members) ++ "\x7d"

def compactItems : List Json → List String
  | [] => []
  | item :: items => compact item :: compactItems items

def compactMembers : List (String × Json) → List String
  | [] => []
  | (key, value) :: members => (quote key ++ ":" ++ compact value) :: compactMembers members

end

/-- A new line at a level of nesting. -/
def lineBreak (level : Nat) : String := "\n".pushn ' ' (2 * level)

/-- Parts on lines of their own, one level deeper than the brackets. -/
def layOut (opening closing : String) (level : Nat) (parts : List String) : String :=
  if parts.isEmpty then opening ++ closing
  else
    opening ++ lineBreak (level + 1) ++
      ("," ++ lineBreak (level + 1)).intercalate parts ++ lineBreak level ++ closing

mutual

/-- The value over several lines, `level` being that of the first. -/
def pretty (level : Nat) : Json → String
  | .array items => layOut "[" "]" level (prettyItems (level + 1) items)
  | .object members => layOut "\x7b" "\x7d" level (prettyMembers (level + 1) members)
  | .null => "null"
  | .bool value => if value then "true" else "false"
  | .nat value => toString value
  | .string text => quote text

def prettyItems (level : Nat) : List Json → List String
  | [] => []
  | item :: items => pretty level item :: prettyItems level items

def prettyMembers (level : Nat) : List (String × Json) → List String
  | [] => []
  | (key, value) :: members =>
      (quote key ++ ": " ++ pretty level value) :: prettyMembers level members

end

end Json

end Traceability

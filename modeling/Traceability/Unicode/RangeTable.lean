import Traceability.Unicode.CharSet

/-!
Contract: the written form of tables of characters.

A table is written as text: hexadecimal code points in ascending order, a lone
one for a single character and two joined by `-` for a range, with blanks
between the entries.

Owns: the written form.
Does not own: which characters have which property.
-/

namespace Traceability.Unicode

namespace RangeTable

/-- The value of a hexadecimal digit; other characters count as zero. -/
def digitValue (c : Char) : Nat :=
  if '0' ≤ c ∧ c ≤ '9' then c.toNat - '0'.toNat
  else if 'A' ≤ c ∧ c ≤ 'F' then c.toNat - 'A'.toNat + 10
  else if 'a' ≤ c ∧ c ≤ 'f' then c.toNat - 'a'.toNat + 10
  else 0

/-- A number written in hexadecimal digits. -/
def hexValue (digits : List Char) : Nat :=
  digits.foldl (fun value c => 16 * value + digitValue c) 0

/-- An entry of the written form. -/
def readEntry (entry : List Char) : Nat × Nat :=
  match entry.span (· ≠ '-') with
  | (single, []) => (hexValue single, hexValue single)
  | (first, _ :: last) => (hexValue first, hexValue last)

/-- Splits a text at blanks, dropping empty pieces. `piece` is the piece being
read, backwards. -/
def splitBlanks (piece : List Char) : List Char → List (List Char)
  | [] => if piece.isEmpty then [] else [piece.reverse]
  | ' ' :: rest =>
      if piece.isEmpty then splitBlanks [] rest
      else piece.reverse :: splitBlanks [] rest
  | c :: rest => splitBlanks (c :: piece) rest

/-- Reads the written form of a table, given line by line. -/
def ofLines (lines : List String) : CharSet :=
  ⟨(lines.flatMap fun line => (splitBlanks [] line.toList).map readEntry).toArray⟩

end RangeTable

/-- A value of a character property: its names, in lower case and without
separators, and the characters that have it. -/
structure PropertyRow where
  names : List String
  lines : List String
deriving Repr

/-- The characters of the first row that goes by `name`. -/
def PropertyRow.find? (rows : List PropertyRow) (name : String) : Option CharSet :=
  (rows.find? fun row => row.names.contains name).map fun row => RangeTable.ofLines row.lines

end Traceability.Unicode

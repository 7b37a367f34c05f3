import Traceability.Unicode.Age
import Traceability.Unicode.BinaryProperty
import Traceability.Unicode.GeneralCategory
import Traceability.Unicode.Script
import Traceability.Unicode.ScriptExtension
import Traceability.Unicode.Segmentation

/-!
Contract: the sets of characters that property names stand for.

Names are compared loosely: case, blanks, hyphens, underscores and a leading
`is` do not count. A lone name is a property that a character has or lacks, a
general category, or a script, looked up in this order; a name with a value
picks a value of the named property.

Owns: names and the sets they stand for.
Does not own: the notation in which a pattern mentions them.
-/

namespace Traceability.Pattern

open Traceability.Unicode

/-- What a pattern asks for: a name, or a value of a named property. -/
inductive PropertyQuery where
  | named (name : String)
  | valued (property value : String)
deriving DecidableEq, Repr

/-- The form under which names are compared. Characters beyond ASCII vanish.
A lone `c` after `is` is the abbreviation `isc`, no category. -/
def looseName (name : String) : String :=
  let squeeze (letters : List Char) : List Char :=
    (letters.filter fun c => c != ' ' && c != '_' && c != '-' && c.toNat ≤ 0x7F).map Char.toLower
  match name.toList with
  | first :: second :: rest =>
      if first.toLower == 'i' && second.toLower == 's' then
        let remaining := squeeze rest
        if remaining == ['c'] then "isc" else String.ofList remaining
      else String.ofList (squeeze (first :: second :: rest))
  | letters => String.ofList (squeeze letters)

/-- A general category, a family of them, or one of the three sets that are
named like categories. `name` is loose. -/
def generalCategory? (name : String) : Option CharSet :=
  if name == "any" then some .full
  else if name == "ascii" then some (.range '\x00' '\x7F')
  else if name == "assigned" then
    (PropertyRow.find? generalCategories "cn").map CharSet.complement
  else
    match categoryFamilies.find? fun family => family.1.contains name with
    | some family =>
        some (CharSet.unionAll (family.2.filterMap (PropertyRow.find? generalCategories)))
    | none => PropertyRow.find? generalCategories name

/-- The characters that had appeared by the version `name`. -/
def age? (name : String) : Option CharSet :=
  match ages.span fun row => !row.names.contains name with
  | (_, []) => none
  | (older, newest :: _) =>
      some (CharSet.unionAll ((older ++ [newest]).map fun row =>
        RangeTable.ofLines row.lines))

/-- The properties that take a value, with the names they go by. -/
def valuedProperties : List (List String × (String → Option CharSet)) := [
  (["gc", "generalcategory"], generalCategory?),
  (["sc", "script"], PropertyRow.find? scripts),
  (["scx", "scriptextensions"], PropertyRow.find? scriptExtensions),
  (["age"], age?),
  (["gcb", "graphemeclusterbreak"], PropertyRow.find? graphemeClusterBreaks),
  (["wb", "wordbreak"], PropertyRow.find? wordBreaks),
  (["sb", "sentencebreak"], PropertyRow.find? sentenceBreaks)]

/-- The set that a query stands for, if its names are known. -/
def PropertyQuery.resolve? : PropertyQuery → Option CharSet
  | .named name =>
      let loose := looseName name
      ((PropertyRow.find? binaryProperties loose).or (generalCategory? loose)).or
        (PropertyRow.find? scripts loose)
  | .valued property value =>
      let loose := looseName property
      match valuedProperties.find? fun entry => entry.1.contains loose with
      | some entry => entry.2 (looseName value)
      | none => none

/-- The decimal digits of all scripts. -/
def digits : CharSet := (generalCategory? "nd").getD .empty

/-- The characters with the property `White_Space`. -/
def blanks : CharSet := (PropertyRow.find? binaryProperties "whitespace").getD .empty

/-- The characters of words: letters, marks, decimal digits, connecting
punctuation, and the joiners. -/
def wordCharacters : CharSet :=
  CharSet.unionAll ([.named "Alphabetic", .named "M", .named "Nd", .named "Pc",
    .named "Join_Control"].filterMap PropertyQuery.resolve?)

/-- The same in ASCII. -/
def asciiWordCharacters : CharSet :=
  CharSet.unionAll [.range '0' '9', .range 'A' 'Z', .singleton '_', .range 'a' 'z']

end Traceability.Pattern

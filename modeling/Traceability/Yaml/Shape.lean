import Traceability.Identifier
import Traceability.Record.Spelling
import Traceability.Yaml.Node

/-!
Contract: reading values of given types from nodes.

A text is any scalar, however it is written and tagged. A list, a map or a
record may be left empty, which is not the same as being null. A record ignores
fields it does not know, and has none twice; of the entries of a map with one
key the last counts.

Owns: which nodes stand for which values.
Does not own: the records.
-/

namespace Traceability.Yaml

/-- The fields of a record as they are written. -/
abbrev Fields := List (String × Node)

namespace Node

def text? : Node → Option String
  | .scalar _ _ text => some text
  | _ => none

/-- The plain scalars that stand for nothing although they are not empty. -/
def nullTexts : List String := ["~", "null", "Null", "NULL"]

/-- A text that may be missing. A tag makes a plain scalar a text like any
other, unless the tag says that it is none. -/
def optionalText? : Node → Option (Option String)
  | .scalar .plain none text =>
      some (if text.isEmpty || nullTexts.contains text then none else some text)
  | .scalar .plain (some tag) text =>
      if tag ≠ Tag.null then some (some text)
      else if nullTexts.contains text then some none
      else none
  | .scalar _ _ text => some (some text)
  | _ => none

def boolOfText? (text : String) : Option Bool :=
  if ["true", "True", "TRUE"].contains text then some true
  else if ["false", "False", "FALSE"].contains text then some false
  else none

/-- A truth value, which is plain, or literal with the tag of one. -/
def bool? : Node → Option Bool
  | .scalar .plain _ text => boolOfText? text
  | .scalar .literal (some tag) text => if tag = Tag.bool then boolOfText? text else none
  | _ => none

/-- A value by its spelling, which is also told by the name in the tag of a
plain scalar that stands for nothing. -/
def spelled? {α : Type} [Spelled α] : Node → Option α
  | .scalar style tag text =>
      match tag.bind Tag.name? with
      | none => Spelled.read? text
      | some name =>
          if style = .plain && (text.isEmpty || nullTexts.contains text) then Spelled.read? name
          else none
  | _ => none

def items? : Node → Option (List Node)
  | .sequence items => some items
  | .scalar .plain _ "" => some []
  | _ => none

def entries? : Node → Option (List (Node × Node))
  | .mapping entries => some entries
  | .scalar .plain _ "" => some []
  | _ => none

def list? {α : Type} (read : Node → Option α) (node : Node) : Option (List α) :=
  node.items?.bind (List.mapM read)

def texts? (node : Node) : Option (List String) := node.list? text?

/-- The entries of a mapping whose keys are texts. -/
def fields? (node : Node) : Option Fields := do
  (← node.entries?).mapM fun (key, value) => return (← key.text?, value)

def map? {α : Type} (read : Node → Option α) (node : Node) :
    Option (Std.ExtTreeMap String α) := do
  (← node.fields?).foldlM (fun map (key, value) => return map.insert key (← read value)) ∅

end Node

namespace Fields

/-- The value of the field that goes by `names`, if it is there. There is no
answer if it is there twice. -/
def find? (fields : Fields) (names : List String) : Option (Option Node) :=
  match fields.filter fun field => names.contains field.1 with
  | [] => some none
  | [field] => some (some field.2)
  | _ => none

/-- The value of a field that has to be there. -/
def required? {α : Type} (fields : Fields) (name : String) (read : Node → Option α) :
    Option α := do
  (← fields.find? [name]).bind read

/-- The value of a field that goes by any of `names`, or `default`. -/
def readOr? {α : Type} (fields : Fields) (names : List String) (read : Node → Option α)
    (default : α) : Option α := do
  match ← fields.find? names with
  | none => return default
  | some value => read value

end Fields

end Traceability.Yaml

import Std.Data.ExtTreeMap
import Std.Data.ExtTreeSet

/-!
Contract: the names of requirements, verification cases and results.

An identifier pairs the urn of the owning module with a name that is local to
that module; its text is `urn:name`. Reading splits the text at the first
separator, so a name may itself hold separators and an urn never does.
Identifiers are ordered by urn and then by name, strings being compared code
point by code point, and every set and map of identifiers is kept in that order.

Owns: the text form, qualification of bare names, the order.
Does not own: which identifiers exist, or which module may see them.
-/

namespace Traceability

/-- The name of an entity: the urn of its module and its name within it. -/
structure Identifier where
  urn : String
  name : String
deriving DecidableEq, Repr

namespace Identifier

/-- The character between the urn and the name. -/
def separator : Char := ':'

/-- The text `urn:name`. -/
def display (id : Identifier) : String :=
  id.urn ++ ":" ++ id.name

/-- Urn first, then name, each by code point. -/
instance : Ord Identifier :=
  ⟨compareLex (compareOn Identifier.urn) (compareOn Identifier.name)⟩

instance : Std.TransOrd Identifier :=
  inferInstanceAs (Std.TransCmp
    (compareLex (compareOn Identifier.urn) (compareOn Identifier.name)))

theorem compare_eq_then (left right : Identifier) :
    compare left right =
      (compare left.urn right.urn).then (compare left.name right.name) := rfl

instance : Std.LawfulEqOrd Identifier where
  compare_self := Std.ReflOrd.compare_self
  eq_of_compare := by
    intro left right equal
    rw [compare_eq_then, Ordering.then_eq_eq] at equal
    cases left
    cases right
    simpa using equal

/-- The parts before and after the first separator, if there is one. -/
def splitText (text : String) : Option (String × String) :=
  match text.toList.dropWhile (· ≠ separator) with
  | [] => none
  | _ :: name =>
      some (String.ofList (text.toList.takeWhile (· ≠ separator)), String.ofList name)

/-- Why a text names nothing. Each constructor carries the text as given. -/
inductive Error where
  | missingSeparator (text : String)
  | emptyUrn (text : String)
  | emptyName (text : String)
deriving DecidableEq, Repr

def Error.message : Error → String
  | .missingSeparator text => s!"Invalid identifier '{text}': expected the form 'urn:id'"
  | .emptyUrn text => s!"Invalid identifier '{text}': urn cannot be empty"
  | .emptyName text => s!"Invalid identifier '{text}': id cannot be empty"

/-- Both parts must be there; the urn is looked at first. -/
def ofParts (urn name text : String) : Except Error Identifier :=
  if urn.isEmpty then .error (.emptyUrn text)
  else if name.isEmpty then .error (.emptyName text)
  else .ok ⟨urn, name⟩

/-- Reads `urn:name`. -/
def parse (text : String) : Except Error Identifier :=
  match splitText text with
  | none => .error (.missingSeparator text)
  | some (urn, name) => ofParts urn name text

/-- Resolves a text against the module `urn`: a bare name belongs to that
module, a text with a separator keeps the urn it names. -/
def qualify (urn text : String) : Except Error Identifier :=
  if text.toList.contains separator then parse text
  else ofParts urn text text

/-- Whether the identifier is the one that `literal` names from within the
module `urn`. Nothing is rejected: an empty part simply matches an empty part. -/
def matchesLiteral (id : Identifier) (urn literal : String) : Bool :=
  match splitText literal with
  | some (literalUrn, literalName) => id.urn = literalUrn && id.name = literalName
  | none => id.urn = urn && id.name = literal

end Identifier

/-- A finite set of identifiers, in identifier order. -/
abbrev IdentifierSet := Std.ExtTreeSet Identifier

/-- A finite map from identifiers, in identifier order. -/
abbrev IdentifierMap (α : Type) := Std.ExtTreeMap Identifier α

/-- A finite map from module urns, in the order of the urns. -/
abbrev UrnMap (α : Type) := Std.ExtTreeMap String α

end Traceability

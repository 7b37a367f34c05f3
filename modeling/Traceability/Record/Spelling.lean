/-!
Contract: enumerations that documents spell out.

Owns: the way back from a spelling to the value it stands for.
Does not own: the spellings, which every enumeration gives itself.
-/

namespace Traceability

/-- An enumeration with a distinct text for each of its values. -/
class Spelled (α : Type) where
  values : List α
  spelling : α → String

/-- The value that is spelled `text`. -/
def Spelled.read? {α : Type} [Spelled α] (text : String) : Option α :=
  (Spelled.values (α := α)).find? fun value => Spelled.spelling value = text

end Traceability

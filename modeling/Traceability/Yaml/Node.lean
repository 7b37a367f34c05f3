import Traceability.Yaml.Token

/-!
Contract: what a YAML document says.

A scalar keeps its text, its tag and the way it was written, since these tell
whether it can stand for anything but text. Entries of a mapping keep their
order, and may repeat a key.

Owns: nodes, and what is asked of a reader.
Does not own: how nodes are written, and what they stand for.
-/

namespace Traceability.Yaml

inductive Node where
  | scalar (style : ScalarStyle) (tag : Option Tag) (text : String)
  | sequence (items : List Node)
  | mapping (entries : List (Node × Node))

namespace Node

/-- What stands where nothing is written. -/
def empty : Node := .scalar .plain none ""

end Node

end Traceability.Yaml

namespace Traceability

/-- A reader of YAML: the document that a text is, if it is one. -/
class YamlReader where
  document? : String → Option Yaml.Node

end Traceability

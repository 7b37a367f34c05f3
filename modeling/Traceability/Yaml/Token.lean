import Traceability.Yaml.Tag

/-!
Contract: the tokens of a YAML text.

Besides what is written, tokens tell where blocks begin and end, which follows
from indentation alone.

Owns: the tokens, and the styles of scalars.
Does not own: how they are written, and which sequences of them are documents.
-/

namespace Traceability.Yaml

/-- How a scalar is written. -/
inductive ScalarStyle where
  | plain
  | quoted
  /-- In lines of its own that keep their ends. -/
  | literal
  /-- In lines of its own that are joined. -/
  | folded
deriving DecidableEq, Repr

inductive Token where
  | version (major minor : Nat)
  /-- Declares a handle that tags may begin with, and what it stands for. -/
  | handle (name : String) (meaning : Tag)
  | documentStart
  | documentEnd
  | blockSequenceStart
  | blockMappingStart
  | blockEnd
  | flowSequenceStart
  | flowSequenceEnd
  | flowMappingStart
  | flowMappingEnd
  | blockEntry
  | flowEntry
  | key
  | value
  | alias (name : String)
  | anchor (name : String)
  /-- A tag by its handle, which is empty for a tag written in full, and what
  follows the handle. -/
  | tag (handle : String) (suffix : Tag)
  | scalar (style : ScalarStyle) (text : String)
deriving DecidableEq, Repr

end Traceability.Yaml

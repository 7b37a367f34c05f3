/-!
Contract: the tags of nodes.

Escapes may write any bytes, so a tag is a sequence of bytes that need not be a
text. A zero byte ends it. A tag of an author's own begins with an exclamation
mark, and has a name.

Owns: tags, those with a meaning of their own, and names.
Does not own: handles, how tags are written, and what they change.
-/

namespace Traceability.Yaml

structure Tag where
  bytes : List UInt8
deriving DecidableEq, Repr

namespace Tag

/-- The tag that `bytes` write. -/
def ofBytes (bytes : List UInt8) : Tag := ⟨bytes.takeWhile (· ≠ 0)⟩

def ofText (text : String) : Tag := ofBytes text.toByteArray.data.toList

/-- The tag that `suffix` makes with what its handle stands for. -/
def join (beginning suffix : Tag) : Tag := ⟨beginning.bytes ++ suffix.bytes⟩

/-- The exclamation mark alone, which leaves a scalar without a tag. -/
def mark : Tag := ofText "!"

/-- What the second exclamation mark stands for unless it is declared. -/
def core : Tag := ofText "tag:yaml.org,2002:"

/-- The tag of a scalar that stands for nothing. -/
def null : Tag := core.join (ofText "null")

/-- The tag of a truth value. -/
def bool : Tag := core.join (ofText "bool")

/-- The name in an author's own tag, which is the mark itself where nothing
follows it. -/
def name? (tag : Tag) : Option String :=
  match tag.bytes with
  | [] => none
  | first :: rest =>
      if first ≠ 0x21 then none
      else String.fromUTF8? ⟨(if rest.isEmpty then [first] else rest).toArray⟩

end Tag

end Traceability.Yaml

/-!
Contract: what a TOML document says, and how its statements add up.

A table may be made by a header, by the path of a longer header, by a dotted
key, or in braces. A header may later claim a table that only a path has made;
dotted keys extend what dotted keys have made; nothing is defined twice, and
what stands in braces or brackets is final.

Owns: values, and the effect of a statement on what has been said before.
Does not own: how statements are written.
-/

namespace Traceability.Toml

/-- What has made a table. -/
inductive Origin where
  | header
  | path
  | dotted
  | braces
deriving DecidableEq, Repr

inductive Value where
  | string (text : String)
  | boolean (value : Bool)
  | integer (value : Int)
  | float (text : String)
  | dateTime (text : String)
  | array (items : List Value)
  | table (origin : Origin) (entries : List (String × Value))
  /-- The tables that headers in double brackets have made. -/
  | tables (elements : List (List (String × Value)))

abbrev Entries := List (String × Value)

namespace Entries

/-- Replaces the value of a key, or gives it one. -/
def alter? (key : String) (change : Option Value → Option Value) : Entries → Option Entries
  | [] => (change none).map fun value => [(key, value)]
  | (other, value) :: rest =>
      if other = key then (change (some value)).map fun value => (other, value) :: rest
      else (alter? key change rest).map fun rest => (other, value) :: rest

/-- Gives a dotted key its value. -/
def assign? (value : Value) : List String → Entries → Option Entries
  | [], _ => none
  | [key], entries =>
      alter? key (fun present => if present.isNone then some value else none) entries
  | key :: next :: keys, entries =>
      alter? key (fun
        | none => (assign? value (next :: keys) []).map (.table .dotted)
        | some (.table .dotted inner) =>
            (assign? value (next :: keys) inner).map (.table .dotted)
        | some (.table .path inner) =>
            if keys.isEmpty then none
            else (assign? value (next :: keys) inner).map (.table .path)
        | some _ => none) entries

/-- Changes the table that a path of headers leads to. Of several tables under
one key the last is meant. -/
def within? (change : Entries → Option Entries) : List String → Entries → Option Entries
  | [], entries => change entries
  | key :: keys, entries =>
      alter? key (fun
        | none => (within? change keys []).map (.table .path)
        | some (.table .braces _) => none
        | some (.table origin inner) => (within? change keys inner).map (.table origin)
        | some (.tables elements) =>
            elements.getLast?.bind fun last =>
              (within? change keys last).map fun last => .tables (elements.dropLast ++ [last])
        | some _ => none) entries

/-- Makes a table for a header, or claims one that a path has made. -/
def openTable? (key : String) : Entries → Option Entries :=
  alter? key fun
    | none => some (.table .header [])
    | some (.table .path entries) => some (.table .header entries)
    | some _ => none

/-- Adds a table for a header in double brackets. -/
def openElement? (key : String) : Entries → Option Entries :=
  alter? key fun
    | none => some (.tables [[]])
    | some (.tables elements) => some (.tables (elements ++ [[]]))
    | some _ => none

def find? (entries : Entries) (key : String) : Option Value := entries.lookup key

end Entries

inductive Statement where
  | header (path : List String)
  | element (path : List String)
  | entry (keys : List String) (value : Value)

/-- What has been said so far, and the path of the last header. -/
structure Document where
  root : Entries
  current : List String

namespace Document

def empty : Document := ⟨[], []⟩

/-- Takes one more statement into account. -/
def add? (document : Document) : Statement → Option Document
  | .header path => do
      let key ← path.getLast?
      let root ← Entries.within? (Entries.openTable? key) path.dropLast document.root
      return ⟨root, path⟩
  | .element path => do
      let key ← path.getLast?
      let root ← Entries.within? (Entries.openElement? key) path.dropLast document.root
      return ⟨root, path⟩
  | .entry keys value => do
      let root ← Entries.within? (Entries.assign? value keys) document.current document.root
      return { document with root }

end Document

end Traceability.Toml

import Traceability.Document.Error
import Traceability.Filter
import Traceability.Yaml.Shape

/-!
Contract: filters as documents spell them.

The names in a filter belong to the module that it narrows. They are listed
under any one of three field names.

Owns: the fields of a filter, and the rule they make.
Does not own: what a rule filters out.
-/

namespace Traceability.Document

open Traceability.Yaml

structure FilterEntry where
  includes : List String
  excludes : List String
  customIncludes : Option String
  customExcludes : Option String
deriving DecidableEq, Repr

namespace FilterEntry

/-- Two values under `includes` and `excludes`. -/
def sides? {α : Type} (read : Node → Option α) (default : α) (node : Node) : Option (α × α) := do
  let fields ← node.fields?
  let includes ← fields.readOr? ["includes"] read default
  let excludes ← fields.readOr? ["excludes"] read default
  return (includes, excludes)

def ofNode? (node : Node) : Option FilterEntry := do
  let fields ← node.fields?
  let (includes, excludes) ←
    fields.readOr? ["ids", "requirement_ids", "svc_ids"] (sides? Node.texts? []) ([], [])
  let (customIncludes, customExcludes) ←
    fields.readOr? ["custom"] (sides? Node.optionalText? none) (none, none)
  return ⟨includes, excludes, customIncludes, customExcludes⟩

variable [PatternEngine]

/-- The rule for the module `target`. -/
def toRule (entry : FilterEntry) (target : String) : Except Error FilterRule := do
  let includes ← entry.includes.mapM (resolve target)
  let excludes ← entry.excludes.mapM (resolve target)
  (FilterRule.compile includes excludes entry.customIncludes entry.customExcludes).mapError
    .expression

/-- The rules for all targets, in the order of their urns. -/
def toRules (entries : UrnMap FilterEntry) : Except Error (UrnMap FilterRule) :=
  entries.toList.foldlM (fun rules (target, entry) => do
    return rules.insert target (← entry.toRule target)) ∅

end FilterEntry

end Traceability.Document

import Traceability.Expression.Basic

/-!
Contract: rules that narrow what an importing module sees of another.

A rule lists identifiers to include and to exclude, and may add an expression
to either list. Criteria to exclude take precedence: with any of them, those to
include are ignored. A rule without criteria keeps everything.

Owns: what one rule filters out, and which of its names resolve.
Does not own: which entities a rule is applied to.
-/

namespace Traceability

/-- What a rule names an identifier for. -/
inductive FilterAction where
  | import
  | exclude
deriving DecidableEq, Repr

def FilterAction.display : FilterAction → String
  | .import => "import"
  | .exclude => "exclude"

variable [PatternEngine]

structure FilterRule where
  includes : IdentifierSet
  excludes : IdentifierSet
  customIncludes : Option Expression
  customExcludes : Option Expression
deriving DecidableEq

namespace FilterRule

/-- The rule that keeps only the listed identifiers. -/
def including (ids : List Identifier) : FilterRule := ⟨.ofList ids, ∅, none, none⟩

/-- The rule that drops the listed identifiers. -/
def excluding (ids : List Identifier) : FilterRule := ⟨∅, .ofList ids, none, none⟩

/-- Reads the expressions of a rule, the one to include first. -/
def compile (includes excludes : List Identifier)
    (customIncludes customExcludes : Option String) :
    Except Expression.SyntaxError FilterRule := do
  let customIncludes ← customIncludes.mapM Expression.parse
  let customExcludes ← customExcludes.mapM Expression.parse
  return ⟨.ofList includes, .ofList excludes, customIncludes, customExcludes⟩

def hasExcludes (rule : FilterRule) : Bool :=
  !rule.excludes.isEmpty || rule.customExcludes.isSome

def hasIncludes (rule : FilterRule) : Bool :=
  !rule.includes.isEmpty || rule.customIncludes.isSome

/-- Whether an identifier is excluded, in the list or by the expression. -/
def excludesId (rule : FilterRule) (target : String) (id : Identifier) : Bool :=
  rule.excludes.contains id || rule.customExcludes.any fun expression => expression.holds target id

/-- Whether an identifier is included, in the list or by the expression. -/
def includesId (rule : FilterRule) (target : String) (id : Identifier) : Bool :=
  rule.includes.contains id || rule.customIncludes.any fun expression => expression.holds target id

/-- Whether a rule for the module `target` filters an identifier out. -/
def filtersOut (rule : FilterRule) (target : String) (id : Identifier) : Bool :=
  if rule.hasExcludes then rule.excludesId target id
  else if rule.hasIncludes then !rule.includesId target id
  else false

/-- The listed identifiers that are not accessible, in order: those to include
if there are any, and those to exclude otherwise. -/
def unresolved (rule : FilterRule) (accessible : IdentifierSet) :
    List (FilterAction × Identifier) :=
  let named := if rule.includes.isEmpty then (FilterAction.exclude, rule.excludes)
    else (.import, rule.includes)
  (named.2.toList.filter fun id => !accessible.contains id).map fun id => (named.1, id)

def displayList (ids : IdentifierSet) : String :=
  ", ".intercalate (ids.toList.map Identifier.display)

/-- The criteria of the rule, in words. -/
def display (rule : FilterRule) : String :=
  let listed (label : String) (ids : IdentifierSet) : List String :=
    if ids.isEmpty then [] else [s!"{label} [{displayList ids}]"]
  let custom (label : String) (expression : Option Expression) : List String :=
    expression.toList.map fun expression => label ++ " \x60" ++ expression.source ++ "\x60"
  let parts := listed "includes" rule.includes ++ listed "excludes" rule.excludes ++
    custom "custom includes" rule.customIncludes ++ custom "custom excludes" rule.customExcludes
  if parts.isEmpty then "no criteria" else "; ".intercalate parts

end FilterRule

end Traceability

import Traceability.Model.Merge
import Traceability.Model.Scope

/-!
Contract: from a module graph to its model.

Owns: the order of the two steps, merging and narrowing.
Does not own: either step.
-/

namespace Traceability

variable [PatternEngine]

/-- The model of a module graph, narrowed to what the root may see if `filter`
asks for it. -/
def ModuleGraph.generateBy (algorithms : DigraphAlgorithms) (graph : ModuleGraph)
    (filter : Bool) : Except GenerationError Model :=
  match graph.mergeBy algorithms with
  | .error failure => .error failure
  | .ok model => .ok (if filter then model.narrow graph else model)

def ModuleGraph.generate : ModuleGraph → Bool → Except GenerationError Model :=
  generateBy .byReach

end Traceability

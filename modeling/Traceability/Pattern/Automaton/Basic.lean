import Traceability.Pattern.Regex
import Traceability.Text.ByteRange

/-!
Contract: automata over bytes, and the space they are charged for.

A state takes a byte and moves on, or it moves on without one: at once, after
testing a place of the text, or to several states.

Owns: states and automata.
Does not own: how an automaton is built, and how it runs.
-/

namespace Traceability.Pattern

open Traceability.Text (ByteRange)

/-- Where a byte of the range leads to. -/
structure Move where
  bytes : ByteRange
  target : Nat
deriving DecidableEq, Repr

namespace Automaton

inductive State where
  | pass (target : Nat)
  | test (assertion : Assertion) (target : Nat)
  /-- Takes one byte of the only range. -/
  | step (move : Move)
  /-- Takes one byte by the move whose range holds it. -/
  | steps (moves : Array Move)
  | branch (targets : List Nat)
  | accept
deriving Repr

/-- Bytes that a state is charged for itself. -/
def stateSize : Nat := 32

/-- Bytes that a state is charged for what it lists. -/
def State.listSize : State → Nat
  | .steps moves => 8 * moves.size
  | .branch targets => 4 * targets.length
  | .pass _ | .test _ _ | .step _ | .accept => 0

/-- Lets a state lead to the target, besides where it leads already if it is a
branch. -/
def State.connect (target : Nat) : State → State
  | .pass _ => .pass target
  | .test assertion _ => .test assertion target
  | .step move => .step { move with target }
  | .branch targets => .branch (target :: targets)
  | .steps moves => .steps moves
  | .accept => .accept

end Automaton

/-- States by number, and the one to begin with. -/
structure Automaton where
  states : Array Automaton.State
  start : Nat
deriving Repr

end Traceability.Pattern

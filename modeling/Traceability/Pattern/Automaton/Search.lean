import Traceability.Pattern.Automaton.Basic

/-!
Contract: searching a text with an automaton.

All states that some beginning of a match can be in are followed at once, a
character at a time. A match may begin before any character and at the end,
and a search only asks whether there is one, so that no match is preferred to
another.

Owns: the search.
Does not own: the characters of words.
-/

namespace Traceability.Pattern

/-- A position of a text by the characters on both sides; the ends of the text
have none on one side. -/
structure Position where
  before : Option Char
  after : Option Char
deriving DecidableEq, Repr

/-- Whether a character belongs to a word. -/
def isWordCharacter (unicode : Bool) (c : Option Char) : Bool :=
  c.any fun c => (if unicode then wordCharacters else asciiWordCharacters).contains c

/-- Whether the assertion holds at the position. A carriage return and a line
feed after it are not parted. -/
def Assertion.holds (assertion : Assertion) (position : Position) : Bool :=
  let before := position.before
  let after := position.after
  match assertion with
  | .textStart => before.isNone
  | .textEnd => after.isNone
  | .lineStart false => before.isNone || before = some '\n'
  | .lineStart true =>
      before.isNone || before = some '\n' || (before = some '\r' && after ≠ some '\n')
  | .lineEnd false => after.isNone || after = some '\n'
  | .lineEnd true =>
      after.isNone || after = some '\r' || (after = some '\n' && before ≠ some '\r')
  | .wordBoundary unicode => isWordCharacter unicode before != isWordCharacter unicode after
  | .notWordBoundary unicode => isWordCharacter unicode before == isWordCharacter unicode after
  | .wordStart unicode => !isWordCharacter unicode before && isWordCharacter unicode after
  | .wordEnd unicode => isWordCharacter unicode before && !isWordCharacter unicode after
  | .wordStartHalf unicode => !isWordCharacter unicode before
  | .wordEndHalf unicode => !isWordCharacter unicode after

namespace Automaton

/-- Where a byte leads from a state. -/
def State.after? (byte : UInt8) : State → Option Nat
  | .step move => if move.bytes.contains byte then some move.target else none
  | .steps moves =>
      (moves.find? fun move => move.bytes.contains byte).map fun move => move.target
  | .pass _ | .test _ _ | .branch _ | .accept => none

/-- What a search knows between two bytes: for each state the time of its last
visit, and of those visited now the ones that take a byte, and whether one of
them accepts. -/
structure Frontier where
  visits : Array Nat
  waiting : List State
  isAccepting : Bool

/-- Visits the pending states and all that follow without a byte. No state is
visited twice, so that `unvisited`, the number of states at first, bounds the
visits. -/
def visit (automaton : Automaton) (position : Position) (time : Nat) (unvisited : Nat)
    (frontier : Frontier) (pending : List Nat) : Frontier :=
  match unvisited, pending with
  | _, [] => frontier
  | 0, _ :: _ => frontier
  | unvisited + 1, number :: pending =>
      if frontier.visits[number]? = some time then
        visit automaton position time (unvisited + 1) frontier pending
      else
        match automaton.states[number]? with
        | none => visit automaton position time (unvisited + 1) frontier pending
        | some state =>
            let frontier :=
              { frontier with visits := frontier.visits.setIfInBounds number time }
            match state with
            | .pass target => visit automaton position time unvisited frontier (target :: pending)
            | .test assertion target =>
                visit automaton position time unvisited frontier
                  (if assertion.holds position then target :: pending else pending)
            | .branch targets =>
                visit automaton position time unvisited frontier (targets ++ pending)
            | .step _ | .steps _ =>
                visit automaton position time unvisited
                  { frontier with waiting := state :: frontier.waiting } pending
            | .accept => { frontier with isAccepting := true }
termination_by (unvisited, pending.length)

/-- Reads the bytes of a character. The result are the states to visit after
the last one. -/
def readBytes (automaton : Automaton) (position : Position) (time : Nat) (frontier : Frontier) :
    List UInt8 → Nat × Array Nat × List Nat
  | [] => (time, frontier.visits, [])
  | byte :: rest =>
      let pending := frontier.waiting.filterMap (State.after? byte)
      if rest.isEmpty then (time, frontier.visits, pending)
      else
        readBytes automaton position (time + 1)
          (visit automaton position (time + 1) automaton.states.size ⟨frontier.visits, [], false⟩
            pending) rest

/-- Whether a match ends at or after the position, given the states to visit
there. -/
def findsFrom (automaton : Automaton) (before : Option Char) (time : Nat) (visits : Array Nat)
    (pending : List Nat) (text : List Char) : Bool :=
  let position : Position := ⟨before, text.head?⟩
  let frontier :=
    visit automaton position time automaton.states.size ⟨visits, [], false⟩
      (automaton.start :: pending)
  if frontier.isAccepting then true
  else
    match text with
    | [] => false
    | c :: rest =>
        let (time, visits, pending) :=
          readBytes automaton position time frontier (String.utf8EncodeChar c)
        findsFrom automaton (some c) (time + 1) visits pending rest
termination_by structural text

/-- Whether some part of the text matches. -/
def finds (automaton : Automaton) (text : String) : Bool :=
  automaton.findsFrom none 1 (Array.replicate automaton.states.size 0) [] text.toList

end Automaton

end Traceability.Pattern

import Mathlib.Data.List.Induction
import Mathlib.Logic.Relation

/-!
Contract: searching in depth.

A search takes places one after the other, passes over those it has seen, and
goes through all that lies beyond a place before it takes the next. So at every
point the place that is reached next is told by those that have been: it is the
first one not seen yet among the places next to the latest, or else next to the
one before it, and so on back to the start.

Owns: the order of a search in depth, that there is one at most, and searches.
Does not own: what places are, and which are next to each other.
-/

namespace Traceability

variable {α : Type} [BEq α] [LawfulBEq α] {next : α → List α} {start place : α}

/-- The place that a search in depth from `start` reaches after others. -/
def nextInDepth (next : α → List α) (start : α) (before : List α) : Option α :=
  (before.reverse.flatMap next ++ [start]).find? fun place => place ∉ before

/-- Whether an order is that of a search in depth: whatever has been reached,
what comes next is what comes next in depth, until there is nothing. -/
def IsDepthFirst (next : α → List α) (start : α) (order : List α) : Prop :=
  ∀ before after, order = before ++ after → nextInDepth next start before = after.head?

theorem isDepthFirst_iff_forall_take {order : List α} :
    IsDepthFirst next start order ↔ ∀ length ∈ List.range (order.length + 1),
      nextInDepth next start (order.take length) = order[length]? := by
  constructor
  · intro depthFirst length _
    rw [depthFirst _ _ (List.take_append_drop length order).symm, List.head?_drop]
  · rintro each before after rfl
    have atLength := each before.length (List.mem_range.mpr (by rw [List.length_append]; omega))
    rwa [List.take_left, ← List.head?_drop, List.drop_left] at atLength

instance (next : α → List α) (start : α) (order : List α) [DecidableEq (Option α)] :
    Decidable (IsDepthFirst next start order) :=
  decidable_of_iff _ isDepthFirst_iff_forall_take.symm

/-! ### The order -/

namespace IsDepthFirst

variable {order other : List α}

theorem nextInDepth_eq_some (depthFirst : IsDepthFirst next start order) {before after : List α}
    (split : order = before ++ [place] ++ after) :
    nextInDepth next start before = some place := by
  rw [List.append_assoc] at split
  exact depthFirst before _ split

theorem not_mem_before (depthFirst : IsDepthFirst next start order) {before after : List α}
    (split : order = before ++ [place] ++ after) : place ∉ before := by
  have found := depthFirst.nextInDepth_eq_some split
  rw [nextInDepth] at found
  simpa using List.find?_some found

/-- What has been reached at any point has been reached once. -/
theorem nodup_before (depthFirst : IsDepthFirst next start order) (before : List α) :
    ∀ after, order = before ++ after → before.Nodup := by
  induction before using List.reverseRecOn with
  | nil => simp
  | append_singleton before place inductionHypothesis =>
      intro after split
      have earlier : before.Nodup :=
        inductionHypothesis ([place] ++ after) (by rw [split, List.append_assoc])
      have isNew := depthFirst.not_mem_before split
      simpa [List.nodup_append] using ⟨earlier, fun _ member same => isNew (same ▸ member)⟩

theorem nodup (depthFirst : IsDepthFirst next start order) : order.Nodup :=
  depthFirst.nodup_before order [] (List.append_nil order).symm

/-- At the end nothing is left to reach. -/
theorem forall_mem_of_end (depthFirst : IsDepthFirst next start order) :
    ∀ place ∈ order.reverse.flatMap next ++ [start], place ∈ order := by
  have ends : nextInDepth next start order = none :=
    depthFirst order [] (List.append_nil order).symm
  rw [nextInDepth, List.find?_eq_none] at ends
  intro place listed
  simpa using ends place listed

theorem start_mem (depthFirst : IsDepthFirst next start order) : start ∈ order :=
  depthFirst.forall_mem_of_end start (by simp)

theorem mem_of_next (depthFirst : IsDepthFirst next start order) {beyond : α}
    (member : place ∈ order) (isNext : beyond ∈ next place) : beyond ∈ order := by
  apply depthFirst.forall_mem_of_end
  apply List.mem_append_left
  exact List.mem_flatMap.mpr ⟨place, List.mem_reverse.mpr member, isNext⟩

theorem reached_before (depthFirst : IsDepthFirst next start order) (before : List α) :
    ∀ after, order = before ++ after →
      ∀ place ∈ before,
        Relation.ReflTransGen (fun place beyond => beyond ∈ next place) start place := by
  induction before using List.reverseRecOn with
  | nil => simp
  | append_singleton before latest inductionHypothesis =>
      intro after split
      have earlier := inductionHypothesis ([latest] ++ after) (by rw [split, List.append_assoc])
      intro place member
      rcases List.mem_append.mp member with inBefore | isLatest
      · exact earlier place inBefore
      · rw [List.mem_singleton.mp isLatest]
        have listed := List.mem_of_find?_eq_some (depthFirst.nextInDepth_eq_some split)
        rcases List.mem_append.mp listed with isNext | isStart
        · obtain ⟨parent, inBefore, isNext⟩ := List.mem_flatMap.mp isNext
          exact (earlier parent (List.mem_reverse.mp inBefore)).tail isNext
        · rw [List.mem_singleton.mp isStart]

/-- Exactly what can be reached is. -/
theorem mem_iff (depthFirst : IsDepthFirst next start order) :
    place ∈ order ↔
      Relation.ReflTransGen (fun place beyond => beyond ∈ next place) start place := by
  constructor
  · exact depthFirst.reached_before order [] (List.append_nil order).symm place
  · intro reached
    induction reached with
    | refl => exact depthFirst.start_mem
    | tail _ isNext inductionHypothesis => exact depthFirst.mem_of_next inductionHypothesis isNext

/-- There is no other order of a search in depth. -/
theorem unique (depthFirst : IsDepthFirst next start order)
    (otherDepthFirst : IsDepthFirst next start other) : order = other := by
  have common (before : List α) :
      ∀ after, order = before ++ after → ∃ rest, other = before ++ rest := by
    induction before using List.reverseRecOn with
    | nil => exact fun _ _ => ⟨other, rfl⟩
    | append_singleton before place inductionHypothesis =>
        intro after split
        obtain ⟨rest, otherSplit⟩ :=
          inductionHypothesis ([place] ++ after) (by rw [split, List.append_assoc])
        have sameNext := otherDepthFirst before rest otherSplit
        rw [depthFirst.nextInDepth_eq_some split] at sameNext
        cases rest with
        | nil => contradiction
        | cons head tail =>
            obtain rfl : place = head := Option.some.inj sameNext
            exact ⟨tail, by rw [otherSplit, List.append_assoc]; rfl⟩
  obtain ⟨rest, split⟩ := common order [] (List.append_nil order).symm
  have ends : rest.head? = none :=
    (otherDepthFirst order rest split).symm.trans
      (depthFirst order [] (List.append_nil order).symm)
  rw [split, List.head?_eq_none_iff.mp ends, List.append_nil]

end IsDepthFirst

/-! ### Searches -/

/-- From what has been seen, places are taken one after the other: one that has
been seen is passed over, any other is entered and followed by what lies beyond
it. -/
inductive Search (next : α → List α) : (α → Bool) → List α → List α → Prop where
  | done {seen : α → Bool} : Search next seen [] []
  | again {seen : α → Bool} {place : α} {places order : List α} :
      seen place = true → Search next seen places order → Search next seen (place :: places) order
  | fresh {seen entered left : α → Bool} {place : α} {places below others : List α} :
      seen place = false → (∀ other, entered other = (place == other || seen other)) →
        Search next entered (next place) below →
          (∀ other, left other = (entered other || decide (other ∈ below))) →
            Search next left places others →
              Search next seen (place :: places) (place :: below ++ others)

namespace Search

/-- Whether a place has neither been seen before nor been reached since. -/
def isUnseen (seen : α → Bool) (before : List α) (place : α) : Bool :=
  !seen place && !decide (place ∈ before)

variable {seen entered left : α → Bool} {places below others order : List α}

theorem isUnseen_iff {before : List α} :
    isUnseen seen before place = true ↔ seen place = false ∧ place ∉ before := by
  simp [isUnseen]

theorem isUnseen_entered (entering : ∀ other, entered other = (place == other || seen other))
    (before : List α) : isUnseen seen (place :: before) = isUnseen entered before := by
  funext other
  rw [Bool.eq_iff_iff, isUnseen_iff, isUnseen_iff, entering, List.mem_cons, not_or,
    Bool.or_eq_false_iff, beq_eq_false_iff_ne, eq_comm (a := other)]
  grind

theorem isUnseen_left (leaving : ∀ other, left other = (entered other || decide (other ∈ below)))
    (before : List α) : isUnseen entered (below ++ before) = isUnseen left before := by
  funext other
  rw [Bool.eq_iff_iff, isUnseen_iff, isUnseen_iff, leaving, List.mem_append, not_or,
    Bool.or_eq_false_iff, decide_eq_false_iff_not, and_assoc]

theorem find?_isUnseen_eq_none_of_append {listed before after : List α}
    (nothing : listed.find? (isUnseen seen before) = none) :
    listed.find? (isUnseen seen (before ++ after)) = none := by
  rw [List.find?_eq_none] at nothing ⊢
  intro other member unseen
  obtain ⟨notSeen, isNew⟩ := isUnseen_iff.mp unseen
  exact nothing other member (isUnseen_iff.mpr ⟨notSeen, mt (List.mem_append_left after) isNew⟩)

/-- What a search reaches next is the first place not seen among those next to
what it has reached, the latest first, and those that it still has to take. -/
theorem find?_isUnseen_eq (search : Search next seen places order) :
    ∀ before after, order = before ++ after →
      (before.reverse.flatMap next ++ places).find? (isUnseen seen before) = after.head? := by
  induction search with
  | done =>
      intro before after split
      obtain ⟨rfl, rfl⟩ := List.append_eq_nil_iff.mp split.symm
      rfl
  | again hasSeen _ inductionHypothesis =>
      intro before after split
      rw [← inductionHypothesis before after split, List.find?_append, List.find?_append,
        List.find?_cons_of_neg (by simp [isUnseen, hasSeen])]
  | @fresh seen entered left place places below others isNew entering _ leaving _
      belowHypothesis othersHypothesis =>
      -- Once all that lies beyond the place has been reached, none of it is next.
      have goesOn (later after : List α) (split : others = later ++ after) :
          ((place :: (below ++ later)).reverse.flatMap next ++ place :: places).find?
            (isUnseen seen (place :: (below ++ later))) = after.head? := by
        have nothingBeyond := belowHypothesis below [] (List.append_nil below).symm
        have isLeft : left place = true := by simp [leaving, entering]
        rw [List.reverse_cons, List.flatMap_append, List.flatMap_singleton, List.reverse_append,
          List.flatMap_append, isUnseen_entered entering, List.append_assoc, List.append_assoc,
          List.find?_append, ← List.append_assoc, List.find?_append,
          find?_isUnseen_eq_none_of_append nothingBeyond, Option.none_or, isUnseen_left leaving,
          List.find?_cons_of_neg (by simp [isUnseen, isLeft]), ← List.find?_append]
        exact othersHypothesis later after split
      intro before after split
      cases before with
      | nil =>
          have whole : place :: (below ++ others) = after := split
          rw [← whole]
          exact List.find?_cons_of_pos (by simp [isUnseen, isNew])
      | cons first before =>
          obtain ⟨rfl, remaining⟩ := List.cons.inj split
          rcases List.append_eq_append_iff.mp remaining with
            ⟨later, rfl, ofOthers⟩ | ⟨rest, ofBelow, rfl⟩
          · exact goesOn later after ofOthers
          · cases rest with
            | nil =>
                have passed := goesOn [] others rfl
                rwa [ofBelow, List.append_nil, List.append_nil] at passed
            | cons latest rest =>
                rw [List.reverse_cons, List.flatMap_append, List.flatMap_singleton,
                  isUnseen_entered entering, List.find?_append,
                  belowHypothesis before (latest :: rest) ofBelow]
                rfl

/-- A search from one place with nothing seen is in depth. -/
theorem isDepthFirst (search : Search next (fun _ => false) [start] order) :
    IsDepthFirst next start order := by
  intro before after split
  have unseen : isUnseen (fun _ => false) before = fun place => decide (place ∉ before) := by
    funext place
    simp [isUnseen]
  rw [← search.find?_isUnseen_eq before after split, unseen, nextInDepth]

end Search

end Traceability

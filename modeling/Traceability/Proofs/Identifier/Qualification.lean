import Mathlib.Data.List.TakeWhile
import Traceability.Proofs.Collections
import Traceability.Proofs.Identifier

/-!
Contract: which identifiers the texts of documents name, and which of them are
named by their own texts.

A text without a separator is a name within a module, whatever the urn of that
module is; any other text is split at its first separator. Nobody looks into
the urn of a module. Where it holds a separator, a bare name makes an identifier
whose own text is split too early, and so names another one.

Owns: reading and qualification in terms of displayed texts, and the identifiers
that their texts lead back to.
Does not own: where documents put the texts.
-/

namespace Traceability.Identifier

variable {id other : Identifier} {urn name text : String}

/-! ### Reading -/

/-- What is not passed before a separator starts with one. -/
theorem head_eq_separator {characters afterwards : List Char} {first : Char}
    (rest : characters.dropWhile (· ≠ separator) = first :: afterwards) : first = separator := by
  have stops := List.head?_dropWhile_not (· ≠ separator) characters
  rw [rest] at stops
  simpa using stops

theorem splitText_eq_some_iff :
    splitText text = some (urn, name) ↔
      separator ∉ urn.toList ∧ text = display ⟨urn, name⟩ := by
  constructor
  · intro split
    unfold splitText at split
    have whole := List.takeWhile_append_dropWhile (p := (· ≠ separator)) (l := text.toList)
    cases rest : text.toList.dropWhile (· ≠ separator) with
    | nil =>
        rw [rest] at split
        contradiction
    | cons first afterwards =>
        rw [rest, head_eq_separator rest] at whole
        rw [rest] at split
        obtain ⟨rfl, rfl⟩ := Prod.mk.inj (Option.some.inj split)
        constructor
        · intro member
          rw [String.toList_ofList] at member
          simpa using List.mem_takeWhile_imp member
        · apply String.toList_injective
          rw [toList_display, String.toList_ofList, String.toList_ofList, whole]
  · rintro ⟨plain, rfl⟩
    exact splitText_display plain

theorem splitText_eq_none_iff : splitText text = none ↔ separator ∉ text.toList := by
  unfold splitText
  cases rest : text.toList.dropWhile (· ≠ separator) with
  | nil =>
      simp only [true_iff]
      intro member
      have passed := List.dropWhile_eq_nil_iff.mp rest separator member
      simp at passed
  | cons first afterwards =>
      have suffix := List.dropWhile_suffix (· ≠ separator) (l := text.toList)
      rw [rest, head_eq_separator rest] at suffix
      have member : separator ∈ text.toList := suffix.subset List.mem_cons_self
      simp [member]

theorem ofParts_eq_ok_iff :
    ofParts urn name text = .ok id ↔ urn ≠ "" ∧ name ≠ "" ∧ id = ⟨urn, name⟩ := by
  unfold ofParts
  split
  case isTrue emptyUrn => simp [String.isEmpty_iff.mp emptyUrn]
  case isFalse urnThere =>
    split
    case isTrue emptyName => simp [String.isEmpty_iff.mp emptyName]
    case isFalse nameThere =>
      rw [String.isEmpty_iff] at urnThere nameThere
      simp [urnThere, nameThere, eq_comm]

/-- A text is read as the identifier whose text it is, if no separator stands
in the urn and no part is empty. -/
theorem parse_eq_ok_iff :
    parse text = .ok id ↔ id.IsPlain ∧ text = id.display ∧ id.urn ≠ "" ∧ id.name ≠ "" := by
  unfold parse
  cases split : splitText text with
  | none =>
      rw [splitText_eq_none_iff] at split
      simp only [reduceCtorEq, false_iff]
      rintro ⟨_, rfl, _⟩
      apply split
      rw [toList_display]
      exact List.mem_append_right _ List.mem_cons_self
  | some parts =>
      obtain ⟨urn, name⟩ := parts
      obtain ⟨plain, rfl⟩ := splitText_eq_some_iff.mp split
      simp only [ofParts_eq_ok_iff]
      constructor
      · rintro ⟨urnThere, nameThere, rfl⟩
        exact ⟨plain, rfl, urnThere, nameThere⟩
      · rintro ⟨otherPlain, same, urnThere, nameThere⟩
        have read : (⟨urn, name⟩ : Identifier) = id := eq_of_display_eq plain otherPlain same
        subst read
        exact ⟨urnThere, nameThere, rfl⟩

/-! ### Qualification -/

/-- A text that is no name within a module is read as it stands. -/
theorem qualify_display : qualify urn id.display = parse id.display := by
  unfold qualify
  rw [if_pos]
  rw [toList_display]
  simp

/-- An identifier comes from a text with a separator, which is its own text, or
from a bare name in a module. -/
theorem qualify_eq_ok_iff :
    qualify urn text = .ok id ↔
      (separator ∈ text.toList ∧ parse text = .ok id) ∨
      (separator ∉ text.toList ∧ urn ≠ "" ∧ text ≠ "" ∧ id = ⟨urn, text⟩) := by
  unfold qualify
  by_cases qualified : separator ∈ text.toList
  · simp [qualified]
  · simp [qualified, ofParts_eq_ok_iff]

theorem nonempty_of_qualify (named : qualify urn text = .ok id) : id.urn ≠ "" ∧ id.name ≠ "" := by
  rcases qualify_eq_ok_iff.mp named with ⟨_, read⟩ | ⟨_, urnThere, nameThere, rfl⟩
  · exact (parse_eq_ok_iff.mp read).2.2
  · exact ⟨urnThere, nameThere⟩

/-- Within a module, a text that names an identifier is a literal of it and of
no other one. -/
theorem matchesLiteral_iff_of_qualify {candidate : Identifier}
    (named : qualify urn text = .ok id) :
    candidate.matchesLiteral urn text = true ↔ candidate = id := by
  rcases qualify_eq_ok_iff.mp named with ⟨_, read⟩ | ⟨bare, _, _, rfl⟩
  · obtain ⟨plain, rfl, _⟩ := parse_eq_ok_iff.mp read
    cases candidate
    cases id
    simp [matchesLiteral, splitText_display plain]
  · cases candidate
    simp [matchesLiteral, splitText_eq_none_iff.mpr bare]

/-- Only a bare name in a module with a separator in its urn makes an identifier
with a separator in its urn. -/
theorem isPlain_iff_of_qualify (named : qualify urn text = .ok id) :
    id.IsPlain ↔ separator ∈ text.toList ∨ separator ∉ urn.toList := by
  rcases qualify_eq_ok_iff.mp named with ⟨qualified, read⟩ | ⟨bare, _, _, rfl⟩
  · have plain := (parse_eq_ok_iff.mp read).1
    simp [plain, qualified]
  · simp [IsPlain, bare]

/-- An identifier that is not plain has been made from a bare name. -/
theorem bare_of_qualify (named : qualify urn text = .ok id) (tangled : ¬id.IsPlain) :
    separator ∉ id.name.toList := by
  rcases qualify_eq_ok_iff.mp named with ⟨_, read⟩ | ⟨bare, _, _, rfl⟩
  · exact absurd (parse_eq_ok_iff.mp read).1 tangled
  · exact bare

/-- Bare names are what follows the last separator of a text. -/
theorem eq_of_display_eq_of_bare (bare : separator ∉ id.name.toList)
    (otherBare : separator ∉ other.name.toList) (same : id.display = other.display) :
    id = other := by
  have characters := congrArg String.toList same
  rw [toList_display, toList_display] at characters
  have parts : id.urn.toList = other.urn.toList ∧ id.name.toList = other.name.toList := by
    rcases List.append_eq_append_iff.mp characters with
      ⟨between, otherUrn, rest⟩ | ⟨between, urn, rest⟩
    · cases between with
      | nil => simpa [eq_comm] using And.intro otherUrn rest
      | cons first between =>
          have inName : separator ∈ id.name.toList := by
            rw [(List.cons.inj rest).2]
            simp
          contradiction
    · cases between with
      | nil => simpa [eq_comm] using And.intro urn rest
      | cons first between =>
          have inName : separator ∈ other.name.toList := by
            rw [(List.cons.inj rest).2]
            simp
          contradiction
  cases id
  cases other
  simpa [String.toList_inj] using parts

/-- The text of an identifier that a document names leads back to it exactly if
no separator stands in its urn, that is, unless it is a bare name in a module
with one. From within any module the text is read alike, and of two identifiers
with one text that are not the same one is plain and the other is not. -/
theorem addressed_iff_plain (named : qualify urn text = .ok id) :
    (id.IsPlain ↔ separator ∈ text.toList ∨ separator ∉ urn.toList) ∧
    (parse id.display = .ok id ↔ id.IsPlain) ∧
    (∀ module, qualify module id.display = .ok id ↔ id.IsPlain) ∧
    ∀ otherUrn otherText other, qualify otherUrn otherText = .ok other →
      id.display = other.display → (id = other ↔ (id.IsPlain ↔ other.IsPlain)) := by
  have nonempty := nonempty_of_qualify named
  have readBack : parse id.display = .ok id ↔ id.IsPlain := by
    rw [parse_eq_ok_iff]
    exact ⟨fun read => read.1, fun plain => ⟨plain, rfl, nonempty⟩⟩
  refine ⟨isPlain_iff_of_qualify named, readBack, ?_, ?_⟩
  · intro module
    rw [qualify_display]
    exact readBack
  · intro otherUrn otherText other otherNamed same
    constructor
    · rintro rfl
      rfl
    · intro alike
      by_cases plain : id.IsPlain
      · exact eq_of_display_eq plain (alike.mp plain) same
      · have otherTangled : ¬other.IsPlain := fun otherPlain => plain (alike.mpr otherPlain)
        exact eq_of_display_eq_of_bare (bare_of_qualify named plain)
          (bare_of_qualify otherNamed otherTangled) same

namespace Sample

/-- A requirement of a module with a separator in its urn. -/
def tangled : Identifier := ⟨"left:right", "first"⟩

/-- What the text of `tangled` is read as. -/
def untangled : Identifier := ⟨"left", "right:first"⟩

theorem no_module_addresses_tangled :
    qualify "left:right" "first" = .ok tangled ∧
      ∀ module, qualify module tangled.display ≠ .ok tangled := by
  have named : qualify "left:right" "first" = .ok tangled :=
    toOption_eq_some_iff.mp (by decide +kernel)
  obtain ⟨plain, _, addressed, _⟩ := addressed_iff_plain named
  refine ⟨named, ?_⟩
  intro module found
  have separated := plain.mp ((addressed module).mp found)
  exact absurd separated (by decide +kernel)

/-- A bare name and a text that documents may write as well are two identifiers
with one text, which leads back to the second from within any module. -/
theorem one_text_for_two :
    qualify "left:right" "first" = .ok tangled ∧ parse tangled.display = .ok untangled ∧
      qualify "left:right" tangled.display = .ok untangled ∧
      tangled.display = untangled.display ∧ tangled ≠ untangled := by
  have named : qualify "left:right" "first" = .ok tangled :=
    toOption_eq_some_iff.mp (by decide +kernel)
  have read : parse tangled.display = .ok untangled :=
    toOption_eq_some_iff.mp (by decide +kernel)
  exact ⟨named, read, qualify_display.trans read, by decide +kernel, by decide +kernel⟩

end Sample

end Traceability.Identifier

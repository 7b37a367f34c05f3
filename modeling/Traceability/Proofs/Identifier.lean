import Traceability.Identifier

/-!
Contract: identifiers and their texts.

A text is split at its first separator, so that it gives back the identifier
whose text it is, as long as no separator stands in the urn. Identifiers like
that are told apart by their texts.

Owns: which identifiers a text determines.
Does not own: reading, which also rejects empty parts.
-/

namespace Traceability.Identifier

/-- No separator stands in the urn. -/
def IsPlain (id : Identifier) : Prop := separator ∉ id.urn.toList

variable {id left right : Identifier}

theorem toList_display : id.display.toList = id.urn.toList ++ separator :: id.name.toList := by
  simp [display, separator, String.toList_append]

theorem splitText_display (plain : id.IsPlain) : splitText id.display = some (id.urn, id.name) := by
  have ordinary : ∀ c ∈ id.urn.toList, decide (c ≠ separator) = true := by
    intro c member
    rw [decide_eq_true_iff]
    rintro rfl
    exact plain member
  have before : id.display.toList.takeWhile (· ≠ separator) = id.urn.toList := by
    rw [toList_display, List.takeWhile_append_of_pos ordinary]
    simp
  have after : id.display.toList.dropWhile (· ≠ separator) = separator :: id.name.toList := by
    rw [toList_display, List.dropWhile_append_of_pos ordinary]
    simp
  rw [splitText, after, before]
  simp only [String.ofList_toList]

/-- Identifiers without a separator in their urns are told apart by their
texts. -/
theorem eq_of_display_eq (leftPlain : left.IsPlain) (rightPlain : right.IsPlain)
    (same : left.display = right.display) : left = right := by
  have parts := splitText_display leftPlain
  rw [same, splitText_display rightPlain] at parts
  cases left
  cases right
  simpa [eq_comm] using parts

end Traceability.Identifier

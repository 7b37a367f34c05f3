/-!
Contract: lists that hold something.

Reference lists are never empty: what refers to nothing is dropped instead.

Owns: the type, its view as a list, and what is left of it under a condition.
Does not own: what the members refer to.
-/

namespace Traceability

structure NonEmptyList (α : Type) where
  head : α
  tail : List α
deriving DecidableEq, Repr

namespace NonEmptyList

variable {α : Type}

def toList (members : NonEmptyList α) : List α := members.head :: members.tail

def ofList? : List α → Option (NonEmptyList α)
  | [] => none
  | head :: tail => some ⟨head, tail⟩

/-- The members that satisfy `keep`, in order, unless none does. -/
def retain? (members : NonEmptyList α) (keep : α → Bool) : Option (NonEmptyList α) :=
  ofList? (members.toList.filter keep)

@[simp] theorem toList_ne_nil (members : NonEmptyList α) : members.toList ≠ [] := by
  simp [toList]

theorem ofList?_eq_some_iff {list : List α} {members : NonEmptyList α} :
    ofList? list = some members ↔ list = members.toList := by
  cases list with
  | nil => simp [ofList?, toList]
  | cons head tail =>
      cases members
      simp [ofList?, toList]

theorem ofList?_eq_none_iff {list : List α} : ofList? list = none ↔ list = [] := by
  cases list <;> simp [ofList?]

theorem toList_injective {left right : NonEmptyList α}
    (equal : left.toList = right.toList) : left = right := by
  cases left
  cases right
  simpa [toList] using equal

/-- What is left is the filtered list. -/
theorem retain?_eq_some_iff {members kept : NonEmptyList α} {keep : α → Bool} :
    members.retain? keep = some kept ↔ members.toList.filter keep = kept.toList :=
  ofList?_eq_some_iff

/-- Nothing is left exactly when no member satisfies the condition. -/
theorem retain?_eq_none_iff {members : NonEmptyList α} {keep : α → Bool} :
    members.retain? keep = none ↔ ∀ member ∈ members.toList, keep member = false := by
  simp [retain?, ofList?_eq_none_iff]

end NonEmptyList

end Traceability

import Mathlib.Data.List.Sort
import Mathlib.Order.Bounds.Basic

namespace CrashPython
namespace Library

/-!
A search from above.

Values are looked at from the greatest to the least, and the first one with a property is
taken.  It is the greatest value that has the property.
-/

section Descending

variable {Value : Type} [LinearOrder Value] {values : List Value} {wanted : Value -> Bool}

/-- The values, the greatest first. -/
def descending (values : List Value) : List Value :=
  values.insertionSort fun first second => first ≥ second

theorem mem_descending {value : Value} : value ∈ descending values <-> value ∈ values :=
  List.mem_insertionSort _

/-- The values that the search is for. -/
def Wanted (values : List Value) (wanted : Value -> Bool) : Set Value :=
  {value | value ∈ values ∧ wanted value = true}

/-- What is found is the greatest value with the property. -/
theorem isGreatest_of_find?_descending {value : Value}
    (found : (descending values).find? wanted = some value) :
    IsGreatest (Wanted values wanted) value := by
  rcases List.find?_eq_some_iff_append.mp found with ⟨holds, before, after, shape, others⟩
  have member : value ∈ descending values := List.mem_of_find?_eq_some found
  refine ⟨⟨mem_descending.mp member, holds⟩, ?_⟩
  rintro other ⟨otherMember, otherHolds⟩
  have sorted := List.pairwise_insertionSort (fun first second : Value => first ≥ second) values
  change (descending values).Pairwise _ at sorted
  have place := mem_descending.mpr otherMember
  rw [shape] at sorted place
  rcases List.mem_append.mp place with early | late
  · have refused := others other early
    rw [otherHolds] at refused
    cases refused
  · rcases List.mem_cons.mp late with same | later
    · exact le_of_eq same
    · exact (List.pairwise_cons.mp (List.pairwise_append.mp sorted).2.1).1 other later

/-- The greatest value with the property is found. -/
theorem find?_descending_of_isGreatest {value : Value}
    (greatest : IsGreatest (Wanted values wanted) value) :
    (descending values).find? wanted = some value := by
  cases found : (descending values).find? wanted with
  | none =>
      have refused := List.find?_eq_none.mp found value (mem_descending.mpr greatest.1.1)
      exact absurd greatest.1.2 refused
  | some other => rw [(isGreatest_of_find?_descending found).unique greatest]

/-- Nothing is found if and only if no value has the property. -/
theorem find?_descending_eq_none_iff :
    (descending values).find? wanted = none <-> forall value, value ∈ values -> wanted value = false := by
  rw [List.find?_eq_none]
  constructor
  · intro refused value member
    exact Bool.eq_false_iff.mpr (refused value (mem_descending.mpr member))
  · intro refused value member
    exact Bool.eq_false_iff.mp (refused value (mem_descending.mp member))

end Descending
end Library
end CrashPython

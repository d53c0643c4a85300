import Mathlib.Data.Finset.Card

namespace CrashPython
namespace Library

/-!
Finite memory images.

A debugger sees a target as a partial map from addresses to typed objects.
Only finitely many addresses are mapped, and reading any other address fails.
The finite set of mapped addresses is part of the image, so that every later
counting argument has its bound at hand.
-/

/-- A finite partial map from addresses to objects of one type. -/
structure MemoryImage (Object : Type) where
  read : Nat -> Option Object
  mapped : Finset Nat
  mem_mapped : forall address object, read address = some object -> address ∈ mapped

namespace MemoryImage

variable {Object : Type}

/-- An image given by its table of mapped cells.  The first entry of an
address is the one that is read. -/
def ofTable (cells : List (Nat × Object)) : MemoryImage Object where
  read := fun address => cells.lookup address
  mapped := (cells.map Prod.fst).toFinset
  mem_mapped := by
    intro address object found
    rw [List.mem_toFinset]
    induction cells with
    | nil => cases found
    | cons cell rest inductionHypothesis =>
        rcases cell with ⟨key, stored⟩
        by_cases same : address = key
        · subst same
          exact List.mem_cons_self
        · have different : (address == key) = false := beq_eq_false_iff_ne.mpr same
          simp only [List.lookup_cons, different] at found
          exact List.mem_cons_of_mem key (inductionHypothesis found)

/-- What is read is in the table. -/
theorem mem_of_ofTable {cells : List (Nat × Object)} {address : Nat} {object : Object}
    (found : (ofTable cells).read address = some object) : (address, object) ∈ cells := by
  rcases List.lookup_eq_some_iff.mp found with ⟨before, behind, shape, _⟩
  rw [shape]
  exact List.mem_append_right before List.mem_cons_self

end MemoryImage
end Library
end CrashPython

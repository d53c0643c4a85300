import Mathlib.Data.List.Basic

namespace CrashPython
namespace Library

/-!
Rows of slots.

A row has a number of slots of one size, one after the other on the line of
addresses.  The slot of an address is found by division, and the slots can be
listed by repeated addition; the lemmas below say that the two agree.
-/

/-- A row of slots.  Slots without a size could not be told apart. -/
structure SlotRow where
  base : Int
  size : Nat
  count : Nat
  sized : 0 < size

namespace SlotRow

variable (row : SlotRow)

/-- Where a slot starts. -/
def start (idx : Nat) : Int :=
  row.base + idx * row.size

/-- The address lies in the slot. -/
def Within (idx : Nat) (addr : Int) : Prop :=
  row.start idx ≤ addr ∧ addr < row.start idx + row.size

/-- The slot of an address. -/
def find (addr : Int) : Option Nat :=
  if addr < row.base then none
  else if (row.count : Int) ≤ (addr - row.base) / row.size then none
  else some ((addr - row.base) / row.size).toNat

variable {row}

/-- Division finds the slot. -/
theorem within_iff {idx : Nat} {addr : Int} :
    row.Within idx addr <-> (addr - row.base) / row.size = idx := by
  have positive : (0 : Int) < row.size := Int.natCast_pos.mpr row.sized
  simp only [Within, start]
  rw [Int.ediv_eq_iff_of_pos positive]
  constructor
  · rintro ⟨above, below⟩
    exact ⟨by omega, by omega⟩
  · rintro ⟨above, below⟩
    exact ⟨by omega, by omega⟩

/-- An address lies in one slot at most. -/
theorem Within.unique {first second : Nat} {addr : Int} (one : row.Within first addr)
    (two : row.Within second addr) : first = second := by
  have same := (within_iff.mp one).symm.trans (within_iff.mp two)
  exact Int.ofNat_inj.mp same

theorem Within.base_le {idx : Nat} {addr : Int} (inside : row.Within idx addr) :
    row.base ≤ addr := by
  have nonneg : (0 : Int) ≤ idx * row.size := Int.mul_nonneg (Int.natCast_nonneg _) (Int.natCast_nonneg _)
  have above := inside.1
  simp only [start] at above
  omega

theorem find_eq_some {idx : Nat} {addr : Int} :
    row.find addr = some idx <-> idx < row.count ∧ row.Within idx addr := by
  simp only [find]
  by_cases low : addr < row.base
  · rw [if_pos low]
    constructor
    · intro impossible
      cases impossible
    · rintro ⟨_, inside⟩
      exact False.elim (Int.not_le.mpr low inside.base_le)
  · rw [if_neg low]
    have nonneg : 0 ≤ (addr - row.base) / row.size :=
      Int.ediv_nonneg (by omega) (Int.natCast_nonneg _)
    rw [within_iff]
    by_cases high : (row.count : Int) ≤ (addr - row.base) / row.size
    · rw [if_pos high]
      constructor
      · intro impossible
        cases impossible
      · rintro ⟨bounded, same⟩
        omega
    · rw [if_neg high, Option.some.injEq]
      omega

theorem find_eq_none {addr : Int} :
    row.find addr = none <-> forall idx, idx < row.count -> ¬ row.Within idx addr := by
  constructor
  · intro none idx bounded inside
    have some := find_eq_some.mpr ⟨bounded, inside⟩
    rw [none] at some
    cases some
  · intro outside
    cases found : row.find addr with
    | none => rfl
    | some idx =>
        have place := find_eq_some.mp found
        exact False.elim (outside idx place.1 place.2)

/-- A place at a fixed offset in its slot. -/
theorem within_start_add (idx : Nat) {offset : Nat} (inside : offset < row.size) :
    row.Within idx (row.start idx + offset) :=
  ⟨by omega, by omega⟩

theorem start_injective {first second : Nat} (same : row.start first = row.start second) :
    first = second := by
  have one := @within_start_add row first 0 row.sized
  have two := @within_start_add row second 0 row.sized
  rw [same] at one
  exact one.unique two

end SlotRow
end Library
end CrashPython

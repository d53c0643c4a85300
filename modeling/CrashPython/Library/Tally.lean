import CrashPython.Library.Script
import Mathlib.Algebra.BigOperators.Group.List.Basic
import Mathlib.Algebra.Ring.Int.Defs

namespace CrashPython
namespace Library

/-!
Loops that add up what they read.

A loop keeps a list of numbers and adds to them.  One of the numbers is looked at with a view, and
every round adds to it an amount that depends on the round alone.  The loop then adds the sum of the
amounts.  Loops may be nested, since a loop is again a round that adds a known amount.
-/

variable {Error Value Item : Type}

/-- A loop adds the amounts of its rounds to the number in view. -/
theorem foldlM_adds {step : Value -> Item -> Except Error Value} (view : Value -> Option Int)
    (amount : Item -> Int) {items : List Item}
    (rounds : forall item, item ∈ items -> forall before after, step before item = .ok after ->
      view after = (view before).map (· + amount item))
    {start final : Value} (ran : items.foldlM step start = .ok final) :
    view final = (view start).map (· + (items.map amount).sum) := by
  induction items generalizing start with
  | nil =>
      cases ran
      rw [List.map_nil, List.sum_nil]
      cases view final with
      | none => rfl
      | some number => exact congrArg some (Int.add_zero number).symm
  | cons item rest inductionHypothesis =>
      rw [List.foldlM_cons] at ran
      rcases except_bind_ok.mp ran with ⟨middle, here, later⟩
      have first := rounds item List.mem_cons_self start middle here
      rw [inductionHypothesis (fun other member => rounds other (List.mem_cons_of_mem item member)) later,
        first, Option.map_map, List.map_cons, List.sum_cons]
      congr 1
      funext number
      exact Int.add_assoc number (amount item) _

/-- Of amounts that are for one item each, the sum has that of the item. -/
theorem sum_ite_range {nr item : Nat} (inside : item < nr) (amount : Nat -> Int) :
    ((List.range nr).map fun other => if other = item then amount other else 0).sum = amount item := by
  induction nr with
  | zero => exact False.elim (Nat.not_lt_zero item inside)
  | succ nr inductionHypothesis =>
      rw [List.range_succ, List.map_append, List.sum_append, List.map_singleton, List.sum_singleton]
      rcases Nat.lt_or_ge item nr with before | last
      · rw [inductionHypothesis before, if_neg (Nat.ne_of_gt before), Int.add_zero]
      · have same : nr = item := Nat.le_antisymm last (Nat.le_of_lt_succ inside)
        have nothing : forall number, number ∈ (List.range nr).map
            (fun other => if other = item then amount other else 0) -> number = 0 := by
          intro number member
          rcases List.mem_map.mp member with ⟨other, listed, value⟩
          rw [← value, if_neg (Nat.ne_of_lt (same ▸ List.mem_range.mp listed))]
        rw [List.sum_eq_zero nothing, if_pos same, Int.zero_add, same]

end Library
end CrashPython

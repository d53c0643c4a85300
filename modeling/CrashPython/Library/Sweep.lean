import Mathlib.Data.List.Basic

namespace CrashPython
namespace Library

/-!
Sweeps over a list that grows while it is iterated.

A `for` loop over a mutable list reads the list by position, so an element
appended by the loop body is visited in the same loop.  What a visit meets in
the outside world is supplied as a list of responses, one for each visited
element in order; when the responses are used up, every remaining element is
visited with the given idle response.  A visit may escape with an exception,
and then the sweep is abandoned where it stands.

`SweepRule` is the induction rule for such loops.  Its invariant speaks about
the position, the unused responses and the state.
-/

section Sweeping

variable {State Item Response Escape : Type}

theorem mem_drop_of_getElem? {values : List Item} {index : Nat} {item : Item}
    (found : values[index]? = some item) : item ∈ values.drop index := by
  rw [List.drop_eq_getElem?_toList_append, found]
  exact List.mem_cons_self

/-- In a list without repetitions, no later entry equals an earlier one. -/
theorem notMem_drop_succ {values : List Item} {index : Nat} {item : Item} (unique : values.Nodup)
    (found : values[index]? = some item) : item ∉ values.drop (index + 1) := by
  have tail := unique.sublist (List.drop_sublist index values)
  rw [List.drop_eq_getElem?_toList_append, found] at tail
  exact (List.nodup_cons.mp tail).1

theorem mem_drop_of_mem_drop_succ {values : List Item} {index : Nat} {item : Item}
    (member : item ∈ values.drop (index + 1)) : item ∈ values.drop index :=
  List.mem_of_mem_tail (by rw [List.tail_drop]; exact member)

variable (items : State -> List Item)
variable (visit : Item -> Response -> State -> State × Option Escape)

/-- Visit the elements from a position on with the idle response. -/
def sweepIdle (idle : Response) : Nat -> Nat -> State -> State
  | 0, _, state => state
  | count + 1, index, state =>
      match (items state)[index]? with
      | none => state
      | some item => sweepIdle idle count (index + 1) (visit item idle state).1

/-- Visit every element from a position on. -/
def sweep (idle : Response) : List Response -> Nat -> State -> State × Option Escape
  | [], index, state =>
      (sweepIdle items visit idle ((items state).length - index) index state, none)
  | response :: rest, index, state =>
      match (items state)[index]? with
      | none => (state, none)
      | some item =>
          match visit item response state with
          | (next, none) => sweep idle rest (index + 1) next
          | (next, some escape) => (next, some escape)

/-- What a sweep has to preserve, and what an abandoned one leaves behind. -/
structure SweepRule (idle : Response) (during : Nat -> List Response -> State -> Prop)
    (abandoned : State -> Prop) : Prop where
  visited : forall index response rest item state next, during index (response :: rest) state ->
    (items state)[index]? = some item -> visit item response state = (next, none) ->
      during (index + 1) rest next
  escaped : forall index response rest item state next escape,
    during index (response :: rest) state -> (items state)[index]? = some item ->
      visit item response state = (next, some escape) -> abandoned next
  exhausted : forall index response rest state, during index (response :: rest) state ->
    (items state).length ≤ index -> during index [] state
  idleVisited : forall index item state, during index [] state ->
    (items state)[index]? = some item -> during (index + 1) [] (visit item idle state).1
  idleItems : forall item state, items (visit item idle state).1 = items state

variable {items visit}

/-- A rule from one lemma about visits, which says that a visit either keeps the invariant or
escapes, and from what makes the idle response one that never escapes. -/
theorem SweepRule.of_visits {idle : Response} {during : Nat -> List Response -> State -> Prop}
    {abandoned : State -> Prop}
    (visits : forall {index response rest item state}, during index (response :: rest) state ->
      (items state)[index]? = some item ->
        ((visit item response state).2 = none ∧
            during (index + 1) rest (visit item response state).1) ∨
          ((visit item response state).2 ≠ none ∧ abandoned (visit item response state).1))
    (stops : forall {index responses state}, during index responses state -> during index [] state)
    (idles : forall {index state}, during index [] state -> during index [idle] state)
    (idleReturns : forall item state, (visit item idle state).2 = none)
    (idleItems : forall item state, items (visit item idle state).1 = items state) :
    SweepRule items visit idle during abandoned where
  visited := by
    intro index response rest item state next holds found visited
    rcases visits holds found with ⟨_, onward⟩ | ⟨raised, _⟩
    · rw [visited] at onward
      exact onward
    · rw [visited] at raised
      exact False.elim (raised rfl)
  escaped := by
    intro index response rest item state next escape holds found visited
    rcases visits holds found with ⟨finished, _⟩ | ⟨_, result⟩
    · rw [visited] at finished
      cases finished
    · rw [visited] at result
      exact result
  exhausted := fun index response rest state holds _ => stops holds
  idleVisited := by
    intro index item state holds found
    rcases visits (idles holds) found with ⟨_, onward⟩ | ⟨raised, _⟩
    · exact onward
    · exact False.elim (raised (idleReturns item state))
  idleItems := idleItems

theorem SweepRule.sweepIdle_spec {idle : Response} {during : Nat -> List Response -> State -> Prop}
    {abandoned : State -> Prop} (rule : SweepRule items visit idle during abandoned)
    (count index : Nat) (state : State) (remaining : (items state).length ≤ index + count)
    (holds : during index [] state) :
    Exists fun last : Nat =>
      during last [] (sweepIdle items visit idle count index state) ∧
        (items (sweepIdle items visit idle count index state)).length ≤ last := by
  induction count generalizing index state with
  | zero => exact ⟨index, holds, remaining⟩
  | succ count inductionHypothesis =>
      rw [sweepIdle]
      cases found : (items state)[index]? with
      | none => exact ⟨index, holds, List.getElem?_eq_none_iff.mp found⟩
      | some item =>
          apply inductionHypothesis
          · rw [rule.idleItems]
            omega
          · exact rule.idleVisited index item state holds found

/-- A finished sweep has visited everything, and an escape abandons it. -/
theorem SweepRule.sweep_spec {idle : Response} {during : Nat -> List Response -> State -> Prop}
    {abandoned : State -> Prop} (rule : SweepRule items visit idle during abandoned)
    (responses : List Response) (index : Nat) (state : State) (holds : during index responses state) :
    ((sweep items visit idle responses index state).2 = none ∧ Exists fun last : Nat =>
        during last [] (sweep items visit idle responses index state).1 ∧
          (items (sweep items visit idle responses index state).1).length ≤ last) ∨
      Exists fun escape : Escape => (sweep items visit idle responses index state).2 = some escape ∧
        abandoned (sweep items visit idle responses index state).1 := by
  induction responses generalizing index state with
  | nil =>
      left
      refine ⟨rfl, rule.sweepIdle_spec _ index state ?_ holds⟩
      omega
  | cons response rest inductionHypothesis =>
      rw [sweep]
      cases found : (items state)[index]? with
      | none =>
          left
          have passed := List.getElem?_eq_none_iff.mp found
          exact ⟨rfl, index, rule.exhausted index response rest state holds passed, passed⟩
      | some item =>
          rcases outcome : visit item response state with ⟨next, escape⟩
          simp only [outcome]
          cases escape with
          | none =>
              exact inductionHypothesis (index + 1) next
                (rule.visited index response rest item state next holds found outcome)
          | some escape =>
              right
              exact ⟨escape, rfl,
                rule.escaped index response rest item state next escape holds found outcome⟩

/-- What every visit of a listed item preserves holds after the sweep, whether
or not it was abandoned. -/
theorem sweep_invariant {idle : Response} (holds : State -> Prop)
    (preserved : forall item response state, item ∈ items state -> holds state ->
      holds (visit item response state).1)
    (responses : List Response) (index : Nat) (state : State) (before : holds state) :
    holds (sweep items visit idle responses index state).1 := by
  induction responses generalizing index state with
  | nil =>
      rw [sweep]
      generalize (items state).length - index = count
      induction count generalizing index state with
      | zero => exact before
      | succ count inductionHypothesis =>
          rw [sweepIdle]
          cases found : (items state)[index]? with
          | none => exact before
          | some item =>
              exact inductionHypothesis (index + 1) _
                (preserved item idle state (List.mem_of_getElem? found) before)
  | cons response rest inductionHypothesis =>
      rw [sweep]
      cases found : (items state)[index]? with
      | none => exact before
      | some item =>
          have after := preserved item response state (List.mem_of_getElem? found) before
          rcases outcome : visit item response state with ⟨next, escape⟩
          rw [outcome] at after
          simp only [outcome]
          cases escape with
          | none => exact inductionHypothesis (index + 1) next after
          | some escape => exact after

end Sweeping
end Library
end CrashPython

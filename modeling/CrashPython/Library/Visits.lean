import CrashPython.Library.History
import Mathlib.Data.List.Count

namespace CrashPython
namespace Library

/-!
Checks that are made while a table is still being filled.

Places are visited one after the other.  A visit leaves its marks in a table, and
then makes its tests.  A test that several places have is made by the first of
them only, and this is when the marks are looked up.  A mark that is left later
is missed, so that what the tests find depends on the order of the visits.

The order makes no difference to a mark and a test exactly if the mark is left
nowhere, or by every place that has the test.
-/

variable {Event Key State : Type}

/-- Events after others have those in their history. -/
theorem someTime_append {timely : List Event -> Event -> Prop} {first second : List Event} :
    SomeTime timely (first ++ second) <->
      SomeTime timely first ∨ SomeTime (fun before => timely (first ++ before)) second := by
  induction second using List.reverseRecOn with
  | nil =>
      rw [List.append_nil]
      exact (or_iff_left (someTime_nil _)).symm
  | append_singleton events last inductionHypothesis =>
      rw [← List.append_assoc, someTime_concat, inductionHypothesis, someTime_concat, or_assoc]

/-- It is enough to compare the events where they happen. -/
theorem someTime_congr {timely other : List Event -> Event -> Prop} {events : List Event}
    (same : forall before event after, events = before ++ event :: after ->
      (timely before event <-> other before event)) :
    SomeTime timely events <-> SomeTime other events := by
  constructor
  · rintro ⟨before, event, after, split, here⟩
    exact ⟨before, event, after, split, (same before event after split).mp here⟩
  · rintro ⟨before, event, after, split, here⟩
    exact ⟨before, event, after, split, (same before event after split).mpr here⟩

/-- What a run has gathered was there at its start, or was added by one of its
events. -/
theorem gathered_iff {step : State -> Event -> State} {gathered : State -> Prop}
    {timely : List Event -> Event -> Prop} {start : State} {events : List Event}
    (adds : forall before event after, events = before ++ event :: after ->
      (gathered (step (before.foldl step start) event) <->
        gathered (before.foldl step start) ∨ timely before event)) :
    gathered (events.foldl step start) <-> gathered start ∨ SomeTime timely events := by
  induction events using List.reverseRecOn with
  | nil => exact (or_iff_left (someTime_nil _)).symm
  | append_singleton events last inductionHypothesis =>
      have earlier := inductionHypothesis fun before event after split =>
        adds before event (after ++ [last]) (by rw [split, List.append_assoc]; rfl)
      rw [List.foldl_append, List.foldl_cons, List.foldl_nil, adds events last [] rfl, earlier,
        someTime_concat, or_assoc]

section Keys

variable {key : Event -> Option Key} {wanted : Key}

/-- A key that comes at all comes a first time. -/
theorem someTime_first {events : List Event} :
    SomeTime (fun before event => key event = some wanted ∧ wanted ∉ before.filterMap key) events <->
      wanted ∈ events.filterMap key := by
  induction events using List.reverseRecOn with
  | nil => exact iff_of_false (someTime_nil _) List.not_mem_nil
  | append_singleton events last inductionHypothesis =>
      have final : wanted ∈ [last].filterMap key <-> key last = some wanted := by
        simp only [List.mem_filterMap, List.mem_singleton, exists_eq_left]
      rw [someTime_concat, inductionHypothesis, List.filterMap_append, List.mem_append, final]
      by_cases earlier : wanted ∈ events.filterMap key
      · exact iff_of_true (.inl earlier) (.inl earlier)
      · simp only [earlier, false_or, not_false_eq_true, and_true]

/-- A key comes again exactly if it comes twice. -/
theorem someTime_again [BEq Key] [LawfulBEq Key] {events : List Event} :
    SomeTime (fun before event => key event = some wanted ∧ wanted ∈ before.filterMap key) events <->
      2 ≤ (events.filterMap key).count wanted := by
  induction events using List.reverseRecOn with
  | nil => exact iff_of_false (someTime_nil _) (Nat.not_succ_le_zero 1)
  | append_singleton events last inductionHypothesis =>
      rw [someTime_concat, inductionHypothesis, List.filterMap_append, List.count_append,
        ← List.count_pos_iff]
      cases found : key last with
      | none => simp only [List.filterMap_cons, found, List.filterMap_nil, List.count_nil,
          reduceCtorEq, false_and, or_false, Nat.add_zero]
      | some other =>
          by_cases same : other = wanted
          · subst same
            simp only [List.filterMap_cons, found, List.filterMap_nil, List.count_cons_self,
              List.count_nil, true_and]
            omega
          · simp only [List.filterMap_cons, found, List.filterMap_nil, Option.some.injEq, same,
              false_and, or_false, List.count_cons_of_ne same, List.count_nil, Nat.add_zero]

end Keys

section Orders

variable {Place Mark Test : Type} (marks : Place -> List Mark) (tests : Place -> List Test)

/-- The mark has been left when the test is made. -/
def SeenInTest (mark : Mark) (test : Test) (order : List Place) : Prop :=
  SomeTime (fun before place => test ∈ tests place ∧ test ∉ before.flatMap tests ∧
    mark ∈ (before ++ [place]).flatMap marks) order

variable {marks tests} {mark : Mark} {test : Test}

/-- A test is made by the first place that has it. -/
theorem exists_first_tested {order : List Place} (tested : test ∈ order.flatMap tests) :
    SomeTime (fun before place => test ∈ tests place ∧ test ∉ before.flatMap tests) order := by
  induction order using List.reverseRecOn with
  | nil => exact absurd tested List.not_mem_nil
  | append_singleton order last inductionHypothesis =>
      rw [someTime_concat]
      by_cases earlier : test ∈ order.flatMap tests
      · exact .inl (inductionHypothesis earlier)
      · rw [List.flatMap_append, List.mem_append, List.flatMap_singleton] at tested
        exact .inr ⟨tested.resolve_left earlier, earlier⟩

/-- A mark that every place with the test leaves is seen. -/
theorem seenInTest_of_all {order : List Place} (tested : test ∈ order.flatMap tests)
    (all : forall place, place ∈ order -> test ∈ tests place -> mark ∈ marks place) :
    SeenInTest marks tests mark test order := by
  rcases exists_first_tested tested with ⟨before, place, after, rfl, here, first⟩
  have inside : place ∈ before ++ place :: after := List.mem_append_right _ List.mem_cons_self
  refine ⟨before, place, after, rfl, here, first, ?_⟩
  exact List.mem_flatMap_of_mem (List.mem_append_right _ List.mem_cons_self) (all place inside here)

/-- A mark that is seen was left by some place. -/
theorem SeenInTest.marked {order : List Place} (seen : SeenInTest marks tests mark test order) :
    mark ∈ order.flatMap marks := by
  rcases seen with ⟨before, place, after, rfl, _, _, left⟩
  rw [List.append_cons, List.flatMap_append, List.mem_append]
  exact .inl left

/-- When the first place has the test, only its own marks are seen. -/
theorem seenInTest_of_tested_first {place : Place} {rest : List Place}
    (seen : SeenInTest marks tests mark test (place :: rest)) (tested : test ∈ tests place) :
    mark ∈ marks place := by
  rcases seen with ⟨before, found, after, split, _, first, left⟩
  cases before with
  | nil =>
      cases split
      rw [List.nil_append, List.flatMap_singleton] at left
      exact left
  | cons initial others =>
      cases split
      exact absurd (List.mem_flatMap_of_mem List.mem_cons_self tested) first

/-- A mark of the first place is seen. -/
theorem seenInTest_of_marked_first {place : Place} {rest : List Place}
    (tested : test ∈ (place :: rest).flatMap tests) (marked : mark ∈ marks place) :
    SeenInTest marks tests mark test (place :: rest) := by
  rcases exists_first_tested tested with ⟨before, found, after, split, here, first⟩
  refine ⟨before, found, after, split, here, first, ?_⟩
  have early : place ∈ before ++ [found] := by
    cases before with
    | nil =>
        cases split
        exact List.mem_cons_self
    | cons initial others =>
        cases split
        exact List.mem_cons_self
  exact List.mem_flatMap_of_mem early marked

/-- What is seen was tested. -/
theorem SeenInTest.tested {order : List Place} (seen : SeenInTest marks tests mark test order) :
    test ∈ order.flatMap tests := by
  rcases seen with ⟨before, place, after, rfl, here, _, _⟩
  exact List.mem_flatMap_of_mem (List.mem_append_right _ List.mem_cons_self) here

/-- The order makes no difference exactly if the mark is left nowhere, or by
every place that has the test. -/
theorem seenInTest_orders_agree {places : List Place} :
    (forall order other, order.Perm places -> other.Perm places ->
      (SeenInTest marks tests mark test order <-> SeenInTest marks tests mark test other)) <->
      (mark ∈ places.flatMap marks ->
        forall place, place ∈ places -> test ∈ tests place -> mark ∈ marks place) := by
  have foremost : forall place, place ∈ places ->
      Exists fun rest : List Place => (place :: rest).Perm places := by
    intro place inside
    rcases List.append_of_mem inside with ⟨before, after, rfl⟩
    exact ⟨before ++ after, List.perm_middle.symm⟩
  constructor
  · intro agree marked place inside here
    have tested := List.mem_flatMap_of_mem inside here
    rcases List.mem_flatMap.mp marked with ⟨marker, there, left⟩
    rcases foremost marker there with ⟨others, early⟩
    rcases foremost place inside with ⟨rest, late⟩
    have seen : SeenInTest marks tests mark test (marker :: others) :=
      seenInTest_of_marked_first ((early.flatMap_right tests).mem_iff.mpr tested) left
    exact seenInTest_of_tested_first ((agree _ _ early late).mp seen) here
  · intro condition order other permuted again
    have settled : forall visits : List Place, visits.Perm places ->
        (SeenInTest marks tests mark test visits <->
          mark ∈ places.flatMap marks ∧ test ∈ places.flatMap tests) := by
      intro visits same
      constructor
      · exact fun seen => ⟨(same.flatMap_right marks).mem_iff.mp seen.marked,
          (same.flatMap_right tests).mem_iff.mp seen.tested⟩
      · rintro ⟨marked, tested⟩
        apply seenInTest_of_all ((same.flatMap_right tests).mem_iff.mpr tested)
        exact fun place inside => condition marked place (same.mem_iff.mp inside)
    rw [settled order permuted, settled other again]

end Orders

section Blocks

variable {Place Mark Test : Type} {marked : Event -> Option Mark} {tested : Event -> Option Test}
  {visit : Place -> List Event} {mark : Mark} {test : Test}

theorem someTime_and_const {timely : List Event -> Event -> Prop} {fact : Prop}
    {events : List Event} :
    SomeTime (fun before event => timely before event ∧ fact) events <->
      SomeTime timely events ∧ fact := by
  constructor
  · rintro ⟨before, event, after, split, here, always⟩
    exact ⟨⟨before, event, after, split, here⟩, always⟩
  · rintro ⟨⟨before, event, after, split, here⟩, always⟩
    exact ⟨before, event, after, split, here, always⟩

/-- The last visit of some, which leaves its marks before it makes its tests. -/
theorem seen_in_visit {history early late : List Event} (untested : early.filterMap tested = [])
    (unmarked : late.filterMap marked = []) :
    SomeTime (fun before event => tested event = some test ∧
        test ∉ (history ++ before).filterMap tested ∧ mark ∈ (history ++ before).filterMap marked)
        (early ++ late) <->
      test ∈ (early ++ late).filterMap tested ∧ test ∉ history.filterMap tested ∧
        mark ∈ (history ++ (early ++ late)).filterMap marked := by
  have never : ¬ SomeTime (fun before event => tested event = some test ∧
      test ∉ (history ++ before).filterMap tested ∧
      mark ∈ (history ++ before).filterMap marked) early := by
    rintro ⟨before, event, after, rfl, here, _⟩
    have member : test ∈ (before ++ event :: after).filterMap tested :=
      List.mem_filterMap.mpr ⟨event, List.mem_append_right _ List.mem_cons_self, here⟩
    rw [untested] at member
    cases member
  rw [someTime_append, or_iff_right never]
  have constant : forall before event after, late = before ++ event :: after ->
      ((tested event = some test ∧ test ∉ (history ++ (early ++ before)).filterMap tested ∧
          mark ∈ (history ++ (early ++ before)).filterMap marked) <->
        (tested event = some test ∧ test ∉ before.filterMap tested) ∧
          test ∉ history.filterMap tested ∧
            mark ∈ (history ++ (early ++ late)).filterMap marked) := by
    intro before event after split
    have none : before.filterMap marked = [] := by
      rw [split, List.filterMap_append, List.append_eq_nil_iff] at unmarked
      exact unmarked.1
    simp only [List.filterMap_append, untested, unmarked, none, List.nil_append, List.append_nil,
      List.mem_append, not_or]
    tauto
  have tests : (early ++ late).filterMap tested = late.filterMap tested := by
    rw [List.filterMap_append, untested, List.nil_append]
  rw [someTime_congr constant, someTime_and_const, someTime_first, tests]

/-- What the tests find in a sequence of visits, each of which leaves its marks
before it makes its tests. -/
theorem seenInTest_iff {order : List Place}
    (ordered : forall place, place ∈ order ->
      Exists fun early : List Event => Exists fun late : List Event =>
        visit place = early ++ late ∧ early.filterMap tested = [] ∧ late.filterMap marked = []) :
    SomeTime (fun before event => tested event = some test ∧ test ∉ before.filterMap tested ∧
        mark ∈ before.filterMap marked) (order.flatMap visit) <->
      SeenInTest (fun place => (visit place).filterMap marked)
        (fun place => (visit place).filterMap tested) mark test order := by
  induction order using List.reverseRecOn with
  | nil => exact iff_of_false (someTime_nil _) (someTime_nil _)
  | append_singleton order last inductionHypothesis =>
      have earlier := inductionHypothesis fun place inside =>
        ordered place (List.mem_append_left _ inside)
      rcases ordered last (List.mem_append_right _ List.mem_cons_self) with
        ⟨early, late, split, untested, unmarked⟩
      simp only [SeenInTest] at earlier ⊢
      rw [List.flatMap_append, someTime_append, earlier, someTime_concat, List.flatMap_singleton]
      apply or_congr_right
      rw [split, seen_in_visit untested unmarked, ← split, List.filterMap_append,
        List.filterMap_flatMap, List.filterMap_flatMap, List.flatMap_append, List.flatMap_singleton]

end Blocks

end Library
end CrashPython

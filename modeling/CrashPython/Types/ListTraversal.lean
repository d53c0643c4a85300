import CrashPython.Types.ListInvariant

namespace CrashPython
namespace Types

open Library

/-!
# How a list walk ends

The walk over a finite memory image always ends.  The visited set of the exact
mode and the hare of the default mode both rest on the same counting: among
more positions than there are mapped nodes one node repeats, and the entry of
the repetition has two different predecessors but a single back link.

A cycle without the head is therefore always reported.
-/

variable (memory : MemoryImage ListHead) (options : ListOptions) (head : Nat)

/-- The address that an accepted argument names. -/
def ListArgument.address : ListArgument -> Option Nat
  | .listHead head => some head
  | .listHeadPointer head _ => some head
  | _ => none

/-- An upper bound on the iterations of a walk over an image. -/
def walkBound : Nat :=
  2 * memory.mapped.card + 2

/-- The chain meets a node other than the head twice before the head. -/
structure Revisit (first second : Nat) : Prop where
  positive : 0 < first
  ordered : first < second
  same : listChain memory options head first = listChain memory options head second
  reached : (listChain memory options head second).isSome
  headless : forall index, 0 < index -> index ≤ second ->
    listChain memory options head index ≠ some head

/-- The chain enters a cycle that leaves the head out. -/
def RevisitsBeforeHead : Prop :=
  Exists fun first : Nat => Exists fun second : Nat => Revisit memory options head first second

/-- The same without a null link on the way into the cycle and around it. -/
def EntersHeadlessCycle : Prop :=
  Exists fun first : Nat => Exists fun second : Nat => Revisit memory options head first second ∧
    forall index, index ≤ second -> listChain memory options head index ≠ some 0

variable {memory options head}

/-! ## Termination -/

/-- The entry of a cycle has one back link and two predecessors. -/
theorem exists_broken_of_repeat {entry period : Nat}
    (repeats : listChain memory options head (entry + 1) = listChain memory options head (entry + 1 + period))
    (total : ChainTotal memory options head)
    (different : listChain memory options head entry ≠ listChain memory options head (entry + period)) :
    Exists fun index : Nat => index ≤ entry + period ∧ BrokenAt memory options head index := by
  rcases Option.isSome_iff_exists.mp (total entry) with ⟨early, earlyAt⟩
  rcases Option.isSome_iff_exists.mp (total (entry + period)) with ⟨late, lateAt⟩
  rcases Option.isSome_iff_exists.mp (total (entry + 1)) with ⟨node, nodeAt⟩
  rcases readable_of_listChain_succ nodeAt (total (entry + 2)) with ⟨cell, readable⟩
  have again : listChain memory options head (entry + period + 1) = some node := by
    rw [← nodeAt, repeats]
    congr 1
    omega
  by_cases broken : early ≠ cell.link options.prevName
  · exact ⟨entry, Nat.le_add_right _ _, early, node, cell, earlyAt, nodeAt, readable, broken⟩
  · refine ⟨entry + period, Nat.le_refl _, late, node, cell, lateAt, again, readable, ?_⟩
    intro intact
    apply different
    rw [earlyAt, lateAt, not_not.mp broken, intact]

/-- The invariant bounds the number of iterations. -/
theorem walkInvariant_bounded {count : Nat} {events : List ListEvent} {walk : ListWalk}
    (invariant : WalkInvariant memory options head count events walk) : count < walkBound memory := by
  apply Nat.lt_of_not_le
  intro long
  simp only [walkBound] at long
  have confined : forall steps, 1 ≤ steps -> steps ≤ 1 + memory.mapped.card ->
      Exists fun address : Nat => address ∈ memory.mapped ∧
        listChain memory options head steps = some address := by
    intro steps positive bounded
    rcases invariant.passed steps positive (by omega) with ⟨address, here, _, _, mapped⟩
    exact ⟨address, mapped, here⟩
  rcases exists_repeat_of_finite memory.mapped confined with ⟨first, second, above, ordered, bounded, same⟩
  cases mode : options.exactCycles with
  | true => exact invariant.distinct mode first second above ordered (by omega) same
  | false =>
      rcases exists_first_repeat above ordered same with
        ⟨entry, period, atLeast, positive, within, repeats, predecessors⟩
      rcases Nat.exists_eq_add_of_le' atLeast with ⟨entry, rfl⟩
      rcases invariant.passed (entry + 1) (Nat.succ_pos entry) (by omega) with ⟨node, nodeAt, _⟩
      have total : ChainTotal memory options head :=
        orbit_total_of_repeat positive repeats (Option.isSome_iff_exists.mpr ⟨node, nodeAt⟩)
      have different : listChain memory options head entry ≠
          listChain memory options head (entry + period) := by
        rcases Nat.eq_zero_or_pos entry with zero | inner
        · subst zero
          rcases invariant.passed period positive (by omega) with ⟨address, here, notHead, _⟩
          rw [Nat.zero_add, here]
          intro impossible
          exact notHead (Option.some.inj impossible).symm
        · exact predecessors (Nat.succ_lt_succ inner)
      rcases exists_broken_of_repeat repeats total different with ⟨index, early, broken⟩
      have tracks := invariant.hare mode
      cases running : walk.fast with
      | none =>
          rw [running] at tracks
          exact tracks total index (by omega) broken
      | some fast =>
          rw [running] at tracks
          rcases tracks with ⟨origin, _, _, _, minimal, _, apart⟩
          have origin_le : origin ≤ index := Nat.le_of_not_lt (fun later => minimal total index later broken)
          rcases exists_meeting positive repeats (origin + 1) with ⟨time, soon, meets⟩
          exact (apart time (by omega)).1 meets

/-- The loop finishes within the bound, however the links lie. -/
theorem listWalk_finishes {first : Nat}
    (linked : followLink memory options.nextName head = some first) (nonNull : first ≠ 0) :
    Exists fun run : Run ListEvent ListError => forall fuel, walkBound memory ≤ fuel ->
      exhaust (listWalkStep memory options head) fuel (listWalkStart head first) = some run := by
  apply exhaust_of_bound
  cases reached : advance (listWalkStep memory options head) (walkBound memory)
      (listWalkStart head first) with
  | none => rfl
  | some final =>
      have invariant := walkInvariant_advance linked nonNull reached
      exact False.elim (Nat.lt_irrefl _ (walkInvariant_bounded invariant))

/-- How the generator can end, from the first check to the loop. -/
inductive HeadRun (memory : MemoryImage ListHead) (options : ListOptions) (head : Nat) :
    Run ListEvent ListError -> Prop where
  | headNull (null : head = 0) : HeadRun memory options head ⟨[], .raised .headNull⟩
  | headUnreadable (opening : List ListEvent)
      (unmapped : listChain memory options head 1 = none) :
      HeadRun memory options head ⟨opening, .raised (.headUnreadable head)⟩
  | firstNull (opening : List ListEvent) (null : listChain memory options head 1 = some 0) :
      HeadRun memory options head ⟨opening, .raised (.firstNull options.nextName)⟩
  | walked (count : Nat) (before emitted : List ListEvent) (walk : ListWalk)
      (ending : Ending ListError) (nonNull : head ≠ 0)
      (invariant : WalkInvariant memory options head count before walk)
      (stops : Stops memory options head walk emitted ending) :
      HeadRun memory options head
        ⟨(if options.includeHead then [.yielded head] else []) ++ (before ++ emitted), ending⟩

theorem listHeadForEach_cases {fuel : Nat} {run : Run ListEvent ListError}
    (finished : listHeadForEach memory options head fuel = some run) :
    HeadRun memory options head run := by
  simp only [listHeadForEach] at finished
  by_cases null : head = 0
  · rw [if_pos null] at finished
    cases finished
    exact .headNull null
  · rw [if_neg null] at finished
    have first : listChain memory options head 1 = followLink memory options.nextName head :=
      orbit_succ_of_some orbit_zero
    cases linked : followLink memory options.nextName head with
    | none =>
        simp only [linked, Option.some.injEq] at finished
        subst finished
        exact .headUnreadable _ (first.trans linked)
    | some node =>
        simp only [linked] at finished
        by_cases firstNull : node = 0
        · rw [if_pos firstNull] at finished
          cases finished
          exact .firstNull _ (first.trans (firstNull ▸ linked))
        · rw [if_neg firstNull] at finished
          rcases Option.map_eq_some_iff.mp finished with ⟨⟨events, ending⟩, exhausted, same⟩
          rcases exhaust_inv exhausted with ⟨count, before, walk, emitted, reached, step, shape⟩
          subst same
          simp only at shape step
          subst shape
          exact .walked count before emitted walk ending null
            (walkInvariant_advance linked firstNull reached) (listWalkStep_cases walk step)

/-- One result for all sufficient fuel. -/
theorem listHeadForEach_finishes (memory : MemoryImage ListHead) (options : ListOptions)
    (head : Nat) :
    Exists fun run : Run ListEvent ListError => forall fuel, walkBound memory ≤ fuel ->
      listHeadForEach memory options head fuel = some run := by
  simp only [listHeadForEach]
  by_cases null : head = 0
  · exact ⟨_, fun _ _ => if_pos null⟩
  · simp only [if_neg null]
    cases linked : followLink memory options.nextName head with
    | none => exact ⟨_, fun _ _ => rfl⟩
    | some first =>
        by_cases firstNull : first = 0
        · exact ⟨_, fun _ _ => if_pos firstNull⟩
        · rcases listWalk_finishes linked firstNull with ⟨run, finishes⟩
          refine ⟨run.after (if options.includeHead then [.yielded head] else []), ?_⟩
          intro fuel enough
          simp only [if_neg firstNull, finishes fuel enough, Option.map_some]

theorem listForEach_of_address {argument : ListArgument} (given : argument.address = some head)
    (fuel : Nat) :
    listForEach memory options argument fuel = listHeadForEach memory options head fuel := by
  cases argument with
  | notValue => cases given
  | otherType => cases given
  | listHead address =>
      cases given
      rfl
  | listHeadPointer address stored =>
      cases given
      rfl

/-! ## A cycle without the head is always reported -/

namespace Revisit

variable {first second : Nat}

theorem repeats (cycle : Revisit memory options head first second) :
    listChain memory options head first = listChain memory options head (first + (second - first)) := by
  rw [Nat.add_sub_cancel' (Nat.le_of_lt cycle.ordered)]
  exact cycle.same

theorem total (cycle : Revisit memory options head first second) :
    ChainTotal memory options head := by
  apply orbit_total_of_repeat (Nat.sub_pos_of_lt cycle.ordered) cycle.repeats
  change (listChain memory options head first).isSome
  rw [cycle.same]
  exact cycle.reached

/-- What the chain does not meet up to the repetition it never meets. -/
theorem avoids (cycle : Revisit memory options head first second) {address low : Nat}
    (early : low ≤ first)
    (absent : forall index, low ≤ index -> index ≤ second ->
      listChain memory options head index ≠ some address)
    {index : Nat} (above : low ≤ index) :
    listChain memory options head index ≠ some address := by
  rcases Nat.lt_or_ge index first with before | entered
  · exact absent index above (Nat.le_of_lt (Nat.lt_trans before cycle.ordered))
  · rcases orbit_mem_period (Nat.sub_pos_of_lt cycle.ordered) cycle.repeats entered with
      ⟨within, atLeast, below, same⟩
    rw [← show listChain memory options head within = listChain memory options head index from same]
    apply absent within (Nat.le_trans early atLeast)
    have ordered := cycle.ordered
    omega

end Revisit

/-- The loop of a cyclic chain can only end in a `ListCycleError`. -/
theorem headRun_of_cycle {run : Run ListEvent ListError} (ended : HeadRun memory options head run)
    (cyclic : EntersHeadlessCycle memory options head) :
    run.ending = .raised .cycle := by
  rcases cyclic with ⟨first, second, cycle, nonNull⟩
  have neverNull {index : Nat} : listChain memory options head index ≠ some 0 :=
    cycle.avoids (Nat.zero_le first) (fun index _ => nonNull index) (Nat.zero_le index)
  have neverHead {index : Nat} (positive : 0 < index) : listChain memory options head index ≠ some head :=
    cycle.avoids cycle.positive (fun index positive => cycle.headless index positive) positive
  cases ended with
  | headNull null =>
      have start : listChain memory options head 0 = some 0 := null ▸ orbit_zero
      exact False.elim (neverNull start)
  | headUnreadable opening unmapped =>
      have reached := cycle.total 1
      rw [unmapped] at reached
      cases reached
  | firstNull opening null => exact False.elim (neverNull null)
  | walked count before emitted walk ending _ invariant stops =>
      cases stops with
      | atHead here silent ends =>
          exact False.elim (neverHead (Nat.succ_pos count) (here ▸ invariant.nodeAt))
      | revisited notHead exactMode seen silent => rfl
      | unreadable notHead unmapped silent =>
          rcases readable_of_listChain_succ invariant.nodeAt (cycle.total (count + 2)) with ⟨cell, readable⟩
          rw [unmapped] at readable
          cases readable
      | null cell notHead readable null yields =>
          exact False.elim (neverNull (null ▸ listChain_succ invariant.nodeAt readable))
      | caught cell notHead readable yields meets => rfl

/-- Running `list_for_each` to exhaustion takes finitely many steps, and the
run ends by raising `ListCycleError` whenever the followed chain enters a
cycle without the head and without meeting a null link. -/
theorem listForEach_terminates (memory : MemoryImage ListHead) (options : ListOptions)
    (argument : ListArgument) (head : Nat) (given : argument.address = some head) :
    Exists fun run : Run ListEvent ListError =>
      (forall fuel, walkBound memory ≤ fuel -> listForEach memory options argument fuel = some run) ∧
        (EntersHeadlessCycle memory options head -> Exists fun error : ListError =>
          run.ending = .raised error ∧ error.errorClass = .listCycleError) := by
  rcases listHeadForEach_finishes memory options head with ⟨run, finishes⟩
  refine ⟨run, ?_, ?_⟩
  · intro fuel enough
    rw [listForEach_of_address given]
    exact finishes fuel enough
  · intro cyclic
    have ended := listHeadForEach_cases (finishes (walkBound memory) (Nat.le_refl _))
    exact ⟨.cycle, headRun_of_cycle ended cyclic, rfl⟩

/-- A head at 8 whose chain runs into the cycle of 16 and 24. -/
def headlessCycleImage : MemoryImage ListHead :=
  MemoryImage.ofTable [(8, ⟨16, 24⟩), (16, ⟨24, 8⟩), (24, ⟨16, 16⟩)]

theorem headlessCycleImage_enters : EntersHeadlessCycle headlessCycleImage {} 8 := by
  refine ⟨1, 3, ⟨Nat.one_pos, by decide, by decide, by decide, ?_⟩, ?_⟩
  · intro index positive bounded
    have position : index = 1 ∨ index = 2 ∨ index = 3 := by omega
    rcases position with rfl | rfl | rfl <;> decide
  · intro index bounded
    have position : index = 0 ∨ index = 1 ∨ index = 2 ∨ index = 3 := by omega
    rcases position with rfl | rfl | rfl | rfl <;> decide

theorem listForEach_terminates_headlessCycle :
    Exists fun run : Run ListEvent ListError =>
      (forall fuel, 8 ≤ fuel ->
        listForEach headlessCycleImage {} (.listHeadPointer 8) fuel = some run) ∧
        Exists fun error : ListError =>
          run.ending = .raised error ∧ error.errorClass = .listCycleError := by
  rcases listForEach_terminates headlessCycleImage {} (.listHeadPointer 8) 8 rfl with
    ⟨run, finishes, cyclic⟩
  exact ⟨run, finishes, cyclic headlessCycleImage_enters⟩

end Types
end CrashPython

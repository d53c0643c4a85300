import CrashPython.Types.LinkedList
import Mathlib.Data.Finset.Insert

namespace CrashPython
namespace Types

open Library

/-!
# What the list walk knows after each iteration

The chain of followed links is an orbit, and an iteration moves the walk one
position along it.  This file says once what an iteration can do, and derives
one invariant from it: the position of the node, the visited set of the exact
mode, the pending exception, and the position of the hare.

The hare is described only through the chain.  It may be switched off by an
unreadable element and started again later, so its origin is in general not
the first broken link; it is the first one whenever the chain never ends.
-/

variable (memory : MemoryImage ListHead) (options : ListOptions) (head : Nat)

/-- The chain of links that the walk follows, from the head on. -/
def listChain : Nat -> Option Nat :=
  orbit (followLink memory options.nextName) head

/-- The node after position `index` does not point back to that position. -/
def BrokenAt (index : Nat) : Prop :=
  Exists fun previous : Nat => Exists fun node : Nat => Exists fun cell : ListHead =>
    listChain memory options head index = some previous ∧
      listChain memory options head (index + 1) = some node ∧
        memory.read node = some cell ∧ previous ≠ cell.link options.prevName

/-- No followed link is missing. -/
def ChainTotal : Prop :=
  forall steps, (listChain memory options head steps).isSome

/-- The hare after `seen` back links were tested and `count` nodes passed. -/
def HareTracks (seen count : Nat) : Option Nat -> Prop
  | none => ChainTotal memory options head -> forall index, index < seen ->
      ¬ BrokenAt memory options head index
  | some fast => Exists fun origin : Nat => origin < seen ∧ origin ≤ count ∧
      BrokenAt memory options head origin ∧
      (ChainTotal memory options head -> forall index, index < origin ->
        ¬ BrokenAt memory options head index) ∧
      listChain memory options head (origin + 1 + 2 * (count - origin)) = some fast ∧
      forall time, origin + time < count ->
        listChain memory options head (origin + 1 + time) ≠
            listChain memory options head (origin + 1 + 2 * time + 1) ∧
          listChain memory options head (origin + 1 + time) ≠
            listChain memory options head (origin + 1 + 2 * time + 2)

/-- The loop invariant after `count` iterations. -/
structure WalkInvariant (count : Nat) (events : List ListEvent) (walk : ListWalk) : Prop where
  prevAt : listChain memory options head count = some walk.prev
  nodeAt : listChain memory options head (count + 1) = some walk.node
  nonNull : walk.node ≠ 0
  passed : forall index, 0 < index -> index ≤ count -> Exists fun address : Nat =>
    listChain memory options head index = some address ∧ address ≠ head ∧ address ≠ 0 ∧
      address ∈ memory.mapped
  yields : (yieldedNodes events).map some =
    (List.range count).map fun index => listChain memory options head (index + 1)
  pendingNone : walk.pendingException = none <->
    forall index, index < count -> ¬ BrokenAt memory options head index
  pendingClass : forall error, walk.pendingException = some error ->
    error.errorClass = .corruptListError
  visited : options.exactCycles = true -> forall address, address ∈ walk.visited <->
    Exists fun index : Nat => 0 < index ∧ index ≤ count ∧
      listChain memory options head index = some address
  distinct : options.exactCycles = true -> forall first second, 0 < first -> first < second ->
    second ≤ count -> listChain memory options head first ≠ listChain memory options head second
  idle : options.exactCycles = true -> walk.fast = none
  hare : options.exactCycles = false -> HareTracks memory options head count count walk.fast

variable {memory options head}

/-! ## One spec for each part of an iteration -/

/-- The detector position that an unfinished turn leaves behind. -/
def Hare.fast : Hare -> Option Nat
  | .running fast => some fast
  | _ => none

theorem listChain_succ {index address : Nat} {cell : ListHead}
    (here : listChain memory options head index = some address)
    (readable : memory.read address = some cell) :
    listChain memory options head (index + 1) = some (cell.link options.nextName) := by
  have moved := orbit_succ_of_some here
  simp only [followLink, readable, Option.map_some] at moved
  exact moved

/-- A node with a successor on the chain is readable. -/
theorem readable_of_listChain_succ {index address : Nat}
    (here : listChain memory options head index = some address)
    (further : (listChain memory options head (index + 1)).isSome) :
    Exists fun cell : ListHead => memory.read address = some cell := by
  have moved := orbit_succ_of_some here
  change listChain memory options head (index + 1) = followLink memory options.nextName address at moved
  rw [moved, followLink, Option.isSome_map] at further
  exact Option.isSome_iff_exists.mp further

/-- A turn of the hare, read off the chain. -/
theorem hareAdvanceTwice_spec (node : Nat) {position fast : Nat}
    (here : listChain memory options head position = some fast) :
    match hareAdvanceTwice memory options.nextName node fast with
    | .caught => listChain memory options head (position + 1) = some node ∨
        listChain memory options head (position + 2) = some node
    | .running further => listChain memory options head (position + 2) = some further ∧
        listChain memory options head (position + 1) ≠ some node ∧ further ≠ node
    | .stopped => listChain memory options head (position + 2) = none := by
  have first : listChain memory options head (position + 1) =
      followLink memory options.nextName fast := orbit_succ_of_some here
  simp only [hareAdvanceTwice, hareAdvance]
  cases one : followLink memory options.nextName fast with
  | none =>
      simp only
      change (listChain memory options head (position + 1)).bind _ = none
      rw [first, one, Option.bind_none]
  | some middle =>
      rw [one] at first
      have second : listChain memory options head (position + 2) =
          followLink memory options.nextName middle := orbit_succ_of_some first
      by_cases met : node = middle
      · simp only [if_pos met]
        exact Or.inl (met ▸ first)
      · simp only [if_neg met]
        cases two : followLink memory options.nextName middle with
        | none => exact second.trans two
        | some further =>
            rw [two] at second
            by_cases met' : node = further
            · simp only [if_pos met']
              exact Or.inr (met' ▸ second)
            · simp only [if_neg met']
              refine ⟨second, ?_, Ne.symm met'⟩
              rw [first]
              intro same
              exact met (Option.some.inj same).symm

/-- The back-link test does not look at the visited set. -/
theorem checkBackLink_visited (cell : ListHead) (walk : ListWalk) (visited : Finset Nat) :
    checkBackLink options cell { walk with visited := visited } =
      ((checkBackLink options cell walk).1,
        { (checkBackLink options cell walk).2 with visited := visited }) := by
  simp only [checkBackLink]
  by_cases broken : walk.prev ≠ cell.link options.prevName
  · simp only [if_pos broken]
  · simp only [if_neg broken]

theorem checkBackLink_broken {cell : ListHead} {walk : ListWalk}
    (broken : walk.prev ≠ cell.link options.prevName) :
    (checkBackLink options cell walk).2.pendingException =
        some (.brokenLink ⟨walk.prev, walk.node, cell.link options.prevName⟩
          options.nextName options.prevName) ∧
      (checkBackLink options cell walk).2.fast =
        if options.exactCycles = false ∧ walk.fast = none then some walk.node else walk.fast := by
  simp only [checkBackLink, if_pos broken, and_self]

theorem checkBackLink_intact {cell : ListHead} {walk : ListWalk}
    (intact : walk.prev = cell.link options.prevName) :
    checkBackLink options cell walk = ([], walk) := by
  simp only [checkBackLink, ne_eq, intact, not_true_eq_false, if_false]

theorem checkBackLink_frame (cell : ListHead) (walk : ListWalk) :
    (checkBackLink options cell walk).2.node = walk.node ∧
      (checkBackLink options cell walk).2.visited = walk.visited ∧
        yieldedNodes (checkBackLink options cell walk).1 = [] := by
  by_cases broken : walk.prev ≠ cell.link options.prevName
  · simp only [checkBackLink, if_pos broken, true_and]
    cases options.printBrokenLinks <;> rfl
  · rw [checkBackLink_intact (not_not.mp broken)]
    exact ⟨rfl, rfl, rfl⟩

/-- The walk as the back-link test of an iteration leaves it. -/
def checkedWalk (options : ListOptions) (cell : ListHead) (walk : ListWalk) : ListWalk :=
  (checkBackLink options cell
    (if options.exactCycles then { walk with visited := insert walk.node walk.visited } else walk)).2

theorem checkedWalk_visited (cell : ListHead) (walk : ListWalk) :
    (checkedWalk options cell walk).visited =
      if options.exactCycles then insert walk.node walk.visited else walk.visited := by
  simp only [checkedWalk]
  rw [(checkBackLink_frame _ _).2.1]
  cases options.exactCycles <;> rfl

theorem checkedWalk_eq (cell : ListHead) (walk : ListWalk) :
    (checkedWalk options cell walk).pendingException =
        (checkBackLink options cell walk).2.pendingException ∧
      (checkedWalk options cell walk).fast = (checkBackLink options cell walk).2.fast := by
  simp only [checkedWalk]
  cases options.exactCycles with
  | false => exact ⟨rfl, rfl⟩
  | true =>
      simp only [if_true]
      rw [checkBackLink_visited]
      exact ⟨rfl, rfl⟩

/-- Everything a proceeding iteration does. -/
structure Proceeds (memory : MemoryImage ListHead) (options : ListOptions) (head : Nat)
    (walk : ListWalk) (events : List ListEvent) (next : ListWalk) (cell : ListHead) : Prop where
  notHead : walk.node ≠ head
  fresh : options.exactCycles = true -> walk.node ∉ walk.visited
  readable : memory.read walk.node = some cell
  linked : cell.link options.nextName ≠ 0
  node : next.node = cell.link options.nextName
  prev : next.prev = walk.node
  visited : next.visited = if options.exactCycles then insert walk.node walk.visited else walk.visited
  pending : next.pendingException = (checkBackLink options cell walk).2.pendingException
  free : hareTurn memory options.nextName walk.node (checkBackLink options cell walk).2.fast ≠ .caught
  fast : next.fast =
    (hareTurn memory options.nextName walk.node (checkBackLink options cell walk).2.fast).fast
  yields : yieldedNodes events = [walk.node]

/-- How an iteration can end the walk. -/
inductive Stops (memory : MemoryImage ListHead) (options : ListOptions) (head : Nat)
    (walk : ListWalk) (events : List ListEvent) : Ending ListError -> Prop where
  | atHead {ending : Ending ListError} (here : walk.node = head) (silent : events = [])
      (ends : ending = walk.ending) : Stops memory options head walk events ending
  | revisited (notHead : walk.node ≠ head) (exactMode : options.exactCycles = true)
      (seen : walk.node ∈ walk.visited) (silent : events = []) :
      Stops memory options head walk events (.raised .cycle)
  | unreadable (notHead : walk.node ≠ head) (unmapped : memory.read walk.node = none)
      (silent : events = []) :
      Stops memory options head walk events
        (.raised (.nodeUnreadable walk.node head walk.lastGoodAddr))
  | null (cell : ListHead) (notHead : walk.node ≠ head)
      (readable : memory.read walk.node = some cell)
      (null : cell.link options.nextName = 0) (yields : yieldedNodes events = [walk.node]) :
      Stops memory options head walk events (.raised (.nullLink walk.node options.nextName))
  | caught (cell : ListHead) (notHead : walk.node ≠ head)
      (readable : memory.read walk.node = some cell) (yields : yieldedNodes events = [walk.node])
      (meets : hareTurn memory options.nextName walk.node
        (checkBackLink options cell walk).2.fast = .caught) :
      Stops memory options head walk events (.raised .cycle)

/-- Everything an iteration can do. -/
def IterationSpec (memory : MemoryImage ListHead) (options : ListOptions) (head : Nat)
    (walk : ListWalk) (events : List ListEvent) : Next ListWalk ListError -> Prop
  | .proceed next => Exists fun cell : ListHead =>
      Proceeds memory options head walk events next cell
  | .stop ending => Stops memory options head walk events ending

/-- The events of an iteration that reads its node. -/
theorem yieldedNodes_visit (cell : ListHead) (walk marked : ListWalk) :
    yieldedNodes ((checkBackLink options cell marked).1 ++ [.yielded walk.node]) = [walk.node] := by
  rw [yieldedNodes_append, (checkBackLink_frame cell marked).2.2]
  rfl

/-- The iteration after the node was read and the hare did not catch it. -/
theorem moveOn_cases {walk : ListWalk} {cell : ListHead} {events : List ListEvent}
    {outcome : Next ListWalk ListError} (notHead : walk.node ≠ head)
    (fresh : options.exactCycles = true -> walk.node ∉ walk.visited)
    (readable : memory.read walk.node = some cell) (yields : yieldedNodes events = [walk.node])
    {hare : Hare}
    (turn : hareTurn memory options.nextName walk.node (checkBackLink options cell walk).2.fast = hare)
    (free : hare ≠ .caught)
    (moved : moveOn options cell hare.fast (checkedWalk options cell walk) = outcome) :
    IterationSpec memory options head walk events outcome := by
  subst turn
  have same : (checkedWalk options cell walk).node = walk.node := by
    simp only [checkedWalk]
    rw [(checkBackLink_frame _ _).1]
    cases options.exactCycles <;> rfl
  subst moved
  simp only [moveOn]
  by_cases null : cell.link options.nextName = 0
  · rw [if_pos null, same]
    exact .null cell notHead readable null yields
  · rw [if_neg null]
    exact ⟨cell, {
      notHead := notHead
      fresh := fresh
      readable := readable
      linked := null
      node := rfl
      prev := same
      visited := checkedWalk_visited cell walk
      pending := (checkedWalk_eq cell walk).1
      free := free
      fast := rfl
      yields := yields }⟩

/-- An iteration either proceeds or stops in one of the listed ways. -/
theorem listWalkStep_cases (walk : ListWalk) {events : List ListEvent}
    {outcome : Next ListWalk ListError}
    (step : listWalkStep memory options head walk = (events, outcome)) :
    IterationSpec memory options head walk events outcome := by
  simp only [listWalkStep] at step
  by_cases here : walk.node = head
  · rw [if_pos here] at step
    simp only [Prod.mk.injEq] at step
    rcases step with ⟨rfl, rfl⟩
    exact .atHead here rfl rfl
  · rw [if_neg here] at step
    simp only [listHeadVisit] at step
    by_cases seen : options.exactCycles = true ∧ walk.node ∈ walk.visited
    · rw [if_pos seen] at step
      simp only [Prod.mk.injEq] at step
      rcases step with ⟨rfl, rfl⟩
      exact .revisited here seen.1 seen.2 rfl
    · rw [if_neg seen] at step
      cases readable : memory.read walk.node with
      | none =>
          simp only [readable, Prod.mk.injEq] at step
          rcases step with ⟨rfl, rfl⟩
          exact .unreadable here readable rfl
      | some cell =>
          simp only [readable] at step
          change (match hareTurn memory options.nextName walk.node (checkedWalk options cell walk).fast with
            | .caught => (_, _)
            | .running further => (_, moveOn options cell (some further) (checkedWalk options cell walk))
            | .stopped => (_, moveOn options cell none (checkedWalk options cell walk))) = _ at step
          rw [(checkedWalk_eq cell walk).2] at step
          have fresh : options.exactCycles = true -> walk.node ∉ walk.visited :=
            fun exactMode member => seen ⟨exactMode, member⟩
          cases turn : hareTurn memory options.nextName walk.node
              (checkBackLink options cell walk).2.fast with
          | caught =>
              simp only [turn, Prod.mk.injEq] at step
              rcases step with ⟨rfl, rfl⟩
              exact .caught cell here readable (yieldedNodes_visit cell walk _) turn
          | running further =>
              simp only [turn, Prod.mk.injEq] at step
              rcases step with ⟨rfl, moved⟩
              refine moveOn_cases here fresh readable (yieldedNodes_visit cell walk _) turn ?_ moved
              intro caught
              cases caught
          | stopped =>
              simp only [turn, Prod.mk.injEq] at step
              rcases step with ⟨rfl, moved⟩
              refine moveOn_cases here fresh readable (yieldedNodes_visit cell walk _) turn ?_ moved
              intro caught
              cases caught

/-! ## The invariant of the loop -/

theorem walkInvariant_start {first : Nat}
    (linked : followLink memory options.nextName head = some first) (nonNull : first ≠ 0) :
    WalkInvariant memory options head 0 [] (listWalkStart head first) where
  prevAt := rfl
  nodeAt := (orbit_succ_of_some orbit_zero).trans linked
  nonNull := nonNull
  passed := fun index positive bounded => False.elim (by omega)
  yields := rfl
  pendingNone := ⟨fun _ index impossible => False.elim (Nat.not_lt_zero index impossible), fun _ => rfl⟩
  pendingClass := fun error impossible => by cases impossible
  visited := by
    intro _ address
    constructor
    · intro impossible
      exact False.elim (Finset.notMem_empty address impossible)
    · rintro ⟨index, positive, bounded, _⟩
      omega
  distinct := fun _ first second positive ordered bounded => False.elim (by omega)
  idle := fun _ => rfl
  hare := fun _ _ index impossible => False.elim (Nat.not_lt_zero index impossible)

section Preservation

variable {count : Nat} {before events : List ListEvent} {walk next : ListWalk} {cell : ListHead}

/-- A walk that is not at the head has not met it yet. -/
theorem WalkInvariant.notYetHead (invariant : WalkInvariant memory options head count before walk)
    (notHead : walk.node ≠ head) (index : Nat) (positive : 0 < index) (bounded : index ≤ count + 1) :
    listChain memory options head index ≠ some head := by
  rcases Nat.le_succ_iff.mp bounded with passed | last
  · rcases invariant.passed index positive passed with ⟨address, here, different, _⟩
    rw [here]
    exact fun impossible => different (Option.some.inj impossible)
  · rw [last, invariant.nodeAt]
    exact fun impossible => notHead (Option.some.inj impossible)

/-- The back-link test looks at exactly one position of the chain. -/
theorem brokenAt_iff (invariant : WalkInvariant memory options head count before walk)
    (readable : memory.read walk.node = some cell) :
    BrokenAt memory options head count <-> walk.prev ≠ cell.link options.prevName := by
  constructor
  · rintro ⟨previous, node, stored, previousAt, nodeAt, found, broken⟩
    have samePrevious := Option.some.inj (previousAt.symm.trans invariant.prevAt)
    have sameNode := Option.some.inj (nodeAt.symm.trans invariant.nodeAt)
    subst samePrevious sameNode
    rw [Option.some.inj (readable.symm.trans found)]
    exact broken
  · intro broken
    exact ⟨walk.prev, walk.node, cell, invariant.prevAt, invariant.nodeAt, readable, broken⟩

/-- After the back-link test an exception is pending exactly if some link up to
here is broken. -/
theorem pendingNone_check (invariant : WalkInvariant memory options head count before walk)
    (readable : memory.read walk.node = some cell) :
    (checkBackLink options cell walk).2.pendingException = none <->
      forall index, index < count + 1 -> ¬ BrokenAt memory options head index := by
  by_cases broken : walk.prev ≠ cell.link options.prevName
  · rw [(checkBackLink_broken broken).1]
    constructor
    · intro impossible
      cases impossible
    · intro intact
      exact False.elim (intact count (Nat.lt_succ_self count)
        ((brokenAt_iff invariant readable).mpr broken))
  · rw [checkBackLink_intact (not_not.mp broken), invariant.pendingNone]
    constructor
    · intro earlier index bounded brokenHere
      rcases Nat.lt_succ_iff_lt_or_eq.mp bounded with before | same
      · exact earlier index before brokenHere
      · subst same
        exact broken ((brokenAt_iff invariant readable).mp brokenHere)
    · intro intact index bounded
      exact intact index (Nat.lt_succ_of_lt bounded)

/-- With exact cycles the back-link test starts no hare. -/
theorem idle_check (invariant : WalkInvariant memory options head count before walk)
    (exactMode : options.exactCycles = true) : (checkBackLink options cell walk).2.fast = none := by
  by_cases broken : walk.prev ≠ cell.link options.prevName
  · rw [(checkBackLink_broken broken).2, exactMode]
    exact invariant.idle exactMode
  · rw [checkBackLink_intact (not_not.mp broken)]
    exact invariant.idle exactMode

/-- After the back-link test the hare has seen one more link. -/
theorem hareTracks_check (invariant : WalkInvariant memory options head count before walk)
    (default : options.exactCycles = false) (readable : memory.read walk.node = some cell) :
    HareTracks memory options head (count + 1) count (checkBackLink options cell walk).2.fast := by
  have tracks := invariant.hare default
  by_cases broken : walk.prev ≠ cell.link options.prevName
  · rw [(checkBackLink_broken broken).2]
    cases running : walk.fast with
    | none =>
        rw [if_pos ⟨default, rfl⟩]
        rw [running] at tracks
        refine ⟨count, Nat.lt_succ_self count, Nat.le_refl count,
          (brokenAt_iff invariant readable).mpr broken, tracks, ?_, ?_⟩
        · rw [Nat.sub_self]
          exact invariant.nodeAt
        · intro time impossible
          omega
    | some fast =>
        rw [if_neg (fun both => Option.some_ne_none fast both.2)]
        rw [running] at tracks
        rcases tracks with ⟨origin, bounded, rest⟩
        exact ⟨origin, Nat.lt_succ_of_lt bounded, rest⟩
  · have intact := not_not.mp broken
    rw [checkBackLink_intact intact]
    cases running : walk.fast with
    | none =>
        rw [running] at tracks
        intro total index bounded brokenHere
        rcases Nat.lt_succ_iff_lt_or_eq.mp bounded with earlier | same
        · exact tracks total index earlier brokenHere
        · subst same
          exact (brokenAt_iff invariant readable).mp brokenHere intact
    | some fast =>
        rw [running] at tracks
        rcases tracks with ⟨origin, bounded, rest⟩
        exact ⟨origin, Nat.lt_succ_of_lt bounded, rest⟩

/-- A turn in which the hare does not catch the node keeps it on track. -/
theorem hareTracks_turn {seen node : Nat} {fast : Option Nat}
    (tracks : HareTracks memory options head seen count fast)
    (nodeAt : listChain memory options head (count + 1) = some node)
    (free : hareTurn memory options.nextName node fast ≠ .caught) :
    HareTracks memory options head seen (count + 1)
      (hareTurn memory options.nextName node fast).fast := by
  cases fast with
  | none => exact tracks
  | some fast =>
      rcases tracks with ⟨origin, bounded, started, broken, first, position, apart⟩
      have spec := hareAdvanceTwice_spec node position
      change hareAdvanceTwice memory options.nextName node fast ≠ .caught at free
      change HareTracks memory options head seen (count + 1)
        (hareAdvanceTwice memory options.nextName node fast).fast
      cases turn : hareAdvanceTwice memory options.nextName node fast with
      | caught => exact False.elim (free turn)
      | stopped =>
          rw [turn] at spec
          simp only at spec
          intro total
          have missing := total (origin + 1 + 2 * (count - origin) + 2)
          rw [spec] at missing
          cases missing
      | running further =>
          rw [turn] at spec
          rcases spec with ⟨moved, middle, last⟩
          refine ⟨origin, bounded, Nat.le_succ_of_le started, broken, first, ?_, ?_⟩
          · rw [← moved]
            congr 1
            omega
          · intro time elapsed
            rcases Nat.lt_succ_iff_lt_or_eq.mp (show origin + time < count + 1 by omega) with
              earlier | now
            · exact apart time earlier
            · have here : origin + 1 + time = count + 1 := by omega
              have ahead : origin + 1 + 2 * time = origin + 1 + 2 * (count - origin) := by omega
              rw [here, ahead, nodeAt, moved]
              exact ⟨Ne.symm middle, fun same => last (Option.some.inj same).symm⟩

theorem walkInvariant_proceed (invariant : WalkInvariant memory options head count before walk)
    (step : Proceeds memory options head walk events next cell) :
    WalkInvariant memory options head (count + 1) (before ++ events) next where
  prevAt := by rw [step.prev]; exact invariant.nodeAt
  nodeAt := by rw [step.node]; exact listChain_succ invariant.nodeAt step.readable
  nonNull := by rw [step.node]; exact step.linked
  passed := by
    intro index positive bounded
    rcases Nat.le_succ_iff.mp bounded with earlier | same
    · exact invariant.passed index positive earlier
    · subst same
      exact ⟨walk.node, invariant.nodeAt, step.notHead, invariant.nonNull,
        memory.mem_mapped _ _ step.readable⟩
  yields := by
    rw [yieldedNodes_append, List.map_append, invariant.yields, step.yields, List.range_succ,
      List.map_append, List.map_singleton, List.map_singleton, invariant.nodeAt]
  pendingNone := by
    rw [step.pending]
    exact pendingNone_check invariant step.readable
  pendingClass := by
    intro error pending
    rw [step.pending] at pending
    by_cases broken : walk.prev ≠ cell.link options.prevName
    · rw [(checkBackLink_broken broken).1] at pending
      cases pending
      rfl
    · rw [checkBackLink_intact (not_not.mp broken)] at pending
      exact invariant.pendingClass error pending
  visited := by
    intro exactMode address
    rw [step.visited, if_pos exactMode, Finset.mem_insert, invariant.visited exactMode]
    constructor
    · rintro (same | ⟨index, positive, bounded, here⟩)
      · subst same
        exact ⟨count + 1, Nat.succ_pos count, Nat.le_refl _, invariant.nodeAt⟩
      · exact ⟨index, positive, Nat.le_succ_of_le bounded, here⟩
    · rintro ⟨index, positive, bounded, here⟩
      rcases Nat.le_succ_iff.mp bounded with earlier | same
      · exact Or.inr ⟨index, positive, earlier, here⟩
      · subst same
        exact Or.inl (Option.some.inj (here.symm.trans invariant.nodeAt))
  distinct := by
    intro exactMode first second positive ordered bounded
    rcases Nat.le_succ_iff.mp bounded with earlier | same
    · exact invariant.distinct exactMode first second positive ordered earlier
    · subst same
      intro repeated
      exact step.fresh exactMode ((invariant.visited exactMode walk.node).mpr
        ⟨first, positive, Nat.lt_succ_iff.mp ordered, repeated.trans invariant.nodeAt⟩)
  idle := by
    intro exactMode
    rw [step.fast, idle_check invariant exactMode]
    rfl
  hare := by
    intro default
    rw [step.fast]
    exact hareTracks_turn (hareTracks_check invariant default step.readable) invariant.nodeAt step.free

/-- The invariant holds after every number of iterations. -/
theorem walkInvariant_advance {first : Nat}
    (linked : followLink memory options.nextName head = some first) (nonNull : first ≠ 0)
    (reached : advance (listWalkStep memory options head) count (listWalkStart head first) =
      some (events, walk)) :
    WalkInvariant memory options head count events walk := by
  refine advance_invariant (WalkInvariant memory options head) (walkInvariant_start linked nonNull) ?_
    reached
  intro count before walk events next invariant proceeds
  rcases listWalkStep_cases walk proceeds with ⟨cell, step⟩
  exact walkInvariant_proceed invariant step

end Preservation
end Types
end CrashPython

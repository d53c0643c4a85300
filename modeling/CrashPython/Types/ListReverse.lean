import CrashPython.Types.ListRun

namespace CrashPython
namespace Types

open Library

/-!
# Walking a list backwards

A walk that completes has seen a ring with the right back links.  Only the back
link of the head was not looked at.  If it leads to the last node, the back links
form a ring as well, with the nodes in the opposite order, and the links of the
first walk are its back links.  The walk in the other direction therefore completes
too.
-/

variable {memory : MemoryImage ListHead} {options : ListOptions} {head : Nat} {nodes : List Nat}

theorem followLink_eq_some {link : LinkName} {address target : Nat} :
    followLink memory link address = some target <-> Exists fun cell : ListHead =>
      memory.read address = some cell ∧ cell.link link = target :=
  Option.map_eq_some_iff

/-- The back links lead from each node to the one before it. -/
theorem backLinked_iff_isChain : BackLinked memory options head nodes <->
    (head :: nodes).IsChain fun point next =>
      followLink memory options.prevName next = some point := by
  rw [List.isChain_iff_getElem]
  constructor
  · intro linked index inside
    have inner : index < nodes.length := Nat.lt_of_succ_lt_succ inside
    exact followLink_eq_some.mpr (linked index nodes[index] _ (List.getElem?_eq_getElem inner)
      (List.getElem?_eq_getElem (Nat.lt_of_succ_lt inside)))
  · intro linked index node previous nodeAt previousAt
    rcases List.getElem?_eq_some_iff.mp nodeAt with ⟨inner, rfl⟩
    rcases List.getElem?_eq_some_iff.mp previousAt with ⟨_, rfl⟩
    exact followLink_eq_some.mp (linked index (Nat.succ_lt_succ inner))

namespace ListRing

/-- A ring is a route from the head to the head. -/
theorem route (ring : ListRing memory options head nodes) :
    Route (followLink memory options.nextName) (head :: (nodes ++ [head])) := by
  apply route_iff.mpr
  intro index inside
  rw [List.length_append, List.length_singleton] at inside
  cases index with
  | zero => rfl
  | succ index =>
      rw [List.getElem?_cons_succ]
      rcases Nat.lt_or_eq_of_le (Nat.le_of_succ_le_succ inside) with inner | last
      · rw [List.getElem?_append_left inner]
        exact ring.visits index inner
      · subst last
        rw [List.getElem?_append_right (Nat.le_refl _), Nat.sub_self]
        exact ring.returns

theorem of_route (route : Route (followLink memory options.nextName) (head :: (nodes ++ [head])))
    (distinct : nodes.Nodup) (headless : head ∉ nodes) (nonNull : 0 ∉ head :: nodes) :
    ListRing memory options head nodes := by
  have visits := route_iff.mp route
  rw [List.length_append, List.length_singleton] at visits
  refine ⟨?_, ?_, distinct, headless, nonNull⟩
  · intro index inside
    have here := visits (index + 1) (Nat.succ_le_succ (Nat.le_of_lt inside))
    rw [List.getElem?_cons_succ, List.getElem?_append_left inside] at here
    exact here
  · have here := visits (nodes.length + 1) (Nat.le_refl _)
    rw [List.getElem?_cons_succ, List.getElem?_append_right (Nat.le_refl _), Nat.sub_self] at here
    exact here

/-- With the right back links everywhere a ring can be walked in both directions. -/
theorem backward {other : ListOptions} (next : other.nextName = options.prevName)
    (prev : other.prevName = options.nextName) (ring : ListRing memory options head nodes)
    (linked : BackLinked memory options head nodes)
    (last : followLink memory options.prevName head = (head :: nodes).getLast?) :
    ListRing memory other head nodes.reverse ∧ BackLinked memory other head nodes.reverse := by
  have turned : head :: (nodes.reverse ++ [head]) = (head :: (nodes ++ [head])).reverse := by
    simp
  constructor
  · apply of_route
    · simp only [Route]
      rw [turned, next, List.isChain_reverse, ← List.cons_append, List.isChain_append]
      refine ⟨backLinked_iff_isChain.mp linked, List.isChain_singleton head, ?_⟩
      intro point final back front
      rw [List.head?_cons, Option.mem_some_iff] at front
      rw [← front, last]
      exact final
    · exact List.nodup_reverse.mpr ring.distinct
    · rw [List.mem_reverse]
      exact ring.headless
    · have same : 0 ∈ head :: nodes.reverse <-> 0 ∈ head :: nodes := by
        rw [List.mem_cons, List.mem_reverse, List.mem_cons]
      rw [same]
      exact ring.nonNull
  · apply backLinked_iff_isChain.mpr
    have whole : head :: nodes.reverse = (nodes ++ [head]).reverse := by
      simp
    rw [whole, prev, List.isChain_reverse]
    exact ring.route.tail

end ListRing

/-- A run that completes has gone around a ring with the right back links. -/
theorem ring_of_completed {run : Run ListEvent ListError} (ended : HeadRun memory options head run)
    (completed : run.ending = .completed) :
    Exists fun around : List Nat => ListRing memory options head around ∧
      BackLinked memory options head around ∧
      yieldedNodes run.events = (if options.includeHead then [head] else []) ++ around := by
  cases ended with
  | headNull null => cases completed
  | headUnreadable opening unmapped => cases completed
  | firstNull opening null => cases completed
  | walked count before emitted walk ending nonNull invariant stops =>
      have again : HeadRun memory options head _ :=
        .walked count before emitted walk ending nonNull invariant stops
      simp only at completed
      subst completed
      cases stops with
      | atHead here silent ends =>
          have ring := ListRing.of_atHead invariant nonNull here
          exact ⟨_, ring, (ring.headRun_completed_iff again).mp rfl, ring.headRun_yields again⟩

/-- The entries of a run that completed. -/
theorem listForEachEntry_of_completed {argument : ListArgument} {fuel : Nat}
    {run : Run ListEvent ListError} (ran : listForEach memory options argument fuel = some run)
    (completed : run.ending = .completed) (offset : Int) :
    listForEachEntry memory options argument offset fuel =
      some ((yieldedNodes run.events).map fun node : Nat => (node : Int) - offset, .completed) := by
  simp only [listForEachEntry]
  rw [ran, Option.map_some, completed]

/-- The argument has an address of its own: it is a list head in memory or a pointer stored there. -/
def ListArgument.isStored : ListArgument -> Bool
  | .listHead _ => true
  | .listHeadPointer _ stored => stored
  | _ => false

/-- What `list_empty` does with an accepted argument. -/
theorem listEmpty_of_address {argument : ListArgument} (given : argument.address = some head) :
    listEmpty memory argument =
      if argument.isStored then listEmpty.linksTo memory head else .error .noAddress := by
  cases argument with
  | notValue => cases given
  | otherType => cases given
  | listHead address =>
      cases given
      rfl
  | listHeadPointer address stored =>
      cases given
      cases stored <;> rfl

/-- A ring is empty exactly if the first link of its head leads back to the head. -/
theorem linksTo_of_ring (ahead : options.reverse = false) (ring : ListRing memory options head nodes) :
    listEmpty.linksTo memory head = .ok (decide (nodes = [])) := by
  have name : options.nextName = .next := by
    simp only [ListOptions.nextName]
    rw [ahead]
    rfl
  have first : followLink memory .next head = some ((nodes ++ [head]).head (by simp)) := by
    have route := ring.route
    rw [name] at route
    cases nodes with
    | nil => exact (List.isChain_cons_cons.mp route).1
    | cons node rest => exact (List.isChain_cons_cons.mp route).1
  simp only [listEmpty.linksTo, first]
  rw [Except.ok.injEq, Bool.eq_iff_iff, beq_iff_eq, decide_eq_true_iff]
  cases nodes with
  | nil => exact ⟨fun _ => rfl, fun _ => rfl⟩
  | cons node rest =>
      constructor
      · intro same
        change head = node at same
        exact False.elim (ring.headless (same ▸ List.mem_cons_self))
      · exact fun impossible => absurd impossible (List.cons_ne_nil _ _)

/-! ## Result -/

/-- If the walk along the `next` links completes, and the `prev` link of the head leads
to the last node, then the walk along the `prev` links completes with the same nodes in
the opposite order.  The entries of both walks are the nodes lowered by the offset of
the member, and the list is empty exactly if there are no nodes.  Only of a pointer that is
not stored in memory `list_empty` does not say so, since it has no address to begin with. -/
theorem listForEach_reverses (memory : MemoryImage ListHead) (argument : ListArgument) (head : Nat)
    (forward backward : ListOptions) (fuel : Nat) (run : Run ListEvent ListError) (offset : Int)
    (given : argument.address = some head)
    (ahead : forward.reverse = false) (headless : forward.includeHead = false)
    (behind : backward.reverse = true) (headlessToo : backward.includeHead = false)
    (ran : listForEach memory forward argument fuel = some run)
    (completed : run.ending = .completed)
    (last : followLink memory .prev head = (head :: yieldedNodes run.events).getLast?) :
    (Exists fun reversed : Run ListEvent ListError =>
      (forall enough, walkBound memory ≤ enough ->
        listForEach memory backward argument enough = some reversed ∧
          listForEachEntry memory backward argument offset enough =
            some (((yieldedNodes run.events).map fun node : Nat => (node : Int) - offset).reverse,
              .completed)) ∧
        reversed.ending = .completed ∧
        yieldedNodes reversed.events = (yieldedNodes run.events).reverse) ∧
      listForEachEntry memory forward argument offset fuel =
        some ((yieldedNodes run.events).map fun node : Nat => (node : Int) - offset, .completed) ∧
      listEmpty memory argument =
        if argument.isStored then .ok (decide (yieldedNodes run.events = [])) else .error .noAddress := by
  have ended := ran
  rw [listForEach_of_address given] at ended
  rcases ring_of_completed (listHeadForEach_cases ended) completed with
    ⟨nodes, ring, linked, yields⟩
  rw [headless] at yields
  change yieldedNodes run.events = nodes at yields
  have next : backward.nextName = forward.prevName := by
    simp only [ListOptions.nextName, ListOptions.prevName]
    rw [ahead, behind]
    rfl
  have prev : backward.prevName = forward.nextName := by
    simp only [ListOptions.nextName, ListOptions.prevName]
    rw [ahead, behind]
    rfl
  have back : forward.prevName = .prev := by
    simp only [ListOptions.prevName]
    rw [ahead]
    rfl
  rw [yields, ← back] at last
  rw [yields]
  rcases ring.backward next prev linked last with ⟨turned, turnedLinks⟩
  rcases listRun_ring turned turnedLinks headlessToo with ⟨turnedYields, turnedEnding⟩
  refine ⟨⟨listRun memory backward head, ?_, turnedEnding, turnedYields⟩, ?_, ?_⟩
  · intro enough bound
    have again : listForEach memory backward argument enough = some (listRun memory backward head) := by
      rw [listForEach_of_address given]
      exact listHeadForEach_listRun memory backward head bound
    refine ⟨again, ?_⟩
    rw [listForEachEntry_of_completed again turnedEnding offset, turnedYields, List.map_reverse]
  · rw [listForEachEntry_of_completed ran completed offset, yields]
  · rw [listEmpty_of_address given, linksTo_of_ring ahead ring]

/-- A list of two nodes with right links. -/
theorem listForEach_reverses_twoNode :
    Exists fun reversed : Run ListEvent ListError =>
      listForEach (twoNodeImage 8) { reverse := true } (.listHead 8) 8 = some reversed ∧
        reversed.ending = .completed ∧ yieldedNodes reversed.events = [24, 16] := by
  rcases (listForEach_reverses (twoNodeImage 8) (.listHead 8) 8 {} { reverse := true } 8
    ⟨[.yielded 16, .yielded 24], .completed⟩ 0 rfl rfl rfl rfl rfl (by decide) rfl rfl).1 with
    ⟨reversed, finishes, completed, yields⟩
  exact ⟨reversed, (finishes 8 (Nat.le_refl 8)).1, completed, yields⟩

end Types
end CrashPython

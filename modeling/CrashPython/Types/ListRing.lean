import CrashPython.Types.ListTraversal

namespace CrashPython
namespace Types

open Library

/-!
# Lists that return to their head

On a list that returns to its head, the walk yields every node before it can
raise anything, whatever the back links contain.  What it raises is not always
right.  The hare runs through the head and around again; started at the very
first node, it is exactly one round ahead when the walk reaches the last node,
and a properly terminated list is reported as cyclic.  No other start position
goes wrong.
-/

variable (memory : MemoryImage ListHead) (options : ListOptions) (head : Nat)

/-- The chain comes back to the head. -/
def ReturnsToHead : Prop :=
  Exists fun length : Nat => 0 < length ∧ listChain memory options head length = some head

/-- The chain returns to the head through the given nodes. -/
structure ListRing (nodes : List Nat) : Prop where
  visits : forall index, index < nodes.length ->
    listChain memory options head (index + 1) = nodes[index]?
  returns : listChain memory options head (nodes.length + 1) = some head
  distinct : nodes.Nodup
  headless : head ∉ nodes
  nonNull : 0 ∉ head :: nodes

/-- Every node of a list points back to the one before it. -/
def BackLinked (nodes : List Nat) : Prop :=
  forall (index node previous : Nat), nodes[index]? = some node ->
    (head :: nodes)[index]? = some previous ->
      Exists fun cell : ListHead => memory.read node = some cell ∧
        cell.link options.prevName = previous

/-- Some run of the iterator ends with a `ListCycleError`. -/
def RaisesListCycleError (argument : ListArgument) : Prop :=
  Exists fun fuel : Nat => Exists fun run : Run ListEvent ListError => Exists fun error : ListError =>
    listForEach memory options argument fuel = some run ∧ run.ending = .raised error ∧
      error.errorClass = .listCycleError

variable {memory options head}

/-! ## When the hare catches the walk -/

section Caught

variable {count : Nat} {before : List ListEvent} {walk : ListWalk} {cell : ListHead}

/-- The position of the hare at the catch, relative to its origin. -/
theorem caught_position (invariant : WalkInvariant memory options head count before walk)
    (readable : memory.read walk.node = some cell)
    (meets : hareTurn memory options.nextName walk.node
      (checkBackLink options cell walk).2.fast = .caught) :
    options.exactCycles = false ∧ Exists fun origin : Nat => Exists fun ahead : Nat =>
      origin ≤ count ∧ BrokenAt memory options head origin ∧
        0 < ahead ∧ ahead ≤ count - origin + 2 ∧
          listChain memory options head (count + 1) = listChain memory options head (count + 1 + ahead) := by
  cases mode : options.exactCycles with
  | true =>
      have still : (checkBackLink options cell walk).2.fast = none := by
        by_cases broken : walk.prev ≠ cell.link options.prevName
        · rw [(checkBackLink_broken broken).2, mode]
          exact invariant.idle mode
        · rw [checkBackLink_intact (not_not.mp broken)]
          exact invariant.idle mode
      rw [still] at meets
      cases meets
  | false =>
      refine ⟨rfl, ?_⟩
      have tracks := hareTracks_check invariant mode readable
      cases running : (checkBackLink options cell walk).2.fast with
      | none =>
          rw [running] at meets
          cases meets
      | some fast =>
          rw [running] at tracks meets
          rcases tracks with ⟨origin, _, started, broken, _, position, _⟩
          have spec := hareAdvanceTwice_spec walk.node position
          change hareAdvanceTwice memory options.nextName walk.node fast = .caught at meets
          rw [meets] at spec
          rcases spec with one | two
          · refine ⟨origin, count - origin + 1, started, broken, Nat.succ_pos _, by omega, ?_⟩
            rw [invariant.nodeAt, ← one]
            congr 1
            omega
          · refine ⟨origin, count - origin + 2, started, broken, Nat.succ_pos _, by omega, ?_⟩
            rw [invariant.nodeAt, ← two]
            congr 1
            omega

/-- A caught walk is on a cycle without the head, or it stands on the last
node of a list whose first back link is broken. -/
theorem caught_cases (invariant : WalkInvariant memory options head count before walk)
    (notHead : walk.node ≠ head) (readable : memory.read walk.node = some cell)
    (meets : hareTurn memory options.nextName walk.node
      (checkBackLink options cell walk).2.fast = .caught) :
    RevisitsBeforeHead memory options head ∨
      (options.exactCycles = false ∧ BrokenAt memory options head 0 ∧
        FirstReturn (followLink memory options.nextName) head (count + 2)) := by
  rcases caught_position invariant readable meets with
    ⟨mode, origin, ahead, started, broken, positive, near, same⟩
  by_cases returns : Exists fun index : Nat => 0 < index ∧ listChain memory options head index = some head
  · rcases returns with ⟨index, above, back⟩
    rcases exists_firstReturn above back with ⟨length, _, closed⟩
    have late : count + 2 ≤ length := by
      apply Nat.le_of_not_lt
      intro short
      exact invariant.notYetHead notHead length closed.positive (by omega) closed.returns
    have divides : length ∣ ahead := by
      have rounds := closed.dvd_of_eq (Nat.le_add_right (count + 1) ahead) same
      rwa [Nat.add_sub_cancel_left] at rounds
    have rounds := Nat.le_of_dvd positive divides
    have first : origin = 0 := by omega
    have length_eq : length = count + 2 := by omega
    subst first length_eq
    exact Or.inr ⟨mode, broken, closed⟩
  · left
    refine ⟨count + 1, count + 1 + ahead, Nat.succ_pos count, by omega, same, ?_, ?_⟩
    · rw [← same, invariant.nodeAt]
      rfl
    · intro index above _ back
      exact returns ⟨index, above, back⟩

end Caught

/-! ## Rings -/

/-- Two presentations of the visited nodes: by list and by position. -/
theorem getElem?_of_map_some {nodes : List Nat} {count : Nat} {chain : Nat -> Option Nat}
    (same : nodes.map some = (List.range count).map chain) :
    nodes.length = count ∧ forall index, index < count -> chain index = nodes[index]? := by
  have length_eq : nodes.length = count := by
    have lengths := congrArg List.length same
    rwa [List.length_map, List.length_map, List.length_range] at lengths
  refine ⟨length_eq, ?_⟩
  intro index bounded
  have entry := congrArg (fun values => values[index]?) same
  simp only [List.getElem?_map, List.getElem?_range bounded, Option.map_some] at entry
  rcases Option.map_eq_some_iff.mp entry with ⟨node, found, here⟩
  rw [found, here]

/-- A yielded node is not null. -/
theorem WalkInvariant.yielded_nonNull {count : Nat} {before : List ListEvent} {walk : ListWalk}
    (invariant : WalkInvariant memory options head count before walk) :
    0 ∉ yieldedNodes before := by
  intro member
  rcases List.getElem?_of_mem member with ⟨index, found⟩
  have visits := getElem?_of_map_some invariant.yields
  have bounded := (List.getElem?_eq_some_iff.mp found).1
  rw [visits.1] at bounded
  rcases invariant.passed (index + 1) (Nat.succ_pos index) bounded with ⟨address, here, _, nonNull, _⟩
  rw [visits.2 index bounded, found] at here
  exact nonNull (Option.some.inj here).symm

namespace ListRing

variable {nodes : List Nat}

theorem firstReturn (ring : ListRing memory options head nodes) :
    FirstReturn (followLink memory options.nextName) head (nodes.length + 1) where
  positive := Nat.succ_pos _
  returns := ring.returns
  first := by
    intro steps positive below back
    rcases Nat.exists_eq_add_of_le' positive with ⟨index, rfl⟩
    have here : listChain memory options head (index + 1) = nodes[index]? :=
      ring.visits index (Nat.lt_of_succ_lt_succ below)
    exact ring.headless (List.mem_of_getElem? (here.symm.trans back))

theorem neverNull (ring : ListRing memory options head nodes) {index : Nat}
    (bounded : index ≤ nodes.length + 1) : listChain memory options head index ≠ some 0 := by
  intro null
  apply ring.nonNull
  rcases Nat.eq_zero_or_pos index with zero | positive
  · subst zero
    rw [← Option.some.inj null]
    exact List.mem_cons_self
  · rcases Nat.exists_eq_add_of_le' positive with ⟨previous, rfl⟩
    rcases Nat.le_iff_lt_or_eq.mp (Nat.le_of_succ_le_succ bounded) with inner | last
    · have here := ring.visits previous inner
      exact List.mem_cons_of_mem head (List.mem_of_getElem? (here.symm.trans null))
    · subst last
      rw [← Option.some.inj (ring.returns.symm.trans null)]
      exact List.mem_cons_self

/-- Back links seen along the chain and along the list are the same. -/
theorem backLinked_iff (ring : ListRing memory options head nodes) :
    BackLinked memory options head nodes <->
      forall index, index < nodes.length -> ¬ BrokenAt memory options head index := by
  have positions : forall index, index < nodes.length + 1 ->
      listChain memory options head index = (head :: nodes)[index]? := by
    intro index bounded
    cases index with
    | zero => rfl
    | succ index =>
        rw [List.getElem?_cons_succ]
        exact ring.visits index (Nat.lt_of_succ_lt_succ bounded)
  constructor
  · rintro linked index bounded ⟨previous, node, cell, previousAt, nodeAt, readable, broken⟩
    rw [positions index (Nat.lt_succ_of_lt bounded)] at previousAt
    rw [ring.visits index bounded] at nodeAt
    rcases linked index node previous nodeAt previousAt with ⟨stored, found, back⟩
    rw [Option.some.inj (readable.symm.trans found)] at broken
    exact broken back.symm
  · intro intact index node previous nodeAt previousAt
    have bounded := (List.getElem?_eq_some_iff.mp nodeAt).1
    have here := (ring.visits index bounded).trans nodeAt
    rcases readable_of_listChain_succ here (ring.firstReturn.total (index + 2)) with ⟨cell, readable⟩
    refine ⟨cell, readable, ?_⟩
    by_contra broken
    exact intact index bounded ⟨previous, node, cell,
      (positions index (Nat.lt_succ_of_lt bounded)).trans previousAt, here, readable, Ne.symm broken⟩

/-- A chain that closes after the listed nodes is a ring. -/
theorem of_listed (nonNull : head ≠ 0)
    (listed : nodes.map some =
      (List.range nodes.length).map fun index => listChain memory options head (index + 1))
    (present : 0 ∉ nodes)
    (closed : FirstReturn (followLink memory options.nextName) head (nodes.length + 1)) :
    ListRing memory options head nodes := by
  have visits := (getElem?_of_map_some listed).2
  refine ⟨visits, closed.returns, ?_, ?_, ?_⟩
  · rw [List.nodup_iff_getElem?_ne_getElem?]
    intro first second ordered bounded same
    rw [← visits first (Nat.lt_trans ordered bounded), ← visits second bounded] at same
    have divides := closed.dvd_of_eq (Nat.succ_le_succ (Nat.le_of_lt ordered)) same
    have far := Nat.le_of_dvd (by omega) divides
    omega
  · intro member
    rcases List.getElem?_of_mem member with ⟨index, found⟩
    have bounded := (List.getElem?_eq_some_iff.mp found).1
    exact closed.first (index + 1) (Nat.succ_pos index) (Nat.succ_lt_succ bounded)
      ((visits index bounded).trans found)
  · intro member
    rcases List.mem_cons.mp member with same | later
    · exact nonNull same.symm
    · exact present later

/-- A chain that closes after the nodes of a walk is a ring. -/
theorem of_firstReturn {count : Nat} {before : List ListEvent} {walk : ListWalk}
    (invariant : WalkInvariant memory options head count before walk)
    (nonNull : head ≠ 0)
    (closed : FirstReturn (followLink memory options.nextName) head (count + 2)) :
    ListRing memory options head (yieldedNodes before ++ [walk.node]) := by
  have listed : (yieldedNodes before ++ [walk.node]).map some =
      (List.range (count + 1)).map fun index => listChain memory options head (index + 1) := by
    rw [List.map_append, invariant.yields, List.range_succ, List.map_append, List.map_singleton,
      List.map_singleton, invariant.nodeAt]
  have length := (getElem?_of_map_some listed).1
  rw [← length] at listed
  apply of_listed nonNull listed
  · intro member
    rcases List.mem_append.mp member with passed | last
    · exact invariant.yielded_nonNull passed
    · exact invariant.nonNull (List.mem_singleton.mp last).symm
  · rw [length]
    exact closed

/-- A walk that stands at the head has gone around a ring. -/
theorem of_atHead {count : Nat} {before : List ListEvent} {walk : ListWalk}
    (invariant : WalkInvariant memory options head count before walk)
    (nonNull : head ≠ 0) (here : walk.node = head) :
    ListRing memory options head (yieldedNodes before) := by
  have length := (getElem?_of_map_some invariant.yields).1
  have listed := invariant.yields
  rw [← length] at listed
  apply of_listed nonNull listed invariant.yielded_nonNull
  rw [length]
  refine ⟨Nat.succ_pos count, here ▸ invariant.nodeAt, ?_⟩
  intro steps positive below back
  rcases invariant.passed steps positive (Nat.le_of_lt_succ below) with ⟨address, found, notHead, _⟩
  exact notHead (Option.some.inj (found.symm.trans back))

theorem listed (ring : ListRing memory options head nodes) :
    nodes.map some =
      (List.range nodes.length).map fun index => listChain memory options head (index + 1) := by
  apply List.ext_getElem?
  intro index
  rw [List.getElem?_map, List.getElem?_map]
  rcases Nat.lt_or_ge index nodes.length with inside | outside
  · rw [List.getElem?_range inside, Option.map_some, ring.visits index inside,
      List.getElem?_eq_getElem inside, Option.map_some]
  · rw [List.getElem?_eq_none outside, List.getElem?_eq_none (by rwa [List.length_range])]
    rfl

section Ends

variable {count : Nat} {before emitted : List ListEvent} {walk : ListWalk} {ending : Ending ListError}

/-- The only two ways in which the walk of a ring ends: at the head, or on
the last node by the hare that started on the first. -/
theorem stops_cases (ring : ListRing memory options head nodes)
    (invariant : WalkInvariant memory options head count before walk)
    (stops : Stops memory options head walk emitted ending) :
    (count = nodes.length ∧ emitted = [] ∧ ending = walk.ending) ∨
      (count + 1 = nodes.length ∧ yieldedNodes emitted = [walk.node] ∧
        BrokenAt memory options head 0 ∧ ending = .raised .cycle) := by
  have closed := ring.firstReturn
  have notPast : count ≤ nodes.length := by
    apply Nat.le_of_not_lt
    intro past
    rcases invariant.passed (nodes.length + 1) (Nat.succ_pos _) past with ⟨address, here, different, _⟩
    exact different (Option.some.inj (here.symm.trans ring.returns))
  have inner (notHead : walk.node ≠ head) : count < nodes.length := by
    apply Nat.lt_of_le_of_ne notPast
    intro last
    subst last
    exact notHead (Option.some.inj (invariant.nodeAt.symm.trans ring.returns))
  cases stops with
  | atHead here silent ends =>
      left
      refine ⟨?_, silent, ends⟩
      apply Nat.le_antisymm notPast
      apply Nat.le_of_not_lt
      intro short
      exact closed.first (count + 1) (Nat.succ_pos count) (Nat.succ_lt_succ short)
        (here ▸ invariant.nodeAt)
  | revisited notHead exactMode seen silent =>
      rcases (invariant.visited exactMode walk.node).mp seen with ⟨index, positive, bounded, again⟩
      have divides := closed.dvd_of_eq (Nat.le_succ_of_le bounded) (again.trans invariant.nodeAt.symm)
      have far := Nat.le_of_dvd (by omega) divides
      have near := inner notHead
      omega
  | unreadable notHead unmapped silent =>
      rcases readable_of_listChain_succ invariant.nodeAt (closed.total (count + 2)) with ⟨cell, readable⟩
      rw [unmapped] at readable
      cases readable
  | null cell notHead readable null yields =>
      have next := listChain_succ invariant.nodeAt readable
      rw [null] at next
      exact False.elim (ring.neverNull (Nat.succ_le_succ (inner notHead)) next)
  | caught cell notHead readable yields meets =>
      right
      rcases caught_cases invariant notHead readable meets with ⟨first, second, cycle⟩ | ⟨_, broken, again⟩
      · exact False.elim (cycle.avoids cycle.positive (fun index positive => cycle.headless index positive)
          (Nat.succ_pos nodes.length) ring.returns)
      · have divides := closed.dvd_of_eq (Nat.zero_le (count + 2)) (orbit_zero.trans again.returns.symm)
        have far := Nat.le_of_dvd (Nat.succ_pos _) divides
        have near := inner notHead
        exact ⟨by omega, yields, broken, rfl⟩

/-- The events of the loop are the nodes of the ring. -/
theorem yields_all (ring : ListRing memory options head nodes)
    (invariant : WalkInvariant memory options head count before walk)
    (stops : Stops memory options head walk emitted ending) :
    yieldedNodes (before ++ emitted) = nodes := by
  apply List.map_injective_iff.mpr (Option.some_injective Nat)
  rw [yieldedNodes_append, List.map_append, invariant.yields, ring.listed]
  rcases ring.stops_cases invariant stops with ⟨last, silent, _⟩ | ⟨last, yields, _⟩
  · rw [silent, last]
    exact List.append_nil _
  · rw [yields, ← last, List.range_succ, List.map_append, List.map_singleton, List.map_singleton,
      invariant.nodeAt]

/-- A hare started on the first node catches the walk on the last one. -/
theorem first_broken_caught (ring : ListRing memory options head nodes)
    (invariant : WalkInvariant memory options head count before walk)
    (stops : Stops memory options head walk emitted ending)
    (default : options.exactCycles = false) (nonempty : nodes ≠ [])
    (broken : BrokenAt memory options head 0) : ending = .raised .cycle := by
  rcases ring.stops_cases invariant stops with ⟨last, _, _⟩ | ⟨_, _, _, cyclic⟩
  · have positive : 0 < count := by
      rw [last]
      exact List.length_pos_iff.mpr nonempty
    have total : ChainTotal memory options head := ring.firstReturn.total
    have tracks := invariant.hare default
    cases running : walk.fast with
    | none =>
        rw [running] at tracks
        exact False.elim (tracks total 0 positive broken)
    | some fast =>
        rw [running] at tracks
        rcases tracks with ⟨origin, _, _, _, minimal, _, apart⟩
        have first : origin = 0 :=
          Nat.eq_zero_of_not_pos (fun later => minimal total 0 later broken)
        subst first
        have around := orbit_period ring.firstReturn.repeats (Nat.zero_le count) 1
        have different := (apart (count - 1) (by omega)).2
        apply False.elim
        apply different
        rw [show 0 + 1 + (count - 1) = count by omega,
          show 0 + 1 + 2 * (count - 1) + 2 = count + (nodes.length + 1) * 1 by omega]
        exact around.symm
  · exact cyclic

end Ends

/-- On a ring the generator always gets to its loop. -/
theorem walked (ring : ListRing memory options head nodes) {run : Run ListEvent ListError}
    (ended : HeadRun memory options head run) :
    Exists fun count : Nat => Exists fun before : List ListEvent => Exists fun emitted : List ListEvent =>
      Exists fun walk : ListWalk => WalkInvariant memory options head count before walk ∧
        Stops memory options head walk emitted run.ending ∧
        run.events = (if options.includeHead then [.yielded head] else []) ++ (before ++ emitted) := by
  cases ended with
  | headNull null => exact False.elim (ring.nonNull (null ▸ List.mem_cons_self))
  | headUnreadable opening unmapped =>
      have reached : (listChain memory options head 1).isSome := ring.firstReturn.total 1
      rw [unmapped] at reached
      cases reached
  | firstNull opening null => exact False.elim (ring.neverNull (Nat.le_add_left 1 _) null)
  | walked count before emitted walk ending _ invariant stops =>
      exact ⟨count, before, emitted, walk, invariant, stops, rfl⟩

/-- A ring is yielded completely and in order. -/
theorem headRun_yields (ring : ListRing memory options head nodes) {run : Run ListEvent ListError}
    (ended : HeadRun memory options head run) :
    yieldedNodes run.events = (if options.includeHead then [head] else []) ++ nodes := by
  rcases ring.walked ended with ⟨count, before, emitted, walk, invariant, stops, shape⟩
  rw [shape, yieldedNodes_append, ring.yields_all invariant stops]
  cases options.includeHead <;> rfl

/-- The walk along a ring completes exactly if all back links are right. -/
theorem headRun_completed_iff (ring : ListRing memory options head nodes)
    {run : Run ListEvent ListError} (ended : HeadRun memory options head run) :
    run.ending = .completed <-> BackLinked memory options head nodes := by
  rcases ring.walked ended with ⟨count, before, emitted, walk, invariant, stops, _⟩
  rw [ring.backLinked_iff]
  rcases ring.stops_cases invariant stops with ⟨last, _, ends⟩ | ⟨last, _, broken, ends⟩
  · rw [← last, ← invariant.pendingNone, ends, ListWalk.ending]
    cases pending : walk.pendingException with
    | none => exact ⟨fun _ => rfl, fun _ => rfl⟩
    | some error =>
        constructor
        · intro impossible
          cases impossible
        · intro impossible
          cases impossible
  · rw [ends]
    constructor
    · intro impossible
      cases impossible
    · intro intact
      exact False.elim (intact 0 (by omega) broken)

/-- A walk along a ring that does not complete raises a `CorruptListError` or its
subclass. -/
theorem headRun_raises (ring : ListRing memory options head nodes)
    {run : Run ListEvent ListError} (ended : HeadRun memory options head run)
    (broken : ¬ run.ending = .completed) :
    Exists fun error : ListError =>
      run.ending = .raised error ∧ error.errorClass.isCorruptListError = true := by
  rcases ring.walked ended with ⟨count, before, emitted, walk, invariant, stops, _⟩
  rcases ring.stops_cases invariant stops with ⟨_, _, ends⟩ | ⟨_, _, _, ends⟩
  · rw [ends, ListWalk.ending] at broken ⊢
    cases pending : walk.pendingException with
    | none =>
        rw [pending] at broken
        exact False.elim (broken rfl)
    | some error =>
        refine ⟨error, rfl, ?_⟩
        rw [invariant.pendingClass error pending]
        rfl
  · exact ⟨.cycle, ends, rfl⟩

end ListRing

/-- Outside the situation of the early hare, a reported cycle is one. -/
theorem headRun_cycle_sound {run : Run ListEvent ListError} {error : ListError}
    (excluded : ¬ (options.exactCycles = false ∧ Exists fun nodes : List Nat =>
      nodes ≠ [] ∧ ListRing memory options head nodes ∧ BrokenAt memory options head 0))
    (ended : HeadRun memory options head run) (ends : run.ending = .raised error)
    (isCycle : error.errorClass = .listCycleError) : RevisitsBeforeHead memory options head := by
  cases ended with
  | headNull null =>
      cases ends
      cases isCycle
  | headUnreadable opening unmapped =>
      cases ends
      cases isCycle
  | firstNull opening null =>
      cases ends
      cases isCycle
  | walked count before emitted walk ending nonNull invariant stops =>
      simp only at ends
      subst ends
      cases stops with
      | atHead here silent ends =>
          simp only [ListWalk.ending] at ends
          cases pending : walk.pendingException with
          | none =>
              rw [pending] at ends
              cases ends
          | some deferred =>
              rw [pending] at ends
              cases ends
              rw [invariant.pendingClass error pending] at isCycle
              cases isCycle
      | revisited notHead exactMode seen silent =>
          rcases (invariant.visited exactMode walk.node).mp seen with ⟨index, positive, bounded, again⟩
          refine ⟨index, count + 1, positive, Nat.lt_succ_of_le bounded,
            again.trans invariant.nodeAt.symm, ?_, ?_⟩
          · rw [invariant.nodeAt]
            rfl
          · exact invariant.notYetHead notHead
      | unreadable notHead unmapped silent => cases isCycle
      | null cell notHead readable null yields => cases isCycle
      | caught cell notHead readable yields meets =>
          rcases caught_cases invariant notHead readable meets with revisits | ⟨default, broken, closed⟩
          · exact revisits
          · exact False.elim (excluded ⟨default, _, List.append_ne_nil_of_right_ne_nil _ (List.cons_ne_nil _ _),
              ListRing.of_firstReturn invariant nonNull closed, broken⟩)

/-! ## Results -/

/-- A list that returns to its head through `nodes` is yielded completely and
in order.  The run completes normally exactly if all back links are right, and
raises a `CorruptListError` or its subclass otherwise. -/
theorem listForEach_ring (memory : MemoryImage ListHead) (options : ListOptions)
    (argument : ListArgument) (head : Nat) (nodes : List Nat)
    (given : argument.address = some head) (ring : ListRing memory options head nodes) :
    Exists fun run : Run ListEvent ListError =>
      (forall fuel, walkBound memory ≤ fuel -> listForEach memory options argument fuel = some run) ∧
        yieldedNodes run.events = (if options.includeHead then [head] else []) ++ nodes ∧
        (run.ending = .completed <-> BackLinked memory options head nodes) ∧
        (¬ BackLinked memory options head nodes -> Exists fun error : ListError =>
          run.ending = .raised error ∧ error.errorClass.isCorruptListError = true) := by
  rcases listHeadForEach_finishes memory options head with ⟨run, finishes⟩
  have results : forall fuel, walkBound memory ≤ fuel ->
      listForEach memory options argument fuel = some run := by
    intro fuel enough
    rw [listForEach_of_address given]
    exact finishes fuel enough
  have ended := listHeadForEach_cases (finishes (walkBound memory) (Nat.le_refl _))
  have completes := ring.headRun_completed_iff ended
  exact ⟨run, results, ring.headRun_yields ended, completes,
    fun broken => ring.headRun_raises ended fun completed => broken (completes.mp completed)⟩

/-- A proper list of two nodes, and the same list with a broken first back
link. -/
def twoNodeImage (back : Nat) : MemoryImage ListHead :=
  MemoryImage.ofTable [(8, ⟨16, 24⟩), (16, ⟨24, back⟩), (24, ⟨8, 16⟩)]

theorem twoNodeImage_ring (back : Nat) : ListRing (twoNodeImage back) {} 8 [16, 24] where
  visits := by
    intro index bounded
    have position : index = 0 ∨ index = 1 := by
      simp only [List.length_cons, List.length_nil] at bounded
      omega
    rcases position with rfl | rfl <;> rfl
  returns := rfl
  distinct := by decide
  headless := by decide
  nonNull := by decide

theorem listForEach_ring_twoNode :
    Exists fun run : Run ListEvent ListError =>
      listForEach (twoNodeImage 99) {} (.listHead 8) 8 = some run ∧
        yieldedNodes run.events = [16, 24] ∧ run.ending ≠ .completed := by
  rcases listForEach_ring (twoNodeImage 99) {} (.listHead 8) 8 [16, 24] rfl (twoNodeImage_ring 99) with
    ⟨run, finishes, yields, completes, _⟩
  refine ⟨run, finishes 8 (Nat.le_refl 8), yields, ?_⟩
  intro completed
  rcases completes.mp completed 0 16 8 rfl rfl with ⟨cell, readable, back⟩
  cases readable
  cases back

/-- The cycle reports of `list_for_each` are right, and no list that returns
to its head is reported, except in one situation: without `exact_cycles`, on a
list of at least one node whose first back link does not lead to the head. -/
theorem listForEach_cycle_report_iff (memory : MemoryImage ListHead) (options : ListOptions)
    (argument : ListArgument) (head : Nat) (given : argument.address = some head) :
    ((RaisesListCycleError memory options argument -> RevisitsBeforeHead memory options head) ∧
        (ReturnsToHead memory options head -> ¬ RaisesListCycleError memory options argument)) <->
      ¬ (options.exactCycles = false ∧ Exists fun nodes : List Nat =>
        nodes ≠ [] ∧ ListRing memory options head nodes ∧ BrokenAt memory options head 0) := by
  constructor
  · rintro ⟨_, silent⟩ ⟨default, nodes, nonempty, ring, broken⟩
    apply silent ⟨nodes.length + 1, Nat.succ_pos _, ring.returns⟩
    rcases listHeadForEach_finishes memory options head with ⟨run, finishes⟩
    have finished := finishes (walkBound memory) (Nat.le_refl _)
    rcases ring.walked (listHeadForEach_cases finished) with ⟨count, before, emitted, walk, invariant, stops, _⟩
    have ends : run.ending = .raised .cycle :=
      ring.first_broken_caught invariant stops default nonempty broken
    refine ⟨walkBound memory, run, .cycle, ?_, ends, rfl⟩
    rw [listForEach_of_address given]
    exact finished
  · intro excluded
    have sound : RaisesListCycleError memory options argument -> RevisitsBeforeHead memory options head := by
      rintro ⟨fuel, run, error, finished, ends, isCycle⟩
      rw [listForEach_of_address given] at finished
      exact headRun_cycle_sound excluded (listHeadForEach_cases finished) ends isCycle
    refine ⟨sound, ?_⟩
    rintro ⟨length, positive, back⟩ raises
    rcases sound raises with ⟨first, second, cycle⟩
    exact cycle.avoids cycle.positive (fun index above => cycle.headless index above) positive back

theorem listForEach_cycle_report_twoNode :
    (RaisesListCycleError (twoNodeImage 8) {} (.listHead 8) ->
        RevisitsBeforeHead (twoNodeImage 8) {} 8) ∧
      (ReturnsToHead (twoNodeImage 8) {} 8 ->
        ¬ RaisesListCycleError (twoNodeImage 8) {} (.listHead 8)) := by
  apply (listForEach_cycle_report_iff (twoNodeImage 8) {} (.listHead 8) 8 rfl).mpr
  rintro ⟨_, nodes, _, _, previous, node, cell, previousAt, nodeAt, readable, broken⟩
  cases previousAt
  cases nodeAt
  cases readable
  exact broken rfl

/-- A list of two nodes that returns to its head is reported as cyclic. -/
theorem listForEach_reports_ring_as_cycle :
    ¬ ((RaisesListCycleError (twoNodeImage 99) {} (.listHead 8) ->
          RevisitsBeforeHead (twoNodeImage 99) {} 8) ∧
        (ReturnsToHead (twoNodeImage 99) {} 8 ->
          ¬ RaisesListCycleError (twoNodeImage 99) {} (.listHead 8))) := by
  rintro ⟨_, silent⟩
  apply silent ⟨3, by decide, rfl⟩
  exact ⟨8, ⟨[.printed ⟨8, 16, 99⟩, .yielded 16, .yielded 24], .raised .cycle⟩, .cycle,
    by decide, rfl, rfl⟩

end Types
end CrashPython
